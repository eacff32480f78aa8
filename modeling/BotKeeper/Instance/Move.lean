import BotKeeper.Instance.Command

/-! The moves of an account. Each is atomic, and where several are open, any of
them may come next. To settle, an account makes moves in a fixed order until none
is open: what is there already comes first, then the timers that are due. -/

namespace BotKeeper

inductive Move where
  /-- The next report is looked at. -/
  | receive
  /-- The next call is looked at. -/
  | serve
  /-- The scheduled restart is due. -/
  | restart
  /-- What follows from a stop is done. -/
  | conclude
  /-- The process that was waited for has ended. -/
  | resume
  /-- The process that was waited for has not ended in time. -/
  | timeout
  /-- The pipe of a dead process has been open for too long. -/
  | giveUp (pid : Nat)
  deriving DecidableEq, Repr

structure Timer where
  deadline : Nat
  move : Move
  deriving DecidableEq, Repr

namespace Instance

/-- The wait goes on as the end of the process now stands. -/
def goOn (around : Surroundings) (wait : Wait) : Instance × Ending → Instance
  | (state, .complete) =>
    { state with busy := none }.perform around wait.effects wait.purpose
  | (state, .failed error) =>
    { state with busy := none }.complete wait.purpose (.error error)
  | (state, .awaited pressure deadline) =>
    { state with busy := some (.wait { wait with pressure, deadline }) }

/-- The time for the end of the process has run out. One that was only asked to end is killed. -/
def runOut (around : Surroundings) (wait : Wait) (bot : Bot) (state : Instance) : Instance :=
  match wait.pressure with
  | .asked => goOn around wait (state.kill around)
  | .forced => goOn around wait (state, .failed (survivedKill state.id bot.pid))

/-- The account after a move, if the move is open. -/
def move? (around : Surroundings) (state : Instance) : Move → Option Account
  | .receive =>
    match state.busy, state.messages with
    | none, message :: rest => some (.kept ({ state with messages := rest }.receive around message))
    | _, _ => none
  | .serve =>
    match state.busy, state.requests with
    | none, request :: rest => some ({ state with requests := rest }.serve around request)
    | _, _ => none
  | .restart =>
    match state.busy, state.restartAt with
    | none, some deadline =>
      if deadline ≤ around.now then some (.kept (state.scheduledRestart around)) else none
    | _, _ => none
  | .conclude =>
    match state.busy with
    | some .halted => some (.kept ({ state with busy := none }.afterStop around))
    | _ => none
  | .resume =>
    match state.busy, state.held? with
    | some (.wait wait), none => some (.kept (goOn around wait (state, .complete)))
    | _, _ => none
  | .timeout =>
    match state.busy, state.held? with
    | some (.wait wait), some bot =>
      if wait.deadline ≤ around.now then some (.kept (state.runOut around wait bot)) else none
    | _, _ => none
  | .giveUp pid =>
    match state.bot? pid with
    | some bot =>
      match bot.deadline? with
      | some deadline =>
        if deadline ≤ around.now then some (.kept (state.observe bot.giveUp)) else none
      | none => none
    | none => none

/-- The timer of the instance itself: that of its wait, or else that of its schedule. -/
def ownTimer? (state : Instance) : Option Timer :=
  match state.busy with
  | some (.wait wait) => some ⟨wait.deadline, .timeout⟩
  | some .halted => none
  | none => state.restartAt.map (⟨·, .restart⟩)

def timers (state : Instance) : List Timer :=
  state.ownTimer?.toList ++
    state.bots.filterMap fun bot =>
      bot.deadline?.map (⟨·, .giveUp bot.pid⟩)

/-- The timer that is due first, and of several such the one that is listed first. -/
def firstTimer? : List Timer → Option Timer
  | [] => none
  | timer :: rest =>
    match firstTimer? rest with
    | none => some timer
    | some other => some (if timer.deadline ≤ other.deadline then timer else other)

/-- The moves that are tried next, in this order. -/
def nextMoves (state : Instance) : List Move :=
  [.conclude, .resume, .receive, .serve] ++ ((firstTimer? state.timers).map (·.move)).toList

/-- The account after the first of its next moves that is open. -/
def next? (around : Surroundings) (state : Instance) : Option Account :=
  state.nextMoves.findSome? (state.move? around)

/-- The configs with which a bot of this instance was or may soon be launched. -/
def configs (state : Instance) : List InstanceConfig :=
  state.config :: state.bots.map (·.config) ++ state.requests.filterMap (·.command.config?)

/-- More moves than any settling takes. Each report, each call and the end of each bot
lead to a few moves, and then there are the lines that a bot says when it is asked to
end, which are no more than the characters of its arguments. -/
def moveLimit (state : Instance) : Nat :=
  let arguments := state.configs.flatMap (·.args)
  let talk := arguments.foldl (fun total argument => total + argument.length) 0
  (state.messages.length + state.requests.length + state.bots.length + 4) * (talk + 8)

end Instance

namespace Account

/-- Makes the next moves, as many as there are fuel for. -/
def run (around : Surroundings) : Nat → Account → Account
  | 0, account => account
  | fuel + 1, account =>
    match account.instance?.bind (·.next? around) with
    | none => account
    | some after => run around fuel after

def settle (around : Surroundings) (account : Account) : Account :=
  account.run around ((account.instance?.map Instance.moveLimit).getD 0)

end Account

end BotKeeper
