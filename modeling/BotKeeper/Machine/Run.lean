import BotKeeper.Machine

/-! The runs of a machine by itself. It is asked for anything and told anything, in any order
and at any time, and whatever it did is kept as its history, the latest first. -/

namespace BotKeeper

namespace Machine

/-- What a machine is asked for or told. -/
inductive Input where
  | start
  | stop
  | spawned (pid : Option UInt32) (moment : Instant)
  | spawnFailed
  /-- An event of the current process at a time in milliseconds. -/
  | event (event : LifecycleEvent) (now : Nat)
  deriving DecidableEq, Repr

/-- A machine that refuses to do something stays as it was. -/
def accept (machine : Machine) : Except Error (Machine × Outcome) → Machine × Option Outcome
  | .ok (after, outcome) => (after, some outcome)
  | .error _ => (machine, none)

/-- The machine after an input, with the outcome if the input is one that has an outcome and
was not refused. -/
def step (machine : Machine) : Input → Machine × Option Outcome
  | .start => machine.accept machine.start
  | .stop => machine.accept machine.stop
  | .spawned pid moment => (machine.spawned pid moment, none)
  | .spawnFailed => (machine.spawnFailed.1, some machine.spawnFailed.2)
  | .event event now => ((machine.handle event now).1, some (machine.handle event now).2)

/-- An input and what came of it. -/
structure Deed where
  input : Input
  outcome : Option Outcome
  deriving DecidableEq, Repr

namespace Deed

def effects (deed : Deed) : List Effect :=
  (deed.outcome.map (·.effects)).getD []

def isStart (deed : Deed) : Bool :=
  deed.input == .start && deed.outcome.isSome

def isStop (deed : Deed) : Bool :=
  deed.input == .stop && deed.outcome.isSome

/-- Whether an operator has begun or ended something. -/
def isCommand (deed : Deed) : Bool :=
  deed.isStart || deed.isStop

def time? (deed : Deed) : Option Nat :=
  match deed.input with
  | .event _ now => some now
  | _ => none

/-- Whether a bot is replaced because of something that it has reported. -/
def isRestart (deed : Deed) : Bool :=
  deed.time?.isSome && deed.effects.contains .spawn

/-- The numbers of the attempts that are announced. -/
def attempts (deed : Deed) : List UInt32 :=
  deed.effects.filterMap fun
    | .notify (.autoRestarting attempt _) => some attempt
    | _ => none

end Deed

/-- What a machine does about an input. -/
def deed (machine : Machine) (input : Input) : Deed :=
  ⟨input, (machine.step input).2⟩

/-- A machine that began as a new one, and all that it has done since then. -/
inductive Lived (id : AccountId) (policy : RestartPolicy) : List Deed → Machine → Prop where
  | new : Lived id policy [] { id, policy }
  | step {past : List Deed} {machine : Machine} (lived : Lived id policy past machine)
      (input : Input) :
      Lived id policy (machine.deed input :: past) (machine.step input).1

/-- The times of all events, the latest first. -/
def times (past : List Deed) : List Nat :=
  past.filterMap Deed.time?

def restarts (past : List Deed) : List Deed :=
  past.filter Deed.isRestart

/-- What was done since the last deed of a kind, or from the beginning if there was none. -/
def since (ends : Deed → Bool) (past : List Deed) : List Deed :=
  past.takeWhile (!ends ·)

/-- The times of the restarts that are less than a window ago, of all since the last command. -/
def restartsWithin (policy : RestartPolicy) (now : Nat) (past : List Deed) : List Nat :=
  (times (restarts (since Deed.isCommand past))).filter (now - · < policy.windowSecs.toNat * 1000)

/-- The numbers of all attempts that were announced, the first one first. -/
def attempts (past : List Deed) : List UInt32 :=
  past.reverse.flatMap Deed.attempts

end Machine

end BotKeeper
