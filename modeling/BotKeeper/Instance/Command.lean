import BotKeeper.Instance.Effects

/-! What the commands of an operator, the schedule and the reports of a process do
to an instance that waits for nothing. -/

namespace BotKeeper

/-- The place of an account: with its instance, or without one. -/
inductive Account where
  | vacant (ledger : Ledger)
  | kept (state : Instance)
  deriving DecidableEq

namespace Account

def ledger : Account → Ledger
  | vacant ledger => ledger
  | kept state => state.toLedger

def instance? : Account → Option Instance
  | vacant _ => none
  | kept state => some state

end Account

namespace Instance

def startFor (around : Surroundings) (ticket : Ticket) (state : Instance) : Instance :=
  let (state, result) := state.start around true
  state.answer ticket result

/-- A stop. It takes the place of a scheduled start that is pending. -/
def stop (around : Surroundings) (ticket : Ticket) (state : Instance) : Instance :=
  if state.pendingStart = some .scheduled then
    { state with pendingStart := none, stopWaiters := state.stopWaiters ++ [ticket] }
  else
    match state.machine.stop with
    | .error error => state.answer ticket (.error error)
    | .ok (machine, outcome) =>
      ({ state with machine, restartAt := none }.publishTransition outcome).perform around
        outcome.effects (.stop ticket)

/-- A stop with a start after it, or a mere start of a stopped instance. -/
def reboot (around : Surroundings) (ticket : Ticket) (state : Instance) : Instance :=
  if state.machine.phase.isStopped then state.startFor around ticket
  else
    match state.machine.checkReboot with
    | .error error => state.answer ticket (.error error)
    | .ok () =>
      match state.machine.stop with
      | .error error => state.answer ticket (.error error)
      | .ok (machine, outcome) =>
        ({ state with machine }.publishTransition outcome).perform around outcome.effects
          (.reboot ticket)

/-- The restart that the schedule asks for. The operator is told before it begins. -/
def scheduledRestart (around : Surroundings) (state : Instance) : Instance :=
  let state := { state with restartAt := none }
  if state.machine.phase.isStopped || state.pendingStart.isSome then state
  else
    match state.machine.stop with
    | .error _ => state
    | .ok (machine, outcome) =>
      (({ state with machine }.publishNotice .scheduledRestart).publishTransition outcome).perform
        around outcome.effects .scheduledRestart

def update (ticket : Ticket) (config : InstanceConfig) (state : Instance) : Instance :=
  match state.machine.checkIdle with
  | .error error => state.answer ticket (.error error)
  | .ok () => { state with config }.publishSnapshot.answer ticket (.ok ())

/-- What remains when the instance is gone. Whoever still waits for it is told so. -/
def remains (state : Instance) : Ledger :=
  { state.toLedger with
    answers := state.answers ++
      state.requests.map fun request => ⟨request.ticket, .error (.instanceNotFound state.id)⟩ }

def delete (ticket : Ticket) (state : Instance) : Account :=
  match state.machine.checkIdle with
  | .error error => .kept (state.answer ticket (.error error))
  | .ok () => .vacant (state.answer ticket (.ok ())).remains

def serve (around : Surroundings) (request : Request) (state : Instance) : Account :=
  match request.command with
  | .start => .kept (state.startFor around request.ticket)
  | .stop => .kept (state.stop around request.ticket)
  | .reboot => .kept (state.reboot around request.ticket)
  | .update config => .kept (state.update request.ticket config)
  | .delete => state.delete request.ticket

def apply (around : Surroundings) (event : LifecycleEvent) (state : Instance) : Instance :=
  let (machine, outcome) := state.machine.handle event around.uptime
  (({ state with machine }.publish (.lifecycle state.id event)).publishTransition outcome).perform
    around outcome.effects (.event (outcome.changed && outcome.after.isStopped))

/-- A line of output is kept and published, and then the event that it means. -/
def hear (around : Surroundings) (line : String) (state : Instance) : Instance :=
  let state := (state.remember around line).publish (.output state.id line)
  match classify line with
  | some event => state.apply around event
  | none => state

/-- A report of the latest launch counts. Those of earlier ones are dropped. -/
def receive (around : Surroundings) (message : Message) (state : Instance) : Instance :=
  if message.generation = state.generation then
    match message.report with
    | .line text => state.hear around text
    | .exited code => { state with handle := none }.apply around (.processExited code)
  else state

end Instance

end BotKeeper
