import BotKeeper.Instance.Termination

/-! How an instance starts and carries out the effects of a step. The effects
are carried out in order. The first one that fails ends them, and the end of a
process may have to be waited for before the rest. -/

namespace BotKeeper

inductive Progress where
  | finished (result : Except Error Unit)
  | suspended (pressure : Pressure) (deadline : Nat) (rest : List Effect)
  deriving DecidableEq

namespace Instance

def launched (around : Surroundings) (state : Instance) : Instance :=
  let pid := state.lastPid + 1
  let bot : Bot :=
    { pid, generation := state.generation, config := state.config,
      conduct := .ofArguments state.config.args }
  { state with
    bots := bot :: state.bots
    handle := some pid
    machine := state.machine.spawned (some (.ofNat pid)) around.moment }.publishSnapshot

/-- The instance after a launch that failed: it has stopped again, and the stops
that wait are answered. -/
def launchFailed (state : Instance) : Instance :=
  let (machine, outcome) := state.machine.spawnFailed
  let told := ({ state with handle := none, machine }.publishTransition outcome).publishNotice
    (.startFailed none)
  { told with restartAt := none }.releaseStops

def spawn (around : Surroundings) (state : Instance) : Instance × Except Error Unit :=
  let state := { state with generation := state.generation + 1 }
  match around.host.launch around.files state.config with
  | .ok () => (state.launched around, .ok ())
  | .error reason =>
    (state.launchFailed, .error (.spawn state.id (.ofSystem reason) reason.text))

def armSchedule (around : Surroundings) (state : Instance) : Instance :=
  let delay := state.config.autoRestart.nextDelay? (around.jitter state.id state.lastPid)
  { state with restartAt := delay.map fun seconds => around.now + seconds * 1000 }

/-- A start, unless the gate is closed. The output of earlier processes is
forgotten if an operator asks for it. The only effect of a start is the spawn. -/
def start (around : Surroundings) (operator : Bool) (state : Instance) :
    Instance × Except Error Unit :=
  if around.gate then (state, .error .updateInProgress)
  else
    match state.machine.start with
    | .error error => (state, .error error)
    | .ok (machine, outcome) =>
      let begun := { state with
        machine
        history := if operator then [] else state.history }.publishTransition outcome
      match begun.spawn around with
      | (state, .ok ()) => (state.armSchedule around, .ok ())
      | (state, .error error) => (state, .error error)

/-- The effects of a step, as far as they can be carried out at once. -/
def carryOut (around : Surroundings) : List Effect → Instance → Instance × Progress
  | [], state => (state, .finished (.ok ()))
  | .notify notice :: rest, state => carryOut around rest (state.publishNotice notice)
  | .spawn :: rest, state =>
    match state.spawn around with
    | (state, .ok ()) => carryOut around rest state
    | (state, .error error) => (state, .finished (.error error))
  | .terminate graceful :: rest, state =>
    match state.terminate around graceful with
    | (state, .complete) => carryOut around rest state
    | (state, .failed error) => (state, .finished (.error error))
    | (state, .awaited pressure deadline) => (state, .suspended pressure deadline rest)

/-- What follows when the instance has stopped: the stops that wait are answered,
and a start that is pending is made. -/
def afterStop (around : Surroundings) (state : Instance) : Instance :=
  let released := { state with restartAt := none, pendingStart := none }.releaseStops
  match state.pendingStart with
  | none => released
  | some (.requested ticket) =>
    let (state, result) := released.start around true
    state.answer ticket result
  | some .scheduled => (released.start around false).1

/-- What follows when the effects for a purpose were carried out, or have failed. -/
def complete (state : Instance) : Purpose → Except Error Unit → Instance
  | .stop ticket, .error error => state.answer ticket (.error error)
  | .stop ticket, .ok () =>
    if state.machine.phase.isStopped then state.answer ticket (.ok ())
    else { state with stopWaiters := state.stopWaiters ++ [ticket] }
  | .reboot ticket, .error error => state.answer ticket (.error error)
  | .reboot ticket, .ok () => { state with pendingStart := some (.requested ticket) }
  | .scheduledRestart, .error _ => state
  | .scheduledRestart, .ok () => { state with pendingStart := some .scheduled }
  | .event true, _ => { state with busy := some .halted }
  | .event false, _ => state

/-- Carries out effects for a purpose, and waits where that is needed. -/
def perform (around : Surroundings) (effects : List Effect) (purpose : Purpose)
    (state : Instance) : Instance :=
  match state.carryOut around effects with
  | (state, .finished result) => state.complete purpose result
  | (state, .suspended pressure deadline rest) =>
    { state with busy := some (.wait ⟨pressure, deadline, rest, purpose⟩) }

section perform

variable (around : Surroundings) (rest : List Effect) (purpose : Purpose) (state : Instance)

theorem perform_nil : state.perform around [] purpose = state.complete purpose (.ok ()) :=
  rfl

theorem perform_notify (notice : Notice) :
    state.perform around (.notify notice :: rest) purpose =
      (state.publishNotice notice).perform around rest purpose :=
  rfl

/-- A launch that fails ends the effects. -/
theorem perform_spawn :
    state.perform around (.spawn :: rest) purpose =
      match state.spawn around with
      | (state, .ok ()) => state.perform around rest purpose
      | (state, .error error) => state.complete purpose (.error error) := by
  simp only [perform, carryOut]
  rcases state.spawn around with ⟨after, _ | _⟩ <;> rfl

/-- The rest of the effects waits for the end of the process, and fails with it. -/
theorem perform_terminate (graceful : Bool) :
    state.perform around (.terminate graceful :: rest) purpose =
      match state.terminate around graceful with
      | (state, .complete) => state.perform around rest purpose
      | (state, .failed error) => state.complete purpose (.error error)
      | (state, .awaited pressure deadline) =>
        { state with busy := some (.wait ⟨pressure, deadline, rest, purpose⟩) } := by
  simp only [perform, carryOut]
  rcases state.terminate around graceful with ⟨after, _ | _ | _⟩ <;> rfl

end perform

end Instance

end BotKeeper
