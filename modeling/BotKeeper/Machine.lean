import BotKeeper.Error
import BotKeeper.Instant
import BotKeeper.Settings

/-! The phases of one instance and the steps between them. The machine itself does
nothing: a step answers with the effects that are to be carried out, in order. -/

namespace BotKeeper

inductive Effect where
  | spawn
  | terminate (graceful : Bool)
  | notify (notice : Notice)
  deriving DecidableEq, Repr

/-- The phases around a step, and what is to be done because of it. -/
structure Outcome where
  before : Phase
  after : Phase
  effects : List Effect := []
  deriving DecidableEq, Repr

def Outcome.changed (outcome : Outcome) : Bool :=
  outcome.before != outcome.after

structure Snapshot where
  id : AccountId
  name : String
  phase : Phase
  lastQrPayload : Option String
  restartCount : UInt32
  startedAt : Option Instant
  pid : Option UInt32
  deriving DecidableEq, Repr

structure Machine where
  id : AccountId
  policy : RestartPolicy
  phase : Phase := .stopped
  lastQrPayload : Option String := none
  /-- Restarts after failed quick logins since the last stop. -/
  restartCount : UInt32 := 0
  startedAt : Option Instant := none
  pid : Option UInt32 := none
  /-- The times, in milliseconds, of the restarts that may still be inside the window. -/
  recentRestarts : List Nat := []
  deriving DecidableEq, Repr

namespace Machine

def snapshot (machine : Machine) (name : String) : Snapshot where
  id := machine.id
  name
  phase := machine.phase
  lastQrPayload := machine.lastQrPayload
  restartCount := machine.restartCount
  startedAt := machine.startedAt
  pid := machine.pid

/-- The machine in another phase. A login code is forgotten outside the wait for
the login, and the process when the instance has stopped. -/
def enter (machine : Machine) (phase : Phase) : Machine :=
  { machine with
    phase
    lastQrPayload := if phase = .awaitingLogin then machine.lastQrPayload else none
    pid := if phase = .stopped then none else machine.pid
    startedAt := if phase = .stopped then none else machine.startedAt }

def transition (machine : Machine) (phase : Phase) (effects : List Effect) : Machine × Outcome :=
  (machine.enter phase, ⟨machine.phase, phase, effects⟩)

def stay (machine : Machine) (effects : List Effect) : Machine × Outcome :=
  (machine, ⟨machine.phase, machine.phase, effects⟩)

def start (machine : Machine) : Except Error (Machine × Outcome) :=
  if machine.phase.isStopped then
    .ok ({ machine with recentRestarts := [] }.transition .starting [.spawn])
  else .error (.alreadyRunning machine.id machine.phase)

/-- Whether a bot in this phase is asked to end before it is made to. A bot that
has not reported yet is ended outright, and where none runs there is nothing to stop. -/
def stopsGracefully? : Phase → Option Bool
  | .starting => some false
  | .awaitingLogin => some true
  | .running => some true
  | .stopped => none
  | .stopping => none

def stop (machine : Machine) : Except Error (Machine × Outcome) :=
  match stopsGracefully? machine.phase with
  | some graceful =>
    .ok ({ machine with restartCount := 0, recentRestarts := [] }.transition .stopping
      [.terminate graceful])
  | none => .error (.invalidTransition machine.id "stop" machine.phase)

/-- A reboot is refused only while a stop is under way. -/
def checkReboot (machine : Machine) : Except Error Unit :=
  if machine.phase = .stopping then
    .error (.invalidTransition machine.id "reboot" machine.phase)
  else .ok ()

/-- Changing or deleting an instance asks for a stopped one. -/
def checkIdle (machine : Machine) : Except Error Unit :=
  if machine.phase.isStopped then .ok () else .error (.instanceBusy machine.id machine.phase)

def spawned (machine : Machine) (pid : Option UInt32) (moment : Instant) : Machine :=
  { machine with pid, startedAt := some moment }

/-- No process could be started, and the instance is stopped again. -/
def spawnFailed (machine : Machine) : Machine × Outcome :=
  if machine.phase.isStopped then machine.stay [] else machine.transition .stopped []

/-- The restarts less than a window before now. Only the oldest ones are looked
at, up to the first that is inside. A clock that was set back ages nothing. -/
def insideWindow (policy : RestartPolicy) (now : Nat) (restarts : List Nat) : List Nat :=
  restarts.dropWhile fun moment => policy.windowSecs.toNat * 1000 ≤ now - moment

/-- A quick login failed: the bot is replaced, unless that has happened too often. -/
def autoRestart (machine : Machine) (reason : String) (now : Nat) : Machine × Outcome :=
  let recent := insideWindow machine.policy now machine.recentRestarts
  if machine.policy.maxRestarts.toNat ≤ recent.length then
    { machine with recentRestarts := recent }.transition .stopping
      [.terminate false, .notify (.restartLimitReached machine.restartCount)]
  else
    let attempt := machine.restartCount + 1
    { machine with recentRestarts := recent ++ [now], restartCount := attempt }.transition .starting
      [.terminate false, .spawn, .notify (.autoRestarting attempt reason)]

def showCode (machine : Machine) (payload : String) : Machine × Outcome :=
  let (machine, outcome) := machine.transition .awaitingLogin []
  ({ machine with lastQrPayload := some payload }, outcome)

/-- The bot is gone. Unless it was being stopped, the operator is told. -/
def exited (machine : Machine) (code : Option Int32) : Machine × Outcome :=
  match machine.phase with
  | .stopped => machine.stay []
  | .stopping => machine.transition .stopped []
  | .starting => machine.transition .stopped [.notify (.startFailed code)]
  | .awaitingLogin => machine.transition .stopped [.notify (.unexpectedExit code)]
  | .running => machine.transition .stopped [.notify (.unexpectedExit code)]

/-- One event of the current process at a time in milliseconds. An event that the
phase does not expect changes nothing. -/
def handle (machine : Machine) (event : LifecycleEvent) (now : Nat) : Machine × Outcome :=
  match event, machine.phase with
  | .qrChallenge payload, .starting => machine.showCode payload
  | .qrChallenge payload, .awaitingLogin => machine.showCode payload
  | .quickLoginError message, .awaitingLogin => machine.autoRestart message now
  | .quickLoginError message, .running => machine.autoRestart message now
  | .loginSuccess account, .starting =>
    machine.transition .running [.notify (.loginSucceeded account)]
  | .loginSuccess account, .awaitingLogin =>
    machine.transition .running [.notify (.loginSucceeded account)]
  | .accountOffline, .starting => machine.stay [.notify .accountOffline]
  | .accountOffline, .awaitingLogin => machine.stay [.notify .accountOffline]
  | .accountOffline, .running => machine.stay [.notify .accountOffline]
  | .processExited code, _ => machine.exited code
  | _, _ => machine.stay []

end Machine

end BotKeeper
