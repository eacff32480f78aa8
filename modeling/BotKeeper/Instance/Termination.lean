import BotKeeper.Instance.Basic

/-! The end of a process that the instance holds. A process is asked to end or is
killed, and its end is complete when its exit has been reported. -/

namespace BotKeeper

/-- How the end of a process stands when nothing more can be done at once. -/
inductive Ending where
  | complete
  | failed (error : Error)
  | awaited (pressure : Pressure) (deadline : Nat)
  deriving DecidableEq

/-- How long the end of a killed process is waited for, in milliseconds. -/
def forcedWaitMillis : Nat := 5000

def noSuchProcess (pid : Nat) : Error :=
  .process s!"Failed to send SIGKILL to pid {pid} (getpgid failed: ESRCH: No such process): ESRCH: No such process"

def signalRefused (pid : Nat) : Error :=
  .process s!"Failed to send SIGKILL to process group {pid} (from pid {pid}): EPERM: Operation not permitted"

def survivedKill (id : AccountId) (pid : Nat) : Error :=
  .process s!"Bot {id} (pid {pid}) survived a forced kill"

namespace Instance

/-- The process that is held, unless its exit has been reported. -/
def held? (state : Instance) : Option Bot :=
  (state.handle.bind state.bot?).filter fun bot => !bot.isGone

/-- The end of the held process after something was done to it. -/
def ending (state : Instance) (pressure : Pressure) (deadline : Nat) : Instance × Ending :=
  match state.held? with
  | none => (state, .complete)
  | some _ => (state, .awaited pressure deadline)

/-- A living process is killed. One that is dead already cannot be. -/
def kill (around : Surroundings) (state : Instance) : Instance × Ending :=
  match state.held? with
  | none => (state, .complete)
  | some bot =>
    if bot.isAlive then
      match bot.conduct.onKill with
      | .dies =>
        (state.observe (bot.die none around.now)).ending .forced (around.now + forcedWaitMillis)
      | .lasts => state.ending .forced (around.now + forcedWaitMillis)
      | .refuses => (state, .failed (signalRefused bot.pid))
    else (state, .failed (noSuchProcess bot.pid))

/-- The process that is held is brought to its end. One that is asked to end has
some time for it, and without that time it is killed. -/
def terminate (around : Surroundings) (state : Instance) (graceful : Bool) : Instance × Ending :=
  let patience := around.settings.gracefulTimeoutSecs.toNat * 1000
  match state.held? with
  | none => (state, .complete)
  | some bot =>
    if graceful && patience != 0 && bot.isAlive && bot.conduct.onKill != .refuses then
      (state.observe (bot.askToEnd around.now)).ending .asked (around.now + patience)
    else state.kill around

end Instance

end BotKeeper
