import BotKeeper.Classification
import BotKeeper.Machine

/-! What the steps of a machine have in common. An instance that is up stays up or
is brought to its end; only an exit or a failed launch stops it, and only a start
leaves the stopped phase. -/

namespace BotKeeper.Proofs

/-- The phases in which a bot is there and nobody has asked for its end. -/
def Up (phase : Phase) : Prop :=
  phase ≠ .stopped ∧ phase ≠ .stopping

def CodeKnown (machine : Machine) : Prop :=
  machine.lastQrPayload.isSome = true ↔ machine.phase = .awaitingLogin

structure SameProcess (before after : Machine) : Prop where
  up : Up before.phase
  id : after.id = before.id
  pid : after.pid = before.pid
  startedAt : after.startedAt = before.startedAt
  code : CodeKnown after
  still : after.phase ≠ .stopped

theorem codeKnown_enter (machine : Machine) {phase : Phase} (other : phase ≠ .awaitingLogin) :
    CodeKnown (machine.enter phase) := by
  simp [CodeKnown, Machine.enter, other]

theorem SameProcess.enter {machine : Machine} (up : Up machine.phase) (restartCount : UInt32)
    (recentRestarts : List Nat) {phase : Phase} (other : phase ≠ .awaitingLogin)
    (still : phase ≠ .stopped) :
    SameProcess machine ({ machine with restartCount, recentRestarts }.enter phase) := by
  refine ⟨up, rfl, ?_, ?_, codeKnown_enter _ other, still⟩
  · simp [Machine.enter, still]
  · simp [Machine.enter, still]

inductive Reaction (machine : Machine) : Machine × Outcome → Prop where
  | ignored : Reaction machine (machine.stay [])
  | noted {after : Machine} (same : SameProcess machine after) (up : Up after.phase)
      (notices : List Notice) :
      Reaction machine (after, ⟨machine.phase, after.phase, notices.map .notify⟩)
  /-- The bot is brought to its end for good. -/
  | ended {after : Machine} (same : SameProcess machine after) (phase : after.phase = .stopping)
      (notice : Notice) :
      Reaction machine (after, ⟨machine.phase, .stopping, [.terminate false, .notify notice]⟩)
  /-- The bot is brought to its end, and another one takes its place. -/
  | replaced {after : Machine} (same : SameProcess machine after) (phase : after.phase = .starting)
      (notice : Notice) :
      Reaction machine
        (after, ⟨machine.phase, .starting, [.terminate false, .spawn, .notify notice]⟩)

private theorem autoRestart_reaction {machine : Machine} (up : Up machine.phase) (reason : String)
    (now : Nat) : Reaction machine (machine.autoRestart reason now) := by
  unfold Machine.autoRestart
  dsimp only
  split
  · exact .ended (.enter up machine.restartCount _ (by decide) (by decide)) rfl _
  · exact .replaced (.enter up _ _ (by decide) (by decide)) rfl _

private theorem showCode_reaction {machine : Machine} (up : Up machine.phase) (payload : String) :
    Reaction machine (machine.showCode payload) := by
  have same : SameProcess machine (machine.showCode payload).1 :=
    ⟨up, rfl, rfl, rfl, by simp [CodeKnown, Machine.showCode, Machine.transition, Machine.enter],
      by simp [Machine.showCode, Machine.transition, Machine.enter]⟩
  exact .noted same (by simp [Up, Machine.showCode, Machine.transition, Machine.enter]) []

private theorem running_reaction {machine : Machine} (up : Up machine.phase) (notice : Notice) :
    Reaction machine (machine.transition .running [.notify notice]) :=
  .noted (.enter up machine.restartCount machine.recentRestarts (by decide) (by decide))
    (by simp [Up, Machine.enter]) [notice]

private theorem stay_reaction {machine : Machine} (up : Up machine.phase) (code : CodeKnown machine)
    (notice : Notice) : Reaction machine (machine.stay [.notify notice]) :=
  .noted ⟨up, rfl, rfl, rfl, code, up.1⟩ up [notice]

theorem handle_exit (machine : Machine) (code : Option Int32) (now : Nat) :
    machine.handle (.processExited code) now = machine.exited code :=
  rfl

theorem handle_reaction {machine : Machine} (code : CodeKnown machine) {event : LifecycleEvent}
    (present : ∀ exitCode, event ≠ .processExited exitCode) (now : Nat) :
    Reaction machine (machine.handle event now) := by
  have up : machine.phase ≠ .stopped → machine.phase ≠ .stopping → Up machine.phase := And.intro
  cases event with
  | processExited exitCode => exact absurd rfl (present exitCode)
  | qrChallenge payload =>
    unfold Machine.handle
    cases phase : machine.phase <;> simp only
    case starting | awaitingLogin => exact showCode_reaction (by simp [Up, phase]) payload
    all_goals exact .ignored
  | quickLoginError message =>
    unfold Machine.handle
    cases phase : machine.phase <;> simp only
    case awaitingLogin | running => exact autoRestart_reaction (by simp [Up, phase]) message now
    all_goals exact .ignored
  | loginSuccess account =>
    unfold Machine.handle
    cases phase : machine.phase <;> simp only
    case starting | awaitingLogin => exact running_reaction (by simp [Up, phase]) _
    all_goals exact .ignored
  | accountOffline =>
    unfold Machine.handle
    cases phase : machine.phase <;> simp only
    case starting | awaitingLogin | running => exact stay_reaction (by simp [Up, phase]) code _
    all_goals exact .ignored

theorem classify_present {line : String} {event : LifecycleEvent} (means : classify line = some event)
    (code : Option Int32) : event ≠ .processExited code := by
  rcases classify_cases means with ⟨_, _, rfl⟩ | ⟨_, _, rfl⟩ | ⟨_, _, rfl⟩ | rfl <;> simp

/-- Outside the phases in which a bot is up, only its exit has an effect. -/
theorem handle_of_not_up {machine : Machine} (down : ¬ Up machine.phase) {event : LifecycleEvent}
    (present : ∀ exitCode, event ≠ .processExited exitCode) (now : Nat) :
    machine.handle event now = machine.stay [] := by
  cases event with
  | processExited exitCode => exact absurd rfl (present exitCode)
  | qrChallenge | quickLoginError | loginSuccess | accountOffline =>
    unfold Machine.handle
    cases phase : machine.phase <;> simp [Up, phase] at down <;> simp only

theorem handle_of_stopped {machine : Machine} (stopped : machine.phase = .stopped)
    (event : LifecycleEvent) (now : Nat) : machine.handle event now = machine.stay [] := by
  cases event with
  | processExited code => simp only [handle_exit, Machine.exited, stopped]
  | qrChallenge | quickLoginError | loginSuccess | accountOffline =>
    unfold Machine.handle
    simp only [stopped]

theorem exited_stops {machine : Machine} (running : machine.phase ≠ .stopped) (code : Option Int32) :
    ∃ notices : List Notice, machine.exited code =
      (machine.enter .stopped, ⟨machine.phase, .stopped, notices.map .notify⟩) := by
  cases phase : machine.phase with
  | stopped => exact absurd phase running
  | stopping => exact ⟨[], by simp [Machine.exited, Machine.transition, phase]⟩
  | starting | awaitingLogin | running =>
    exact ⟨[_], by simp only [Machine.exited, Machine.transition, phase]; rfl⟩

private theorem stopsGracefully?_isSome (phase : Phase) :
    (Machine.stopsGracefully? phase).isSome = true ↔ Up phase := by
  cases phase <;> simp [Machine.stopsGracefully?, Up]

/-- A stop is for a machine that is up, and begins the end of its process. -/
theorem stop_cases (machine : Machine) :
    (¬ Up machine.phase ∧
      machine.stop = .error (.invalidTransition machine.id "stop" machine.phase)) ∨
    ∃ after graceful, SameProcess machine after ∧ after.phase = .stopping ∧
      machine.stop = .ok (after, ⟨machine.phase, .stopping, [.terminate graceful]⟩) := by
  have stoppable := stopsGracefully?_isSome machine.phase
  cases asks : Machine.stopsGracefully? machine.phase with
  | none =>
    rw [asks] at stoppable
    exact .inl ⟨fun up => Bool.noConfusion (stoppable.mpr up), by simp only [Machine.stop, asks]⟩
  | some graceful =>
    rw [asks] at stoppable
    refine .inr ⟨_, graceful, .enter (stoppable.mp rfl) 0 [] (by decide) (by decide), rfl, ?_⟩
    simp only [Machine.stop, asks, Machine.transition]

theorem stop_refused {machine : Machine} (down : ¬ Up machine.phase) :
    machine.stop = .error (.invalidTransition machine.id "stop" machine.phase) := by
  rcases stop_cases machine with ⟨_, refused⟩ | ⟨_, _, same, _⟩
  · exact refused
  · exact absurd same.up down

theorem start_cases (machine : Machine) :
    (machine.phase ≠ .stopped ∧
      machine.start = .error (.alreadyRunning machine.id machine.phase)) ∨
    (machine.phase = .stopped ∧ machine.start =
      .ok ({ machine with recentRestarts := [] }.enter .starting, ⟨.stopped, .starting, [.spawn]⟩)) := by
  cases phase : machine.phase with
  | stopped =>
    exact .inr ⟨rfl, by simp [Machine.start, Phase.isStopped, Machine.transition, phase]⟩
  | starting | awaitingLogin | running | stopping =>
    exact .inl ⟨by decide, by simp [Machine.start, Phase.isStopped, phase]⟩

end BotKeeper.Proofs
