import BotKeeper.Proofs.Failures

/-! What each event of a bot leads to. All steps of the machine that an event can make are
listed once, each with its phases and with the effects that are to be carried out for it. -/

namespace BotKeeper.Proofs

def Reported (phase : Phase) : Prop :=
  phase = .awaitingLogin ∨ phase = .running

theorem Reported.up {phase : Phase} (reported : Reported phase) : Up phase ∧ phase ≠ .starting := by
  rcases reported with rfl | rfl <;> simp [Up]

/-- What an event of a bot leads to: the phases before and after it, and what is to be done. -/
inductive Consequence : LifecycleEvent → Phase → Phase → List Effect → Prop where
  | ignored {event : LifecycleEvent} {phase : Phase}
      (other : ∀ message, event = .quickLoginError message → ¬ Reported phase) :
      Consequence event phase phase []
  | offline (phase : Phase) :
      Consequence .accountOffline phase phase [.notify .accountOffline]
  | code (payload : String) :
      Consequence (.qrChallenge payload) .starting .awaitingLogin []
  | login {before : Phase} (account : AccountId)
      (expected : before = .starting ∨ before = .awaitingLogin) :
      Consequence (.loginSuccess account) before .running [.notify (.loginSucceeded account)]
  | replaced {before : Phase} (message : String) (attempt : UInt32) (reported : Reported before) :
      Consequence (.quickLoginError message) before .starting
        [.terminate false, .spawn, .notify (.autoRestarting attempt message)]
  | limited {before : Phase} (message : String) (restarts : UInt32) (reported : Reported before) :
      Consequence (.quickLoginError message) before .stopping
        [.terminate false, .notify (.restartLimitReached restarts)]
  | stopped (code : Option Int32) :
      Consequence (.processExited code) .stopping .stopped []
  | unstarted (code : Option Int32) :
      Consequence (.processExited code) .starting .stopped [.notify (.startFailed code)]
  | crashed {before : Phase} (code : Option Int32) (reported : Reported before) :
      Consequence (.processExited code) before .stopped [.notify (.unexpectedExit code)]

structure Leads (machine : Machine) (event : LifecycleEvent) (step : Machine × Outcome) : Prop where
  before : step.2.before = machine.phase
  after : step.2.after = step.1.phase
  id : step.1.id = machine.id
  consequence : Consequence event machine.phase step.1.phase step.2.effects

theorem stays {machine : Machine} {event : LifecycleEvent} {effects : List Effect}
    (consequence : Consequence event machine.phase machine.phase effects) :
    Leads machine event (machine.stay effects) :=
  ⟨rfl, rfl, rfl, consequence⟩

theorem transits {machine : Machine} {event : LifecycleEvent} {phase : Phase} {effects : List Effect}
    (consequence : Consequence event machine.phase phase effects) :
    Leads machine event (machine.transition phase effects) :=
  ⟨rfl, rfl, rfl, consequence⟩

/-- Whatever a bot reports leads to its consequence. -/
theorem handle_leads (machine : Machine) (event : LifecycleEvent) (now : Nat) :
    Leads machine event (machine.handle event now) := by
  cases event with
  | qrChallenge payload =>
    have shown : machine.phase = .starting ∨ machine.phase = .awaitingLogin →
        Leads machine (.qrChallenge payload) (machine.showCode payload) := by
      rintro (phase | phase)
      · exact ⟨rfl, rfl, rfl, phase ▸ .code payload⟩
      · exact ⟨rfl, rfl, rfl, phase ▸ .ignored (by simp)⟩
    unfold Machine.handle
    cases phase : machine.phase <;> simp only
    case starting => exact shown (.inl phase)
    case awaitingLogin => exact shown (.inr phase)
    all_goals exact stays (.ignored (by simp))
  | quickLoginError message =>
    have restarts : Reported machine.phase →
        Leads machine (.quickLoginError message) (machine.autoRestart message now) := by
      intro reported
      unfold Machine.autoRestart
      dsimp only
      split
      · exact ⟨rfl, rfl, rfl, .limited message _ reported⟩
      · exact ⟨rfl, rfl, rfl, .replaced message _ reported⟩
    unfold Machine.handle
    cases phase : machine.phase <;> simp only
    case awaitingLogin => exact restarts (.inl phase)
    case running => exact restarts (.inr phase)
    all_goals exact stays (.ignored (by simp [Reported, phase]))
  | loginSuccess account =>
    unfold Machine.handle
    cases phase : machine.phase <;> simp only
    case starting => exact transits (.login account (.inl phase))
    case awaitingLogin => exact transits (.login account (.inr phase))
    all_goals exact stays (.ignored (by simp))
  | accountOffline =>
    unfold Machine.handle
    cases phase : machine.phase <;> simp only
    case starting | awaitingLogin | running => exact stays (.offline _)
    all_goals exact stays (.ignored (by simp))
  | processExited code =>
    rw [handle_exit]
    unfold Machine.exited
    cases phase : machine.phase <;> simp only
    case stopped => exact stays (.ignored (by simp))
    case stopping => exact transits (phase ▸ .stopped code)
    case starting => exact transits (phase ▸ .unstarted code)
    case awaitingLogin => exact transits (.crashed code (.inl phase))
    case running => exact transits (.crashed code (.inr phase))

/-- What an event leads to begins with the end of a process, or needs none. -/
theorem Consequence.free {event : LifecycleEvent} {before after : Phase} {effects : List Effect}
    (consequence : Consequence event before after effects) :
    ((.spawn ∈ effects → after = .starting) ∧ ∀ graceful, .terminate graceful ∉ effects) ∨
    Up before ∧ BeginsEnd before after ∧ ∃ graceful rest, effects = .terminate graceful :: rest ∧
      (.spawn ∈ rest → after = .starting) ∧ ∀ graceful, .terminate graceful ∉ rest := by
  cases consequence with
  | replaced message attempt reported =>
    obtain ⟨up, other⟩ := reported.up
    exact .inr ⟨up, ⟨up, .inr ⟨rfl, other⟩⟩, false, _, rfl, by simp, by simp⟩
  | limited message restarts reported =>
    exact .inr ⟨reported.up.1, ⟨reported.up.1, .inl rfl⟩, false, _, rfl, by simp, by simp⟩
  | ignored | offline | code | login | stopped | unstarted | crashed => exact .inl (by simp)

end BotKeeper.Proofs
