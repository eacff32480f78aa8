import BotKeeper.Proofs.Moves

/-! How an instance goes down. While it is being stopped, only the exit of its bot makes a
difference to it: what is to follow when it has stopped stays as it is, unless an operator
asks for a stop. -/

namespace BotKeeper.Proofs

/-- An instance that waits for nothing but the exit of its bot, or has just stopped. -/
def Descends (state : Instance) : Prop :=
  state.busy = none ∧ state.machine.phase = .stopping ∨
    state.busy = some .halted ∧ state.machine.phase = .stopped

/-- An instance that goes down further, and after which the same is to follow. -/
structure Lowers (before after : Instance) : Prop where
  descends : Descends after
  pending : after.pendingStart = before.pendingStart
  waiters : after.stopWaiters = before.stopWaiters

variable (around : Surroundings) (state : Instance)

private theorem apply_lowers (idle : state.busy = none) (stopping : state.machine.phase = .stopping)
    (event : LifecycleEvent) : Lowers state (state.apply around event) := by
  have down : ¬ Up state.machine.phase := fun up => up.2 stopping
  have heard : (∀ code, event ≠ .processExited code) → Lowers state (state.apply around event) := by
    intro present
    rw [apply_ignored around (handle_of_not_up down present _)]
    exact ⟨.inl ⟨idle, stopping⟩, rfl, rfl⟩
  cases event with
  | processExited code =>
    simp only [Instance.apply, handle_exit, Machine.exited, stopping, Machine.transition]
    exact ⟨.inr ⟨rfl, rfl⟩, rfl, rfl⟩
  | qrChallenge | quickLoginError | loginSuccess | accountOffline =>
    exact heard fun _ impossible => by cases impossible

private theorem receive_lowers (idle : state.busy = none) (stopping : state.machine.phase = .stopping)
    (message : Message) : Lowers state (state.receive around message) := by
  have ignored : ∀ history feed, Lowers state { state with history, feed } := fun _ _ =>
    ⟨.inl ⟨idle, stopping⟩, rfl, rfl⟩
  unfold Instance.receive Instance.hear
  dsimp only
  split
  · split
    · split
      · obtain ⟨descends, pending, waiters⟩ :=
          apply_lowers around ((state.remember around _).publish _) idle stopping _
        exact ⟨descends, pending, waiters⟩
      · exact ignored _ _
    · obtain ⟨descends, pending, waiters⟩ :=
        apply_lowers around { state with handle := none } idle stopping (.processExited _)
      exact ⟨descends, pending, waiters⟩
  · exact ignored _ _

/-- A call is only answered while an instance is going down, unless it is a stop that takes the
place of a scheduled start. What the answer is depends on the machine alone. -/
theorem serve_stopping {machine : Machine} (stopping : machine.phase = .stopping)
    (request : Request) : ∃ result, ∀ state : Instance, state.machine = machine →
      (request.command = .stop → state.pendingStart ≠ some .scheduled) →
      state.serve around request = .kept (state.answer request.ticket result) := by
  have running : machine.phase ≠ .stopped := by simp [stopping]
  have busy : machine.phase.isStopped = false := by simp [stopping, Phase.isStopped]
  obtain ⟨ticket, command⟩ := request
  cases command with
  | start =>
    refine ⟨.error (if around.gate then .updateInProgress
      else .alreadyRunning machine.id machine.phase), ?_⟩
    rintro state rfl -
    rcases start_cases state.machine with ⟨_, refused⟩ | ⟨stopped, _⟩
    · simp only [Instance.serve, Instance.startFor, Instance.start, refused]
      split <;> rfl
    · exact absurd stopped running
  | stop =>
    refine ⟨.error (.invalidTransition machine.id "stop" machine.phase), ?_⟩
    rintro state rfl other
    simp only [Instance.serve, Instance.stop, other rfl, if_false,
      stop_refused fun up => up.2 stopping]
  | reboot =>
    refine ⟨.error (.invalidTransition machine.id "reboot" machine.phase), ?_⟩
    rintro state rfl -
    simp only [Instance.serve, Instance.reboot, busy, Bool.false_eq_true, if_false,
      Machine.checkReboot, if_pos stopping]
  | update config =>
    refine ⟨.error (.instanceBusy machine.id machine.phase), ?_⟩
    rintro state rfl -
    simp only [Instance.serve, Instance.update, Machine.checkIdle, busy, Bool.false_eq_true, if_false]
  | delete =>
    refine ⟨.error (.instanceBusy machine.id machine.phase), ?_⟩
    rintro state rfl -
    simp only [Instance.serve, Instance.delete, Machine.checkIdle, busy, Bool.false_eq_true, if_false]

/-- A schedule that is due while the instance is going down is only disarmed. -/
theorem scheduledRestart_stopping (stopping : state.machine.phase = .stopping) :
    state.scheduledRestart around = { state with restartAt := none } := by
  have refused := stop_refused fun up => up.2 stopping
  unfold Instance.scheduledRestart
  dsimp only
  split
  · rfl
  · rw [refused]

variable {around} {state}

/-- Whatever an instance does while it is going down, it goes down further. Only a stop of an
operator changes what is to follow. -/
theorem move_lowers {move : Move} {account : Account} (moves : Moves around state move account)
    (idle : state.busy = none) (stopping : state.machine.phase = .stopping)
    (other : ∀ request ∈ state.requests.head?, move = .serve → request.command = .stop →
      state.pendingStart ≠ some .scheduled) :
    ∃ after, account = .kept after ∧ Lowers state after := by
  cases moves with
  | @receive message rest _ messages =>
    obtain ⟨descends, pending, waiters⟩ :=
      receive_lowers around { state with messages := rest } idle stopping message
    exact ⟨_, rfl, descends, pending, waiters⟩
  | @serve request rest _ requests =>
    obtain ⟨result, answers⟩ := serve_stopping around stopping request
    have served := answers { state with requests := rest } rfl (other request (by simp [requests]) rfl)
    exact ⟨_, served, .inl ⟨idle, stopping⟩, rfl, rfl⟩
  | restart =>
    rw [scheduledRestart_stopping around state stopping]
    exact ⟨_, rfl, .inl ⟨idle, stopping⟩, rfl, rfl⟩
  | giveUp found lingers due => exact ⟨_, rfl, .inl ⟨idle, stopping⟩, rfl, rfl⟩
  | conclude halted => cases idle.symm.trans halted
  | resume busy => cases idle.symm.trans busy
  | timeout busy => cases idle.symm.trans busy

/-- An instance is going down as long as something is to follow its stop. -/
theorem Sound.descends {origin : Instance} (sound : Sound origin state)
    (awaited : ¬ Unawaited state) : Descends state := by
  have down : state.machine.phase = .stopping ∨ state.busy = some .halted := by
    by_cases unpending : state.pendingStart = none
    · exact sound.waiting fun unasked => awaited ⟨unpending, unasked⟩
    · exact sound.pending unpending
  cases busy : state.busy with
  | none => exact .inl ⟨busy, down.resolve_right (by simp [busy])⟩
  | some business =>
    cases business with
    | wait wait => exact absurd (sound.waits wait busy).2 awaited
    | halted => exact .inr ⟨busy, sound.halted busy⟩

/-- What comes of an instance while something is to follow its stop: it goes down further, or it
has stopped and this comes about. -/
inductive GoesDown (around : Surroundings) (state : Instance) : Move → Account → Prop where
  | further {move : Move} {next : Instance} (lowers : Lowers state next) :
      GoesDown around state move (.kept next)
  | concluded (halted : state.busy = some .halted) :
      GoesDown around state .conclude (.kept ({ state with busy := none }.afterStop around))

theorem Sound.goesDown {origin : Instance} (sound : Sound origin state)
    (awaited : ¬ Unawaited state) (unscheduled : state.pendingStart ≠ some .scheduled)
    {move : Move} {account : Account} (moves : Moves around state move account) :
    GoesDown around state move account := by
  have descends := sound.descends awaited
  have further : state.busy = none → GoesDown around state move account := by
    intro idle
    have stopping : state.machine.phase = .stopping := by simpa [Descends, idle] using descends
    obtain ⟨next, rfl, lowers⟩ := move_lowers moves idle stopping fun _ _ _ _ => unscheduled
    exact .further lowers
  cases moves with
  | receive idle => exact further idle
  | serve idle => exact further idle
  | restart idle => exact further idle
  | conclude halted => exact .concluded halted
  | resume busy => exact absurd (sound.waits _ busy).2 awaited
  | timeout busy => exact absurd (sound.waits _ busy).2 awaited
  | giveUp => exact .further ⟨descends, rfl, rfl⟩

end BotKeeper.Proofs
