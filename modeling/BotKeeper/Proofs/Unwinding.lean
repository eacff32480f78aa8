import BotKeeper.Proofs.Calls
import BotKeeper.Proofs.Telling
import BotKeeper.Proofs.Unmoved

/-! When the restarts of a bot are forgotten. Whoever brings a bot down for good, or for a start
that is to follow, begins with a stop of the machine. So as long as something is to be done when
the instance has stopped, no restarts are counted. -/

namespace BotKeeper.Proofs

/-- An instance that goes down, or has still to do something when it has stopped. -/
def Bound (state : Instance) : Prop :=
  state.pendingStart ≠ none ∨ state.stopWaiters ≠ [] ∨
    ∃ wait, state.busy = some (.wait wait) ∧ wait.effects = []

def Unwound (state : Instance) : Prop :=
  Bound state → state.machine.restartCount = 0

variable {state : Instance} (around : Surroundings)

theorem stop_unwinds {machine after : Machine} {outcome : Outcome}
    (stopped : machine.stop = .ok (after, outcome)) : after.restartCount = 0 := by
  unfold Machine.stop at stopped
  split at stopped <;> cases stopped
  rfl

namespace Unwound

theorem of_count (count : state.machine.restartCount = 0) : Unwound state :=
  fun _ => count

theorem of_waiting (unawaited : Unawaited state)
    (count : ∀ wait, state.busy = some (.wait wait) → wait.effects = [] →
      state.machine.restartCount = 0) : Unwound state := by
  rintro (pending | waiters | ⟨wait, busy, effects⟩)
  · exact absurd unawaited.1 pending
  · exact absurd unawaited.2 waiters
  · exact count wait busy effects

theorem of_idle (unawaited : Unawaited state) (idle : state.busy = none) : Unwound state :=
  of_waiting unawaited fun wait busy => by cases idle.symm.trans busy

/-- Whether the restarts are forgotten depends on little. -/
theorem congr (unwound : Unwound state) {after : Instance}
    (pending : after.pendingStart = state.pendingStart)
    (waiters : after.stopWaiters = state.stopWaiters)
    (busy : ∀ wait, after.busy = some (.wait wait) → state.busy = some (.wait wait))
    (count : after.machine.restartCount = state.machine.restartCount) : Unwound after := by
  intro bound
  rw [count]
  apply unwound
  rcases bound with pends | awaits | ⟨wait, waits, effects⟩
  · exact .inl (pending ▸ pends)
  · exact .inr (.inl (waiters ▸ awaits))
  · exact .inr (.inr ⟨wait, busy wait waits, effects⟩)

end Unwound

private theorem spawn_unawaited (unawaited : Unawaited state) : Unawaited (state.spawn around).1 := by
  unfold Instance.spawn
  dsimp only
  split
  · exact unawaited
  · exact ⟨unawaited.1, rfl⟩

private theorem start_unwound (unwound : Unwound state) (idle : state.busy = none)
    (stopped : state.machine.phase = .stopped → Unawaited state) (operator : Bool) :
    Unwound (state.start around operator).1 := by
  unfold Instance.start
  split
  · exact unwound
  · rcases start_cases state.machine with ⟨_, refused⟩ | ⟨stops, started⟩
    · rw [refused]
      exact unwound
    · rw [started]
      dsimp only
      generalize told : Instance.publishTransition _ _ = begun
      have unawaited : Unawaited begun := by
        subst told
        exact stopped stops
      have free : begun.busy = none := by
        subst told
        exact idle
      have duties := (spawn_duties around begun).1.trans free
      have still := spawn_unawaited around unawaited
      generalize begun.spawn around = result at duties still
      obtain ⟨after, _ | _⟩ := result
      · exact .of_idle still duties
      · exact .of_idle still duties

/-- The wait for the end of the process goes on or ends, and the bot is replaced, or goes down. -/
theorem goOn_unwound (wait : Wait) {result : Instance × Ending} (unawaited : Unawaited state)
    (plan : Plan state.machine.phase wait.effects wait.purpose)
    (count : wait.effects = [] → state.machine.restartCount = 0)
    (same : SameButBots state result.1) : Unwound (Instance.goOn around wait result) := by
  obtain ⟨bots, messages, ending, rfl⟩ := same.result
  obtain ⟨pressure, deadline, effects, purpose⟩ := wait
  dsimp only at plan count
  have waiting : ∀ pressure deadline, Unwound
      { state with bots, messages, busy := some (.wait ⟨pressure, deadline, effects, purpose⟩) } :=
    fun _ _ => .of_waiting unawaited fun wait busy none => by
      cases busy
      exact count none
  generalize state.machine.phase = phase at plan
  cases plan with
  | stop | reboot | scheduledRestart =>
    cases ending with
    | complete => exact .of_count ((congrArg _ (complete_machine _ _ _)).trans (count rfl))
    | failed error => exact .of_count ((congrArg _ (complete_machine _ _ _)).trans (count rfl))
    | awaited pressure deadline => exact waiting _ _
  | giveUp notice =>
    cases ending with
    | complete => exact .of_idle unawaited rfl
    | failed error => exact .of_idle unawaited rfl
    | awaited pressure deadline => exact waiting _ _
  | replace notice =>
    cases ending with
    | complete =>
      simp only [Instance.goOn, Instance.perform_spawn]
      generalize freed : ({ state with bots, messages, busy := none } : Instance) = free
      have still : Unawaited (free.spawn around).1 := by
        subst freed
        exact spawn_unawaited around unawaited
      have idle : (free.spawn around).1.busy = none := by
        subst freed
        exact (spawn_duties around _).1
      generalize free.spawn around = result at still idle
      obtain ⟨after, _ | _⟩ := result
      · exact .of_idle still idle
      · exact .of_idle still idle
    | failed error => exact .of_idle unawaited rfl
    | awaited pressure deadline => exact waiting _ _

theorem terminate_unwound (idle : state.busy = none) (unawaited : Unawaited state)
    (graceful : Bool) {rest : List Effect} {purpose : Purpose}
    (plan : Plan state.machine.phase rest purpose)
    (count : rest = [] → state.machine.restartCount = 0) :
    Unwound (state.perform around (.terminate graceful :: rest) purpose) := by
  rw [perform_terminate_goOn around idle]
  exact goOn_unwound around ⟨.asked, 0, rest, purpose⟩ unawaited plan count
    (terminate_same around state graceful)

section moves

variable {around}

private theorem stop_unwound (sound : Sound state state) (idle : state.busy = none)
    (unwound : Unwound state) (ticket : Ticket) : Unwound (state.stop around ticket) := by
  unfold Instance.stop
  split
  · rename_i scheduled
    exact .of_count (unwound (.inl (by simp [scheduled])))
  · rcases stop_cases state.machine with ⟨_, refused⟩ | ⟨machine, graceful, same, stopping, stopped⟩
    · rw [refused]
      exact unwound.congr rfl rfl (fun _ busy => busy) rfl
    · rw [stopped]
      refine terminate_unwound around ?_ ?_ graceful ?_ fun _ => stop_unwinds stopped
      · exact idle
      · exact sound.unawaited idle same.up.2
      · exact stopping ▸ .stop ticket

private theorem startFor_unwound (sound : Sound state state) (idle : state.busy = none)
    (unwound : Unwound state) (ticket : Ticket) : Unwound (state.startFor around ticket) := by
  have started := start_unwound around unwound idle
    (fun stopped => sound.unawaited idle (by simp [stopped])) true
  exact started.congr rfl rfl (fun _ busy => busy) rfl

private theorem reboot_unwound (sound : Sound state state) (idle : state.busy = none)
    (unwound : Unwound state) (ticket : Ticket) : Unwound (state.reboot around ticket) := by
  have answered : ∀ result, Unwound (state.answer ticket result) := fun _ =>
    unwound.congr rfl rfl (fun _ busy => busy) rfl
  unfold Instance.reboot
  split
  · exact startFor_unwound sound idle unwound ticket
  · split
    · exact answered _
    · rcases stop_cases state.machine with ⟨_, refused⟩ | ⟨machine, graceful, same, stopping, stopped⟩
      · rw [refused]
        exact answered _
      · rw [stopped]
        refine terminate_unwound around ?_ ?_ graceful ?_ fun _ => stop_unwinds stopped
        · exact idle
        · exact sound.unawaited idle same.up.2
        · exact stopping ▸ .reboot ticket

private theorem scheduledRestart_unwound (sound : Sound state state) (idle : state.busy = none)
    (unwound : Unwound state) : Unwound (state.scheduledRestart around) := by
  have disarmed : Unwound { state with restartAt := none } :=
    unwound.congr rfl rfl (fun _ busy => busy) rfl
  unfold Instance.scheduledRestart
  dsimp only
  split
  · exact disarmed
  · rcases stop_cases state.machine with ⟨_, refused⟩ | ⟨machine, graceful, same, stopping, stopped⟩
    · rw [refused]
      exact disarmed
    · rw [stopped]
      refine terminate_unwound around ?_ ?_ graceful ?_ fun _ => stop_unwinds stopped
      · exact idle
      · exact sound.unawaited idle same.up.2
      · exact stopping ▸ .scheduledRestart

private theorem apply_unwound (sound : Sound state state) (idle : state.busy = none)
    (unwound : Unwound state) (event : LifecycleEvent)
    (present : ∀ code, event ≠ .processExited code) : Unwound (state.apply around event) := by
  by_cases up : Up state.machine.phase
  · have unawaited := sound.unawaited idle up.2
    have reaction := handle_reaction sound.code present around.uptime
    unfold Instance.apply
    generalize state.machine.handle event around.uptime = step at reaction
    cases reaction with
    | ignored =>
      simp only [Machine.stay, Outcome.changed, bne_self_eq_false, Bool.false_and]
      exact .of_idle unawaited idle
    | @noted after same up notices =>
      have notStopped : after.phase.isStopped = false := by simpa [Phase.isStopped] using up.1
      simp only [notStopped, Bool.and_false]
      obtain ⟨feed, told⟩ := perform_notices around _ notices (.event false)
      rw [told]
      exact .of_idle unawaited idle
    | @ended after same stopping notice =>
      have notStopped : Phase.stopping.isStopped = false := rfl
      simp only [notStopped, Bool.and_false]
      refine terminate_unwound around ?_ ?_ false ?_ fun impossible => by cases impossible
      · exact idle
      · exact unawaited
      · exact stopping ▸ .giveUp notice
    | @replaced after same starting notice =>
      have notStopped : Phase.starting.isStopped = false := rfl
      simp only [notStopped, Bool.and_false]
      refine terminate_unwound around ?_ ?_ false ?_ fun impossible => by cases impossible
      · exact idle
      · exact unawaited
      · exact starting ▸ .replace notice
  · rw [apply_ignored around (handle_of_not_up up present _)]
    exact unwound.congr rfl rfl (fun _ busy => busy) rfl

/-- The exit of a process leaves the instance with the same to do as before, if with anything. -/
theorem exited_unwound (unwound : Unwound state) (code : Option Int32) :
    Unwound (state.apply around (.processExited code)) := by
  by_cases stopped : state.machine.phase = .stopped
  · rw [apply_ignored around (handle_of_stopped stopped _ _)]
    exact unwound.congr rfl rfl (fun _ busy => busy) rfl
  · obtain ⟨notices, stops⟩ := exited_stops stopped code
    have changed : (⟨state.machine.phase, .stopped, notices.map .notify⟩ : Outcome).changed = true := by
      simpa [Outcome.changed] using stopped
    have halts : Phase.stopped.isStopped = true := rfl
    simp only [Instance.apply, handle_exit, stops, changed, halts, Bool.and_self]
    obtain ⟨feed, told⟩ := perform_notices around _ notices (.event true)
    rw [told]
    exact unwound.congr rfl rfl (fun _ busy => by cases busy) rfl

private theorem receive_unwound (sound : Sound state state) (idle : state.busy = none)
    (unwound : Unwound state) {message : Message} {rest : List Message}
    (messages : state.messages = message :: rest) :
    Unwound ({ state with messages := rest }.receive around message) := by
  have still : ∀ history feed handle, Unwound
      { state with messages := rest, history, feed, handle } := fun _ _ _ =>
    unwound.congr rfl rfl (fun _ busy => busy) rfl
  unfold Instance.receive
  split
  · obtain ⟨generation, report⟩ := message
    cases report with
    | line text =>
      have dropped := sound.drop messages fun _ impossible => by cases impossible
      unfold Instance.hear
      dsimp only
      split
      · rename_i event means
        exact apply_unwound (dropped.note _ _).rebase idle (still _ _ _) event
          (classify_present means)
      · exact still _ _ _
    | exited code =>
      refine exited_unwound ?_ code
      exact still _ _ none
  · exact still _ _ _

private theorem afterStop_unwound : Unwound ({ state with busy := none }.afterStop around) := by
  unfold Instance.afterStop
  dsimp only
  generalize free : Instance.releaseStops _ = released
  have idle : released.busy = none := congrArg Instance.busy free.symm
  have unawaited : Unawaited released := by
    subst released
    exact ⟨rfl, rfl⟩
  have rests := Unwound.of_idle unawaited idle
  cases state.pendingStart with
  | none => exact rests
  | some pending =>
    have started := start_unwound around rests idle fun _ => unawaited
    cases pending with
    | requested ticket => exact (started true).congr rfl rfl (fun _ busy => busy) rfl
    | scheduled => exact started false

private theorem serve_unwound (sound : Sound state state) (idle : state.busy = none)
    (unwound : Unwound state) (request : Request) {after : Instance}
    (served : state.serve around request = .kept after) : Unwound after := by
  obtain ⟨ticket, command⟩ := request
  cases command with
  | start =>
    cases served
    exact startFor_unwound sound idle unwound ticket
  | stop =>
    cases served
    exact stop_unwound sound idle unwound ticket
  | reboot =>
    cases served
    exact reboot_unwound sound idle unwound ticket
  | update config =>
    cases served
    unfold Instance.update
    split <;> exact unwound.congr rfl rfl (fun _ busy => busy) rfl
  | delete =>
    simp only [Instance.serve, Instance.delete] at served
    split at served
    · cases served
      exact unwound.congr rfl rfl (fun _ busy => busy) rfl
    · cases served

private theorem move_unwound (sound : Sound state state) (unwound : Unwound state) {move : Move}
    {after : Instance} (moves : Moves around state move (.kept after)) : Unwound after := by
  have waiting : ∀ wait, state.busy = some (.wait wait) → wait.effects = [] →
      state.machine.restartCount = 0 := fun wait busy effects =>
    unwound (.inr (.inr ⟨wait, busy, effects⟩))
  generalize result : Account.kept after = account at moves
  cases moves with
  | receive idle messages =>
    cases result
    exact receive_unwound sound idle unwound messages
  | @serve request rest idle requests =>
    have still : Unwound { state with requests := rest } :=
      unwound.congr rfl rfl (fun _ busy => busy) rfl
    exact serve_unwound (sound.requeue rest state.calls) idle still request result.symm
  | restart idle =>
    cases result
    exact scheduledRestart_unwound sound idle unwound
  | conclude halted =>
    cases result
    exact afterStop_unwound
  | @resume wait busy ended =>
    cases result
    obtain ⟨plan, unawaited⟩ := sound.waits wait busy
    exact goOn_unwound around wait unawaited plan (waiting wait busy) ⟨_, _, rfl⟩
  | @timeout wait bot busy held due =>
    cases result
    obtain ⟨plan, unawaited⟩ := sound.waits wait busy
    unfold Instance.runOut
    split
    · exact goOn_unwound around wait unawaited plan (waiting wait busy) (kill_same around state)
    · exact goOn_unwound around wait unawaited plan (waiting wait busy) ⟨_, _, rfl⟩
  | giveUp =>
    cases result
    exact unwound.congr rfl rfl (fun _ busy => busy) rfl

end moves

private theorem fresh_unwound (policy : RestartPolicy) (config : InstanceConfig) (ledger : Ledger) :
    Unwound (Instance.fresh policy config ledger) :=
  .of_count rfl

theorem Unmoved.unwound {event : Keeper.Event} {after : Instance}
    (unmoved : Unmoved event state after) (unwound : Unwound state) : Unwound after := by
  obtain ⟨bots, messages, requests, calls, rfl⟩ := unmoved.same
  exact unwound.congr rfl rfl (fun _ busy => busy) rfl

theorem reachable_unwound {keeper : Keeper} (reachable : keeper.Reachable) {id : AccountId}
    {state : Instance} (registered : keeper.instance? id = some state) : Unwound state := by
  obtain ⟨start, opened, run⟩ := reachable
  induction run generalizing state with
  | refl => simp [Keeper.instance?, OrderedMap.get?_empty] at registered
  | @step between after event run _ happens ih =>
    rcases step_origin happens registered with
      ⟨policy, config, ledger, rfl⟩ | ⟨earlier, present, unmoved | ⟨move, _, moves⟩⟩
    · exact fresh_unwound policy config ledger
    · exact unmoved.unwound (ih present)
    · exact move_unwound (reachable_sound ⟨start, opened, run⟩ present) (ih present) moves

end BotKeeper.Proofs
