import BotKeeper.Instance.Move
import BotKeeper.Proofs.Bookkeeping

/-! The effects of a step keep the records of an instance in agreement, also where
one of them fails or has to wait for the end of a process. A launch is tried only
when all earlier processes are gone, and where it fails the instance has stopped. -/

namespace BotKeeper.Proofs

/-- An instance that is about to launch a process. -/
structure Vacant (origin state : Instance) : Prop extends Custody origin state where
  gone : AllGone state.bots
  code : CodeKnown state.machine
  starting : state.machine.phase = .starting

variable {origin state : Instance} (around : Surroundings)

theorem Vacant.launched (vacant : Vacant origin state) :
    Recorded origin ({ state with generation := state.generation + 1 }.launched around) where
  numbered := ⟨rfl, vacant.numbered⟩
  free := fun impossible => by cases impossible
  held := by
    intro pid holds
    exact ⟨_, state.bots, rfl, Option.some.inj holds, rfl, vacant.gone,
      fun gone => by cases gone⟩
  dated := fun message member => Nat.le_succ_of_le (vacant.dated message member)
  -- No report of the new launch can be waiting, as all that wait are from earlier ones.
  final := fun code member => absurd (vacant.dated _ member) (Nat.not_succ_le_self _)
  named := vacant.named
  lineage := vacant.lineage.launched vacant.gone rfl rfl
  answers := vacant.answers
  requests := vacant.requests
  calls := vacant.calls
  pid := rfl
  since := rfl
  code := vacant.code
  seen := rfl
  empty := by
    have running : state.machine.phase ≠ .stopped := by simp [vacant.starting]
    exact ⟨fun stopped => absurd stopped running, fun free => by cases free⟩

theorem Vacant.launchFailed (vacant : Vacant origin state) :
    Recorded origin { state with generation := state.generation + 1 }.launchFailed ∧
      { state with generation := state.generation + 1 }.launchFailed.machine.phase = .stopped := by
  have failed : state.machine.spawnFailed =
      (state.machine.enter .stopped, ⟨.starting, .stopped, []⟩) := by
    simp [Machine.spawnFailed, Machine.transition, Phase.isStopped, vacant.starting]
  simp only [Instance.launchFailed, failed]
  exact ⟨{
    numbered := vacant.numbered
    free := fun _ => vacant.gone
    held := fun pid holds => by cases holds
    dated := fun message member => Nat.le_succ_of_le (vacant.dated message member)
    final := fun _ _ => vacant.gone
    named := vacant.named
    lineage := vacant.lineage
    answers := vacant.answers.trans (List.prefix_append _ _)
    requests := vacant.requests
    calls := vacant.calls
    pid := rfl
    since := rfl
    code := codeKnown_enter state.machine (by decide)
    seen := rfl
    empty := ⟨fun _ => rfl, fun _ => rfl⟩ }, rfl⟩

/-- Either a process was launched and is held, or the instance has stopped and answered
whoever waited for that. -/
theorem Vacant.spawn (vacant : Vacant origin state) :
    (∃ after, state.spawn around = (after, .ok ()) ∧ Recorded origin after ∧
      after.machine.phase = .starting ∧ after.busy = state.busy ∧
      after.pendingStart = state.pendingStart ∧ after.stopWaiters = state.stopWaiters) ∨
    (∃ after error, state.spawn around = (after, .error error) ∧ Recorded origin after ∧
      after.machine.phase = .stopped ∧ after.busy = state.busy ∧
      after.pendingStart = state.pendingStart ∧ after.stopWaiters = [] ∧ after.restartAt = none) := by
  cases launch : around.host.launch around.files state.config with
  | ok nothing =>
    refine .inl ⟨_, ?_, vacant.launched around, vacant.starting, rfl, rfl, rfl⟩
    simp only [Instance.spawn, launch]
  | error reason =>
    refine .inr ⟨_, .spawn state.id (.ofSystem reason) reason.text, ?_, vacant.launchFailed.1,
      vacant.launchFailed.2, rfl, rfl, rfl, rfl⟩
    simp only [Instance.spawn, launch]
    rfl

theorem Sound.answer (sound : Sound origin state) (ticket : Ticket) (result : Except Error Unit) :
    Sound origin (state.answer ticket result) :=
  sound.frame (sound.toRecorded.beside _ (List.prefix_append _ _) _ _ _ _ _) rfl rfl rfl rfl
    (.inl rfl)

theorem perform_notices (state : Instance) (notices : List Notice) (purpose : Purpose) :
    ∃ feed, state.perform around (notices.map .notify) purpose =
      { state with feed }.complete purpose (.ok ()) := by
  induction notices generalizing state with
  | nil => exact ⟨state.feed, rfl⟩
  | cons notice rest ih =>
    obtain ⟨feed, same⟩ := ih (state.publishNotice notice)
    exact ⟨feed, (Instance.perform_notify around _ purpose state notice).trans same⟩

theorem Recorded.complete (recorded : Recorded origin state) (idle : state.busy = none)
    (unawaited : Unawaited state) {effects : List Effect} {purpose : Purpose}
    (plan : Plan state.machine.phase effects purpose) (result : Except Error Unit) :
    Sound origin (state.complete purpose result) := by
  have running := plan.not_stopped
  have sound := recorded.sound idle unawaited fun stopped => absurd stopped running
  have awaited : state.machine.phase = .stopping → ∀ waiters pending,
      waiters = [] ∨ pending = none →
      Sound origin { state with stopWaiters := waiters, pendingStart := pending } := by
    intro stopping waiters pending exclusive
    exact (recorded.beside _ List.prefix_rfl _ _ _ _ _).awaited idle stopping exclusive.symm
  have notStopped : state.machine.phase.isStopped = false := by
    simpa [Phase.isStopped] using running
  generalize stage : state.machine.phase = phase at plan
  cases plan with
  | stop ticket =>
    cases result with
    | error error => exact sound.answer ticket _
    | ok nothing =>
      simp only [Instance.complete, notStopped]
      exact awaited stage _ _ (.inr unawaited.1)
  | reboot ticket =>
    cases result with
    | error error => exact sound.answer ticket _
    | ok nothing => exact awaited stage _ _ (.inl unawaited.2)
  | scheduledRestart =>
    cases result with
    | error error => exact sound
    | ok nothing => exact awaited stage _ _ (.inl unawaited.2)
  | giveUp | replace => exact sound

/-- What remains of a plan is carried out when the process that was waited for is gone. -/
theorem Recorded.perform (recorded : Recorded origin state) (idle : state.busy = none)
    (unawaited : Unawaited state) (gone : AllGone state.bots) {effects : List Effect}
    {purpose : Purpose} (plan : Plan state.machine.phase effects purpose) :
    Sound origin (state.perform around effects purpose) := by
  have completed := recorded.complete idle unawaited plan
  generalize stage : state.machine.phase = phase at plan
  cases plan with
  | stop | reboot | scheduledRestart => exact completed (.ok ())
  | giveUp notice =>
    have told : Recorded origin (state.publishNotice notice) :=
      recorded.beside _ List.prefix_rfl _ _ _ _ _
    refine told.sound idle unawaited fun stopped => ?_
    cases stage.symm.trans stopped
  | replace notice =>
    have vacant : Vacant origin state := ⟨recorded.toCustody, gone, recorded.code, stage⟩
    rw [Instance.perform_spawn]
    rcases vacant.spawn around with
      ⟨after, spawned, records, starting, busy, pending, waiters⟩ |
      ⟨after, error, failed, records, stopped, busy, pending, waiters, disarmed⟩
    · rw [spawned]
      have told : Recorded origin (after.publishNotice notice) :=
        records.beside _ List.prefix_rfl _ _ _ _ _
      refine told.sound (busy.trans idle) ⟨pending.trans unawaited.1, waiters.trans unawaited.2⟩
        fun stopped => ?_
      cases starting.symm.trans stopped
    · rw [failed]
      exact records.sound (busy.trans idle) ⟨pending.trans unawaited.1, waiters⟩ fun _ => disarmed

theorem Recorded.goOn (recorded : Recorded origin state) (unawaited : Unawaited state)
    {result : Instance × Ending} (brought : Brought origin result)
    (same : SameButBots state result.1) {wait : Wait}
    (plan : Plan state.machine.phase wait.effects wait.purpose) :
    Sound origin (Instance.goOn around wait result) := by
  have records := brought.recorded same recorded
  have complete := brought.complete
  obtain ⟨bots, messages, same⟩ := same
  obtain ⟨after, ending⟩ := result
  dsimp only at records complete same
  have freed : Recorded origin { after with busy := none } :=
    records.beside _ List.prefix_rfl _ _ _ _ _
  have samePlan : Plan after.machine.phase wait.effects wait.purpose := by
    rw [same]
    exact plan
  have sameDuties : Unawaited after := by
    rw [same]
    exact unawaited
  cases ending with
  | complete => exact freed.perform around rfl sameDuties (complete rfl) samePlan
  | failed error => exact freed.complete rfl sameDuties samePlan (.error error)
  | awaited pressure deadline =>
    exact {
      toRecorded := records.beside _ List.prefix_rfl _ _ _ _ _
      pending := fun some => absurd sameDuties.1 some
      waiting := fun some => absurd sameDuties.2 some
      exclusive := .inl sameDuties.1
      disarmed := fun stopped => absurd stopped samePlan.not_stopped
      waits := fun wait busy => by
        cases busy
        exact ⟨samePlan, sameDuties⟩
      halted := fun busy => by cases busy }

private theorem busy_none (idle : state.busy = none) : { state with busy := none } = state := by
  rw [← idle]

theorem perform_terminate_goOn (idle : state.busy = none) (graceful : Bool) (rest : List Effect)
    (purpose : Purpose) :
    state.perform around (.terminate graceful :: rest) purpose =
      Instance.goOn around ⟨.asked, 0, rest, purpose⟩ (state.terminate around graceful) := by
  obtain ⟨bots, messages, same⟩ := terminate_same around state graceful
  rw [Instance.perform_terminate]
  generalize state.terminate around graceful = result at same
  obtain ⟨after, ending⟩ := result
  have afterIdle : after.busy = none := (congrArg Instance.busy same).trans idle
  cases ending with
  | complete | failed => simp only [Instance.goOn, busy_none afterIdle]
  | awaited pressure deadline => rfl

theorem Recorded.terminate (recorded : Recorded origin state) (idle : state.busy = none)
    (unawaited : Unawaited state) (graceful : Bool) {rest : List Effect} {purpose : Purpose}
    (plan : Plan state.machine.phase rest purpose) :
    Sound origin (state.perform around (.terminate graceful :: rest) purpose) := by
  rw [perform_terminate_goOn around idle]
  exact recorded.goOn around unawaited (.terminate around graceful recorded.toCustody)
    (terminate_same around state graceful) plan

theorem Sound.start (sound : Sound origin state) (idle : state.busy = none) (operator : Bool) :
    Sound origin (state.start around operator).1 := by
  unfold Instance.start
  split
  · exact sound
  · rcases start_cases state.machine with ⟨_, refused⟩ | ⟨stopped, started⟩
    · rw [refused]
      exact sound
    · rw [started]
      dsimp only
      obtain ⟨pending, waiters⟩ := sound.unawaited idle (by simp [stopped])
      generalize begun : Instance.publishTransition _ _ = between
      have vacant : Vacant origin between := by
        subst between
        exact ⟨sound.toCustody.frame rfl rfl rfl rfl rfl List.prefix_rfl rfl rfl,
          sound.gone stopped, codeKnown_enter _ (by decide), rfl⟩
      have betweenIdle : between.busy = none := (congrArg Instance.busy begun.symm).trans idle
      have noPending : between.pendingStart = none :=
        (congrArg Instance.pendingStart begun.symm).trans pending
      have noWaiters : between.stopWaiters = [] :=
        (congrArg Instance.stopWaiters begun.symm).trans waiters
      rcases vacant.spawn around with
        ⟨after, spawned, records, starting, busy, samePending, sameWaiters⟩ |
        ⟨after, error, failed, records, _, busy, samePending, sameWaiters, disarmed⟩
      · rw [spawned]
        have armed : Recorded origin (after.armSchedule around) :=
          records.beside _ List.prefix_rfl _ _ _ _ _
        refine armed.sound (busy.trans betweenIdle)
          ⟨samePending.trans noPending, sameWaiters.trans noWaiters⟩ fun stopped => ?_
        cases starting.symm.trans stopped
      · rw [failed]
        exact records.sound (busy.trans betweenIdle) ⟨samePending.trans noPending, sameWaiters⟩
          fun _ => disarmed

theorem Sound.afterStop (sound : Sound origin state) :
    Sound origin ({ state with busy := none }.afterStop around) := by
  unfold Instance.afterStop
  dsimp only
  generalize free : Instance.releaseStops _ = released
  have idle : released.busy = none := congrArg Instance.busy free.symm
  have rest : Sound origin released := by
    subst released
    refine Recorded.sound ?_ rfl ⟨rfl, rfl⟩ fun _ => rfl
    exact sound.toRecorded.beside _ (List.prefix_append _ _) _ _ _ _ _
  cases state.pendingStart with
  | none => exact rest
  | some pending =>
    cases pending with
    | requested ticket => exact (rest.start around idle true).answer ticket _
    | scheduled => exact rest.start around idle false

/-- What carrying out effects makes of an instance is related to it, as soon as what each effect
makes of it is. -/
structure Carries (around : Surroundings) (relation : Instance → Instance → Prop) : Prop where
  trans : ∀ {first second third}, relation first second → relation second third →
    relation first third
  notice : ∀ state notice, relation state (Instance.publishNotice state notice)
  spawn : ∀ state, relation state (Instance.spawn around state).1
  terminate : ∀ state graceful, relation state (Instance.terminate around state graceful).1
  busy : ∀ state busy, relation state { state with busy := busy }
  complete : ∀ state purpose result, relation state (Instance.complete state purpose result)

namespace Carries

variable {around : Surroundings} {relation : Instance → Instance → Prop}

theorem perform (carries : Carries around relation) (state : Instance) (effects : List Effect)
    (purpose : Purpose) : relation state (state.perform around effects purpose) := by
  induction effects generalizing state with
  | nil => exact carries.complete state purpose (.ok ())
  | cons effect rest ih =>
    cases effect with
    | notify notice => exact carries.trans (carries.notice state notice) (ih _)
    | spawn =>
      have spawned := carries.spawn state
      rw [Instance.perform_spawn]
      generalize state.spawn around = result at spawned
      obtain ⟨after, error | nothing⟩ := result
      · exact carries.trans spawned (carries.complete after purpose _)
      · exact carries.trans spawned (ih after)
    | terminate graceful =>
      have ended := carries.terminate state graceful
      rw [Instance.perform_terminate]
      generalize state.terminate around graceful = result at ended
      obtain ⟨after, ending⟩ := result
      cases ending with
      | complete => exact carries.trans ended (ih after)
      | failed error => exact carries.trans ended (carries.complete after purpose _)
      | awaited pressure deadline => exact carries.trans ended (carries.busy after _)

theorem goOn (carries : Carries around relation) (state : Instance) (wait : Wait)
    {result : Instance × Ending} (brought : relation state result.1) :
    relation state (Instance.goOn around wait result) := by
  obtain ⟨after, ending⟩ := result
  refine carries.trans brought ?_
  cases ending with
  | complete => exact carries.trans (carries.busy after none) (carries.perform _ _ _)
  | failed error => exact carries.trans (carries.busy after none) (carries.complete _ _ _)
  | awaited pressure deadline => exact carries.busy after _

end Carries

end BotKeeper.Proofs
