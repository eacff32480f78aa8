import BotKeeper.Proofs.Runs

/-! What is safe in every run. An instance at rest keeps records that agree, and no
account ever has two processes that are alive. Both rest on what a move leaves of an
instance, since a move is all that an instance does at once. -/

namespace BotKeeper.Proofs

variable {keeper : Keeper}

/-- The records of an instance that does nothing just now. -/
structure Agrees (state : Instance) : Prop where
  seen : state.snapshot = state.machine.snapshot state.config.name
  free : state.machine.phase = .stopped ↔ state.handle = none
  numbered : state.handle = none ↔ state.snapshot.pid = none
  dated : state.snapshot.pid = none ↔ state.snapshot.startedAt = none
  stopped : state.machine.phase = .stopped →
    state.pendingStart = none ∧ state.stopWaiters = [] ∧ state.restartAt = none
  pending : state.pendingStart ≠ none → state.machine.phase = .stopping
  waiting : state.stopWaiters ≠ [] → state.machine.phase = .stopping
  exclusive : state.pendingStart = none ∨ state.stopWaiters = []
  code : state.snapshot.lastQrPayload.isSome = true ↔ state.machine.phase = .awaitingLogin

/-- Whatever has happened, the records of an instance agree as soon as it is at rest. -/
theorem records_agree_at_rest (reachable : keeper.Reachable) {id : AccountId} {state : Instance}
    (registered : keeper.instance? id = some state) (rest : state.busy = none) : Agrees state := by
  have sound := reachable_sound reachable registered
  have notHalted : state.busy ≠ some .halted := by simp [rest]
  have pid : state.snapshot.pid = state.handle.map UInt32.ofNat := by
    rw [sound.seen]
    exact sound.pid
  have since : state.snapshot.startedAt.isSome = state.handle.isSome := by
    rw [sound.seen]
    exact sound.since
  have stopped : state.machine.phase = .stopped → Unawaited state := by
    intro stopped
    exact sound.unawaited rest (by simp [stopped])
  refine ⟨sound.seen, sound.empty, ?_, ?_, ?_, ?_, ?_, sound.exclusive, ?_⟩
  · rw [pid, Option.map_eq_none_iff]
  · rw [pid, Option.map_eq_none_iff, ← Option.not_isSome_iff_eq_none, ← since,
      Option.not_isSome_iff_eq_none]
  · intro phase
    obtain ⟨pending, waiters⟩ := stopped phase
    exact ⟨pending, waiters, sound.disarmed phase rest⟩
  · intro some
    exact (sound.pending some).resolve_right notHalted
  · intro some
    exact (sound.waiting some).resolve_right notHalted
  · rw [sound.seen]
    exact sound.code

theorem records_agree_after_launch : ∃ keeper : Keeper, ∃ state, keeper.Reachable ∧
    keeper.instance? 100001 = some state ∧ state.busy = none ∧ Agrees state := by
  obtain ⟨keeper, reachable, registered, rest⟩ :=
    rehearsal_reachable [rehearsedConfig 100001 []] [.start 100001, .move 100001 .serve]
      (fun keeper => ∃ there : (keeper.instance? 100001).isSome = true,
        ((keeper.instance? 100001).get there).busy = none) (by decide)
  exact ⟨keeper, _, reachable, (Option.some_get registered).symm, rest,
    records_agree_at_rest reachable (Option.some_get registered).symm rest⟩

theorem reachable_past_gone (reachable : keeper.Reachable) (id : AccountId) :
    AllGone (keeper.ledger id).bots.tail := by
  unfold Keeper.ledger
  cases found : keeper.accounts.get? id with
  | none => exact fun _ impossible => by cases impossible
  | some account => exact (reachable_inOrder reachable account found).past_gone

/-- An account never has two living processes. All but the latest are gone, the latest
too where the instance is stopped, and whatever happens next only ages them, or adds one
when all exits have been reported. This holds at each moment within what happens next. -/
theorem one_process_at_most (reachable : keeper.Reachable) (id : AccountId) :
    ((keeper.ledger id).bots.filter Bot.isAlive).length ≤ 1 ∧
    AllGone (keeper.ledger id).bots.tail ∧
    (∀ state, keeper.instance? id = some state → state.machine.phase = .stopped →
      ∀ bot ∈ (keeper.ledger id).bots, bot.isAlive = false) ∧
    (∀ event after, keeper.step? event = some after →
      Lineage (keeper.ledger id).bots (after.ledger id).bots) ∧
    ∀ moment, Lineage (keeper.ledger id).bots moment → (moment.filter Bot.isAlive).length ≤ 1 := by
  have order : ∀ account, keeper.accounts.get? id = some account → InOrder id account :=
    reachable_inOrder reachable
  have past := reachable_past_gone reachable id
  refine ⟨alive_length_le_one past, past, ?_, ?_, ?_⟩
  · intro state registered stopped bot member
    have kept := kept_of_instance? registered
    have bots : (keeper.ledger id).bots = state.bots := by simp [Keeper.ledger, kept, Account.ledger]
    rw [bots] at member
    exact not_alive_of_gone ((order _ kept).1.gone stopped bot member)
  · intro event after steps
    exact ((step_happens steps id).continues order).lineage
  · intro moment lineage
    exact alive_length_le_one (lineage.past_gone past)

theorem one_process_after_launch : ∃ keeper : Keeper, keeper.Reachable ∧
    ((keeper.ledger 100001).bots.filter Bot.isAlive).length = 1 ∧
    ∀ moment, Lineage (keeper.ledger 100001).bots moment →
      (moment.filter Bot.isAlive).length ≤ 1 := by
  obtain ⟨keeper, reachable, alive⟩ :=
    rehearsal_reachable [rehearsedConfig 100001 []] [.start 100001, .move 100001 .serve]
      (fun keeper => ((keeper.ledger 100001).bots.filter Bot.isAlive).length = 1) (by decide)
  obtain ⟨_, _, _, _, moments⟩ := one_process_at_most reachable 100001
  exact ⟨keeper, reachable, alive, moments⟩

end BotKeeper.Proofs
