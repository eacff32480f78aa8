import BotKeeper.Proofs.Configs
import Mathlib.Data.List.Basic

/-! What is filed under an id. Whoever asks about an id is told of the instance that is registered
under it, or that there is none. Its machine, its config and what observers see of it are all of
that id, and an id that comes back begins anew. -/

namespace BotKeeper.Proofs
open Text

variable {keeper after : Keeper} {id : AccountId} {state : Instance}

section ids

theorem mem_ids : id ∈ keeper.ids ↔ ∃ state, keeper.instance? id = some state := by
  rw [Keeper.ids, List.mem_filterMap]
  constructor
  · rintro ⟨⟨key, account⟩, member, named⟩
    obtain ⟨state, kept, rfl⟩ := Option.map_eq_some_iff.mp named
    exact ⟨state, by
      rw [Keeper.instance?, (keeper.accounts.mem_entries _ _).mp member]
      exact kept⟩
  · rintro ⟨state, registered⟩
    have member := (keeper.accounts.mem_entries id _).mpr (kept_of_instance? registered)
    exact ⟨_, member, rfl⟩

theorem ids_ascending (keeper : Keeper) : keeper.ids.Pairwise (· < ·) := by
  apply List.Pairwise.filterMap _ _ keeper.accounts.ascending
  rintro ⟨first, account⟩ ⟨second, other⟩ less id here next there
  obtain ⟨_, _, rfl⟩ := Option.map_eq_some_iff.mp here
  obtain ⟨_, _, rfl⟩ := Option.map_eq_some_iff.mp there
  exact less

/-- An instance shows itself under its own id. -/
theorem shown_id (reachable : keeper.Reachable) (registered : keeper.instance? id = some state) :
    state.machine.id = id ∧ state.snapshot.id = id := by
  obtain ⟨sound, named⟩ := reachable_inOrder reachable _ (kept_of_instance? registered)
  rw [sound.seen]
  exact ⟨named, named⟩

theorem ids_of_snapshots (reachable : keeper.Reachable) :
    keeper.snapshots.map (·.id) = keeper.ids := by
  rw [Keeper.snapshots, OrderedMap.values, List.filterMap_map, List.map_filterMap, Keeper.ids]
  apply List.filterMap_congr
  rintro ⟨id, account⟩ member
  cases account with
  | vacant ledger => rfl
  | kept state =>
    have registered := instance?_of_kept ((keeper.accounts.mem_entries _ _).mp member)
    exact congrArg some (shown_id reachable registered).2

end ids

theorem read_registered (registered : keeper.instance? id = some state) (part : Instance → α) :
    keeper.read id part = .ok (part state) := by
  rw [Keeper.read, Keeper.find, registered]
  rfl

theorem read_free (free : id ∉ keeper.ids) (part : Instance → α) :
    keeper.read id part = .error (.instanceNotFound id) := by
  cases registered : keeper.instance? id with
  | none =>
    rw [Keeper.read, Keeper.find, registered]
    rfl
  | some state => exact absurd (mem_ids.mpr ⟨state, registered⟩) free

section returns

variable {config : InstanceConfig} {drawn : DrawnName}

private theorem add_accepted (valid : config.validate = .ok ())
    (free : config.accountId ∉ keeper.ids) : (keeper.add config drawn).2 = .ok () := by
  cases registered : keeper.instance? config.accountId with
  | none => simp only [Keeper.add, valid, registered]
  | some state => exact absurd (mem_ids.mpr ⟨state, registered⟩) free

/-- An instance is registered where there is none, and knows only what is known of its account. -/
theorem add_registered (added : keeper.add config drawn = (after, .ok ())) :
    config.accountId ∉ keeper.ids ∧ after.instance? config.accountId =
      some (Instance.fresh keeper.around.settings.restartPolicy (config.withDefaultName drawn)
        (keeper.ledger config.accountId)) := by
  simp only [Keeper.add] at added
  split at added
  · cases added
  · split at added
    · cases added
    · rename_i free
      cases added
      refine ⟨fun member => ?_, ?_⟩
      · obtain ⟨state, registered⟩ := mem_ids.mp member
        rw [free] at registered
        cases registered
      · rw [Keeper.instance?, get?_put, if_pos rfl]
        rfl

/-- A stopped instance that looks at a delete is gone, and the call is answered. -/
theorem delete_served (reachable : keeper.Reachable) (registered : keeper.instance? id = some state)
    (idle : state.busy = none) {ticket : Ticket} {rest : List Request}
    (next : state.requests = ⟨ticket, .delete⟩ :: rest) (stopped : state.machine.phase = .stopped) :
    ∃ after, keeper.step? (.move id .serve) = some after ∧
      after.result? ⟨id, ticket⟩ = some (.ok ()) ∧ id ∉ after.ids := by
  have isStopped : state.machine.phase.isStopped = true := by rw [stopped]; rfl
  have leaves : state.move? keeper.around .serve =
      some (.vacant ({ state with requests := rest }.answer ticket (.ok ())).remains) := by
    simp only [Instance.move?, idle, next, Instance.serve, Instance.delete, Machine.checkIdle,
      isStopped, if_true]
  have steps : keeper.step? (.move id .serve) = some (keeper.put id
      (.vacant ({ state with requests := rest }.answer ticket (.ok ())).remains)) := by
    simp only [Keeper.step?, Keeper.move?, registered, Option.bind_some, leaves, Option.map_some]
  refine ⟨_, steps, ?_, fun member => ?_⟩
  · have told : (⟨ticket, .ok ()⟩ : Answer) ∈ ((keeper.put id (.vacant
        ({ state with requests := rest }.answer ticket (.ok ())).remains)).ledger id).answers := by
      simp [Keeper.ledger, get?_put, Account.ledger, Instance.remains, Instance.answer,
        Ledger.answered]
    exact result?_of_answer (reachable_of_step reachable steps) told
  · obtain ⟨other, found⟩ := mem_ids.mp member
    rw [Keeper.instance?, get?_put, if_pos rfl] at found
    cases found

end returns

/-- Every id is filed once and rightly. What the keeper says about an id is what its instance
says, under that id and with a config that was checked and has a name; of other ids it says that
they have no instance. An id is free again when its instance is deleted, and an instance that is
registered under it then has done nothing yet. -/
theorem registry_consistent (reachable : keeper.Reachable) :
    (∀ id ∈ keeper.ids, ∃ state, keeper.instance? id = some state ∧
      keeper.config id = .ok state.config ∧ keeper.snapshot id = .ok state.snapshot ∧
      keeper.watch id = .ok state.snapshot ∧ keeper.recentOutput id = .ok state.history ∧
      state.config.accountId = id ∧ state.snapshot.id = id ∧ state.machine.id = id ∧
      state.config.validate = .ok () ∧ allBlank state.config.name.toList = false ∧
      state.snapshot.name = state.config.name) ∧
    (∀ id, id ∉ keeper.ids →
      keeper.config id = .error (.instanceNotFound id) ∧
      keeper.snapshot id = .error (.instanceNotFound id) ∧
      keeper.watch id = .error (.instanceNotFound id) ∧
      keeper.recentOutput id = .error (.instanceNotFound id)) ∧
    keeper.ids.Pairwise (· < ·) ∧ keeper.snapshots.map (·.id) = keeper.ids ∧
    (∀ id state ticket rest, keeper.instance? id = some state → state.busy = none →
      state.requests = ⟨ticket, .delete⟩ :: rest → state.machine.phase = .stopped →
      ∃ after, keeper.step? (.move id .serve) = some after ∧
        after.result? ⟨id, ticket⟩ = some (.ok ()) ∧ id ∉ after.ids) ∧
    (∀ config drawn, config.validate = .ok () → config.accountId ∉ keeper.ids →
      (keeper.add config drawn).2 = .ok ()) ∧
    ∀ config drawn after, keeper.add config drawn = (after, .ok ()) →
      config.accountId ∉ keeper.ids ∧ ∃ state, after.instance? config.accountId = some state ∧
        state.config = config.withDefaultName drawn ∧
        state.snapshot = ⟨config.accountId, state.config.name, .stopped, none, 0, none, none⟩ ∧
        state.machine = ⟨config.accountId, keeper.around.settings.restartPolicy, .stopped, none, 0,
          none, none, []⟩ ∧
        state.history = [] ∧ state.restartAt = none ∧ state.requests = [] ∧ state.messages = [] ∧
        state.busy = none ∧ Unawaited state ∧ state.handle = none ∧ AllGone state.bots := by
  refine ⟨fun id member => ?_, fun id free => ?_, ids_ascending keeper,
    ids_of_snapshots reachable, fun id state ticket rest registered idle next stopped => ?_,
    fun config drawn valid free => add_accepted valid free, fun config drawn after added => ?_⟩
  · obtain ⟨state, registered⟩ := mem_ids.mp member
    have present := kept_of_instance? registered
    obtain ⟨fit, -⟩ := reachable_fitted reachable id _ present
    obtain ⟨machineId, snapshotId⟩ := shown_id reachable registered
    refine ⟨state, registered, read_registered registered _, read_registered registered _,
      read_registered registered _, read_registered registered _, fit.account, snapshotId,
      machineId, fit.valid, fit.named, ?_⟩
    rw [(reachable_sound reachable registered).seen]
    rfl
  · exact ⟨read_free free _, read_free free _, read_free free _, read_free free _⟩
  · exact delete_served reachable registered idle next stopped
  · obtain ⟨free, registered⟩ := add_registered added
    have steps : keeper.step? (.add config drawn) = some after := by
      rw [Keeper.step?, added]
    have own := accountId_withDefaultName config drawn
    have gone := (reachable_sound (reachable_of_step reachable steps) registered).free rfl
    refine ⟨free, _, registered, rfl, ?_, ?_, rfl, rfl, rfl, rfl, rfl, ⟨rfl, rfl⟩, rfl, gone⟩
    · simp only [Instance.fresh, Machine.snapshot, own]
    · simp only [Instance.fresh, own]

/-- One of two instances has run, and was deleted and registered again. -/
theorem registry_consistent_after_return : ∃ keeper : Keeper, keeper.Reachable ∧
    keeper.ids = [100001, 100002] ∧ ∃ config, keeper.config 100001 = .ok config ∧
      config.accountId = 100001 ∧ config.validate = .ok () := by
  obtain ⟨keeper, reachable, ids⟩ :=
    rehearsal_reachable [rehearsedConfig 100001 [], rehearsedConfig 100002 []]
      [.start 100001, .move 100001 .serve, .exit 100001 none, .move 100001 .receive,
        .move 100001 .conclude, .delete 100001, .move 100001 .serve,
        .add (rehearsedConfig 100001 []) ⟨"nameless".toList, by decide, by decide⟩]
      (fun keeper => keeper.ids = [100001, 100002]) (by decide)
  obtain ⟨filed, _⟩ := registry_consistent reachable
  obtain ⟨state, _, config, _, _, _, account, _, _, valid, _⟩ := filed 100001 (by simp [ids])
  exact ⟨keeper, reachable, ids, state.config, config, account, valid⟩

end BotKeeper.Proofs
