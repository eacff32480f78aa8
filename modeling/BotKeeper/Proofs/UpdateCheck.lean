import BotKeeper.Proofs.Registry
import BotKeeper.Proofs.UpdateGate

/-! Who is in the way of a new shared program. The check is made on what observers see of the
instances, and what it says is true of their machines. -/

namespace BotKeeper.Proofs

variable {keeper : Keeper} {id : AccountId}

def Active (keeper : Keeper) (id : AccountId) : Prop :=
  ∃ state, keeper.instance? id = some state ∧ state.machine.phase ≠ .stopped

theorem mem_activeIds (reachable : keeper.Reachable) :
    id ∈ keeper.activeIds ↔ Active keeper id := by
  rw [Keeper.activeIds, List.mem_map]
  constructor
  · rintro ⟨snapshot, member, rfl⟩
    obtain ⟨listed, up⟩ := List.mem_filter.mp member
    obtain ⟨id, state, registered, rfl⟩ := mem_snapshots.mp listed
    have own := (shown_id reachable registered).2
    have seen := (reachable_sound reachable registered).seen
    refine ⟨state, own ▸ registered, ?_⟩
    rw [seen] at up
    simpa [Phase.isStopped, Machine.snapshot] using up
  · rintro ⟨state, registered, up⟩
    have own := (shown_id reachable registered).2
    have seen := (reachable_sound reachable registered).seen
    have listed := mem_snapshots.mpr ⟨id, state, registered, rfl⟩
    refine ⟨state.snapshot, List.mem_filter.mpr ⟨listed, ?_⟩, own⟩
    rw [seen]
    simpa [Phase.isStopped, Machine.snapshot] using up

/-- The ids are those of all instances, with some left out. -/
theorem activeIds_ascending (reachable : keeper.Reachable) :
    keeper.activeIds.Pairwise (· < ·) := by
  have sublist : keeper.activeIds.Sublist keeper.ids := by
    rw [← ids_of_snapshots reachable]
    exact List.filter_sublist.map _
  exact (ids_ascending keeper).sublist sublist

private theorem checkUpdate_cases (keeper : Keeper) :
    (keeper.activeIds = [] ∧ keeper.checkUpdate = .ok ()) ∨
    (keeper.activeIds ≠ [] ∧
      keeper.checkUpdate = .error (.anyInstanceRunning keeper.activeIds)) := by
  unfold Keeper.checkUpdate
  cases keeper.activeIds with
  | nil => exact .inl ⟨rfl, rfl⟩
  | cons id rest => exact .inr ⟨List.cons_ne_nil _ _, rfl⟩

private theorem beginUpdate_of_open (opened : keeper.around.gate = false) :
    keeper.beginUpdate.2 = keeper.checkUpdate := by
  unfold Keeper.beginUpdate
  rw [opened]
  cases keeper.checkUpdate with
  | error error => rfl
  | ok => rfl

/-- The check of a replacement fails exactly if some machine is not stopped. It then lists the ids
of all of those, once each, in ascending order and separated by commas. Where no permit is held,
a permit is refused in the same cases, with the same error. -/
theorem update_check (reachable : keeper.Reachable) :
    ((∃ error, keeper.checkUpdate = .error error) ↔ ∃ id, Active keeper id) ∧
    (∀ error, keeper.checkUpdate = .error error → ∃ ids, error = .anyInstanceRunning ids ∧
      error.payload = [("ids", String.intercalate "," (ids.map toString))] ∧
      ids.Pairwise (· < ·) ∧ ∀ id, id ∈ ids ↔ Active keeper id) ∧
    (keeper.permits = 0 → keeper.beginUpdate.2 = keeper.checkUpdate) := by
  refine ⟨?_, ?_, ?_⟩
  · rcases checkUpdate_cases keeper with ⟨idle, agreed⟩ | ⟨busy, refused⟩
    · simp [agreed, ← mem_activeIds reachable, idle]
    · simpa [refused, ← mem_activeIds reachable] using List.exists_mem_of_ne_nil _ busy
  · intro error refused
    rcases checkUpdate_cases keeper with ⟨_, agreed⟩ | ⟨_, named⟩
    · rw [agreed] at refused
      cases refused
    · rw [named] at refused
      cases refused
      exact ⟨_, rfl, rfl, activeIds_ascending reachable, fun id => mem_activeIds reachable⟩
  · intro free
    have permits := (reachable_gateKept reachable).permits
    have opened : keeper.around.gate = false := by
      cases gate : keeper.around.gate with
      | false => rfl
      | true => simp [free, gate] at permits
    exact beginUpdate_of_open opened

/-- Of three bots the third and the first were started. The second is not in the way. -/
theorem update_check_lists_two : ∃ keeper : Keeper, keeper.Reachable ∧ keeper.permits = 0 ∧
    Active keeper 100001 ∧ ¬ Active keeper 100002 ∧ Active keeper 100003 ∧
    ∃ error, keeper.beginUpdate.2 = .error error ∧
      error.payload = [("ids", "100001,100003")] := by
  obtain ⟨keeper, reachable, free, refused⟩ :=
    rehearsal_reachable [rehearsedConfig 100001 [], rehearsedConfig 100002 [],
        rehearsedConfig 100003 []]
      [.start 100003, .start 100001, .move 100003 .serve, .move 100001 .serve]
      (fun keeper => keeper.permits = 0 ∧
        keeper.checkUpdate = .error (.anyInstanceRunning [100001, 100003])) (by decide)
  obtain ⟨_, lists, same⟩ := update_check reachable
  obtain ⟨ids, names, payload, _, active⟩ := lists _ refused
  cases names
  refine ⟨keeper, reachable, free, (active _).mp (by decide), fun second => ?_,
    (active _).mp (by decide), _, (same free).trans refused, payload.trans (by decide)⟩
  exact absurd ((active _).mpr second) (by decide)

end BotKeeper.Proofs
