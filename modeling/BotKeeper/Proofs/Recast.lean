import BotKeeper.Proofs.Rejections

/-! What happens to an instance beside its own moves asks for little of it: for its processes, its
calls and what observers see. An instance that differs in nothing of these could stand in its
place, and the same would happen. -/

namespace BotKeeper.Proofs

/-- A change of instances that nothing takes notice of but the moves of the instance. -/
structure Unseen (change : Instance → Instance) : Prop where
  ledger : ∀ state, (change state).toLedger = state.toLedger
  snapshot : ∀ state, (change state).snapshot = state.snapshot
  take : ∀ command state, change (state.take command) = (change state).take command
  observe : ∀ seen state, change (state.observe seen) = (change state).observe seen

def recastAccount (change : Instance → Instance) : Account → Account
  | .vacant ledger => .vacant ledger
  | .kept state => .kept (change state)

def recast (id : AccountId) (change : Instance → Instance) (keeper : Keeper) : Keeper :=
  { keeper with
    accounts := keeper.accounts.mapValues fun other account =>
      if other = id then recastAccount change account else account }

variable {keeper : Keeper} {id other : AccountId} {change : Instance → Instance} {state : Instance}

theorem get?_recast (keeper : Keeper) (id other : AccountId) (change : Instance → Instance) :
    (recast id change keeper).accounts.get? other = (keeper.accounts.get? other).map fun account =>
      if other = id then recastAccount change account else account :=
  OrderedMap.get?_mapValues _ _ _

theorem instance?_recast (keeper : Keeper) (id other : AccountId) (change : Instance → Instance) :
    (recast id change keeper).instance? other =
      (keeper.instance? other).map fun state => if other = id then change state else state := by
  simp only [Keeper.instance?, get?_recast]
  cases keeper.accounts.get? other with
  | none => rfl
  | some account =>
    by_cases here : other = id <;> cases account <;> simp [here, recastAccount, Account.instance?]

theorem recast_put (keeper : Keeper) (id other : AccountId) (change : Instance → Instance)
    (account : Account) : recast id change (keeper.put other account) =
      (recast id change keeper).put other
        (if other = id then recastAccount change account else account) := by
  refine congrArg (fun accounts => { keeper with accounts }) (OrderedMap.eq_of_get? fun key => ?_)
  simp only [Keeper.put, recast, OrderedMap.get?_mapValues, OrderedMap.get?_insert]
  by_cases here : key = other
  · subst here
    simp
  · simp [here]

theorem recast_registered (registered : keeper.instance? id = some state) :
    recast id change keeper = keeper.put id (.kept (change state)) := by
  refine congrArg (fun accounts => { keeper with accounts }) (OrderedMap.eq_of_get? fun key => ?_)
  simp only [OrderedMap.get?_mapValues, OrderedMap.get?_insert]
  by_cases here : key = id
  · subst here
    simp [kept_of_instance? registered, recastAccount]
  · cases keeper.accounts.get? key <;> simp [here]

/-- Where the moves of two instances agree, those of their keepers do. -/
theorem move?_recast (registered : keeper.instance? id = some state) {move : Move}
    (agrees : (change state).move? keeper.around move =
      (state.move? keeper.around move).map (recastAccount change)) :
    (recast id change keeper).move? id move = (keeper.move? id move).map (recast id change) := by
  have around : (recast id change keeper).around = keeper.around := rfl
  simp only [Keeper.move?, instance?_recast, registered, Option.map_some, if_true, Option.bind_some,
    around, agrees, Option.map_map]
  congr 1
  funext account
  simp only [Function.comp_apply, recast_put, if_true]

section unseen

variable (unseen : Unseen change)
include unseen

theorem ledger_recast (keeper : Keeper) (id other : AccountId) :
    (recast id change keeper).ledger other = keeper.ledger other := by
  simp only [Keeper.ledger, get?_recast]
  cases keeper.accounts.get? other with
  | none => rfl
  | some account =>
    cases account <;> by_cases here : other = id <;>
      simp [here, recastAccount, Account.ledger, unseen.ledger]

theorem result?_recast (keeper : Keeper) (id : AccountId) (call : Call) :
    (recast id change keeper).result? call = keeper.result? call := by
  simp only [Keeper.result?, ledger_recast unseen]

private theorem snapshots_recast (keeper : Keeper) (id : AccountId) :
    (recast id change keeper).snapshots = keeper.snapshots := by
  simp only [Keeper.snapshots, OrderedMap.values, recast, OrderedMap.mapValues, List.map_map,
    List.filterMap_map]
  congr 1
  funext entry
  obtain ⟨other, account⟩ := entry
  cases account <;> by_cases here : other = id <;>
    simp [here, recastAccount, Account.instance?, unseen.snapshot]

theorem call_recast (keeper : Keeper) (id other : AccountId) (command : Command) :
    (recast id change keeper).call other command =
      (recast id change (keeper.call other command).1, (keeper.call other command).2) := by
  simp only [Keeper.call, Keeper.find, instance?_recast]
  cases keeper.instance? other with
  | none => rfl
  | some state =>
    have calls : (change state).calls = state.calls := congrArg Ledger.calls (unseen.ledger state)
    by_cases here : other = id <;>
      simp [here, recast_put, recastAccount, unseen.take, calls]

private theorem stopEach_recast (targets : List AccountId) (keeper : Keeper) (id : AccountId) :
    ((recast id change keeper).stopEach targets).1 = recast id change (keeper.stopEach targets).1 := by
  induction targets generalizing keeper with
  | nil => rfl
  | cons target rest ih =>
    simp only [Keeper.stopEach, call_recast unseen]
    generalize keeper.call target .stop = called
    obtain ⟨between, _ | call⟩ := called
    · exact ih between
    · exact ih between

private theorem happen_recast (keeper : Keeper) (id other : AccountId) (bot : Option Bot)
    (happening : Bot → Bot × List Report) :
    (recast id change keeper).happen other bot happening =
      (keeper.happen other bot happening).map (recast id change) := by
  simp only [Keeper.happen, get?_recast]
  cases keeper.accounts.get? other with
  | none => rfl
  | some account =>
    cases bot with
    | none => rfl
    | some bot =>
      by_cases here : other = id <;> cases account <;>
        simp [here, recast_put, recastAccount, Account.observe, unseen.observe]

private theorem add_recast (registered : keeper.instance? id = some state) (config : InstanceConfig)
    (drawn : DrawnName) :
    ((recast id change keeper).add config drawn).1 = recast id change (keeper.add config drawn).1 := by
  unfold Keeper.add
  cases config.validate with
  | error fault => rfl
  | ok valid =>
    simp only [instance?_recast, ledger_recast unseen]
    cases present : keeper.instance? config.accountId with
    | some held => rfl
    | none =>
      have apart : config.accountId ≠ id := by
        rintro rfl
        cases present.symm.trans registered
      simp only [Option.map_none, recast_put, if_neg apart]
      rfl

private theorem update_recast (keeper : Keeper) (id other : AccountId) (config : InstanceConfig)
    (drawn : DrawnName) :
    ((recast id change keeper).update other config drawn).1 =
      recast id change (keeper.update other config drawn).1 := by
  unfold Keeper.update
  split
  · rfl
  · cases config.validate with
    | error fault => rfl
    | ok valid => simp only [call_recast unseen]

private theorem beginUpdate_recast (keeper : Keeper) (id : AccountId) :
    (recast id change keeper).beginUpdate.1 = recast id change keeper.beginUpdate.1 := by
  have around : (recast id change keeper).around = keeper.around := rfl
  simp only [Keeper.beginUpdate, Keeper.checkUpdate, Keeper.activeIds, snapshots_recast unseen, around]
  split
  · rfl
  · generalize List.map _ _ = active
    cases active <;> rfl

/-- Beside the moves of the instance, what happens is the same with the other instance. -/
theorem step?_recast (registered : keeper.instance? id = some state) {event : Keeper.Event}
    (beside : ∀ move, event ≠ .move id move) :
    (recast id change keeper).step? event = (keeper.step? event).map (recast id change) := by
  cases event with
  | add config drawn => simp only [Keeper.step?, add_recast unseen registered, Option.map_some]
  | update target config drawn => simp only [Keeper.step?, update_recast unseen, Option.map_some]
  | beginUpdate => simp only [Keeper.step?, beginUpdate_recast unseen, Option.map_some]
  | start target | stop target | reboot target | delete target =>
    simp only [Keeper.step?, call_recast unseen, Option.map_some]
  | stopAll =>
    simp only [Keeper.step?, Keeper.stopAll, snapshots_recast unseen, stopEach_recast unseen,
      Option.map_some]
  | endUpdate =>
    simp only [Keeper.step?, Keeper.endUpdate?]
    have permits : (recast id change keeper).permits = keeper.permits := rfl
    rw [permits]
    cases keeper.permits <;> rfl
  | move target move =>
    have apart : target ≠ id := fun same => beside move (same ▸ rfl)
    have around : (recast id change keeper).around = keeper.around := rfl
    simp only [Keeper.step?, Keeper.move?, instance?_recast, if_neg apart, Option.map_id', around,
      Option.map_map]
    congr 1
    funext account
    simp only [Function.comp_apply, recast_put, if_neg apart]
  | print | printLate | exit | closeOutput | alter =>
    simp only [Keeper.step?, Keeper.print?, Keeper.printLate?, Keeper.exit?, ledger_recast unseen]
    exact happen_recast unseen _ _ _ _ _
  | advance | surround => rfl

end unseen

end BotKeeper.Proofs
