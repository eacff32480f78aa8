import BotKeeper.Keeper.Run
import BotKeeper.Proofs.Moves

/-! What an event does to one account. Most events leave most accounts as they
are, and the others register an instance, hand it calls, make one of its moves or
change one of its processes. Whatever holds of an account through these holds in
every run. -/

namespace BotKeeper.Proofs

def ledgerOf (account : Option Account) : Ledger :=
  (account.map Account.ledger).getD {}

def asked (commands : List Command) : Account → Account
  | .vacant ledger => .vacant ledger
  | .kept state => .kept (commands.foldl (fun state command => state.take command) state)

inductive Happens (around : Surroundings) (id : AccountId) (event : Keeper.Event) :
    Option Account → Option Account → Prop where
  | nothing (account : Option Account) : Happens around id event account account
  | registered {account : Option Account} (policy : RestartPolicy) (config : InstanceConfig)
      (free : account.bind Account.instance? = none) (same : config.accountId = id) :
      Happens around id event account
        (some (.kept (Instance.fresh policy config (ledgerOf account))))
  | called (account : Option Account) (commands : List Command)
      (brought : ∀ command ∈ commands, event.command? = some command) :
      Happens around id event account (account.map (asked commands))
  | moved {state : Instance} {move : Move} {account : Account} (same : event = .move id move)
      (moves : Moves around state move account) :
      Happens around id event (some (.kept state)) (some account)
  | observed {account : Account} {bot : Bot} {change : Bot × List Report}
      (member : bot ∈ account.ledger.bots) (changes : Changes bot change) :
      Happens around id event (some account) (some (account.observe change))

private theorem asked_append (first second : List Command) (account : Account) :
    asked (first ++ second) account = asked second (asked first account) := by
  cases account with
  | vacant ledger => rfl
  | kept state => simp only [asked, List.foldl_append]

theorem get?_put (keeper : Keeper) (id other : AccountId) (account : Account) :
    (keeper.put id account).accounts.get? other =
      if other = id then some account else keeper.accounts.get? other :=
  OrderedMap.get?_insert keeper.accounts id other account

theorem kept_of_instance? {keeper : Keeper} {id : AccountId} {state : Instance}
    (found : keeper.instance? id = some state) : keeper.accounts.get? id = some (.kept state) := by
  obtain ⟨account, present, kept⟩ := Option.bind_eq_some_iff.mp found
  cases account with
  | vacant ledger => cases kept
  | kept state => exact present.trans (congrArg _ (congrArg _ (Option.some.inj kept)))

theorem instance?_of_kept {keeper : Keeper} {id : AccountId} {state : Instance}
    (kept : keeper.accounts.get? id = some (.kept state)) : keeper.instance? id = some state := by
  simp [Keeper.instance?, kept, Account.instance?]

theorem mem_snapshots {keeper : Keeper} {snapshot : Snapshot} : snapshot ∈ keeper.snapshots ↔
    ∃ id state, keeper.instance? id = some state ∧ state.snapshot = snapshot := by
  unfold Keeper.snapshots OrderedMap.values
  rw [List.filterMap_map, List.mem_filterMap]
  constructor
  · rintro ⟨⟨id, account⟩, member, shown⟩
    cases account with
    | vacant ledger => cases shown
    | kept state =>
      have found := (keeper.accounts.mem_entries id _).mp member
      exact ⟨id, state, instance?_of_kept found, Option.some.inj shown⟩
  · rintro ⟨id, state, registered, rfl⟩
    have member := (keeper.accounts.mem_entries id _).mpr (kept_of_instance? registered)
    exact ⟨_, member, rfl⟩

theorem accountId_withDefaultName (config : InstanceConfig) (drawn : DrawnName) :
    (config.withDefaultName drawn).accountId = config.accountId := by
  unfold InstanceConfig.withDefaultName
  split <;> rfl

theorem map_asked_nil (account : Option Account) : account.map (asked []) = account := by
  cases account with
  | none => rfl
  | some account => cases account <;> rfl

theorem call_asks (keeper : Keeper) (id other : AccountId) (command : Command) :
    ∃ commands : List Command, (∀ given ∈ commands, given = command) ∧
      (keeper.call id command).1.accounts.get? other =
        (keeper.accounts.get? other).map (asked commands) := by
  unfold Keeper.call Keeper.find
  cases found : keeper.instance? id with
  | none => exact ⟨[], by simp, (map_asked_nil _).symm⟩
  | some state =>
    dsimp only
    rw [get?_put]
    split
    · rename_i here
      subst other
      exact ⟨[command], by simp, by rw [kept_of_instance? found]; rfl⟩
    · exact ⟨[], by simp, (map_asked_nil _).symm⟩

theorem stopEach_asks (other : AccountId) (targets : List AccountId) (keeper : Keeper) :
    ∃ commands : List Command, (∀ given ∈ commands, given = .stop) ∧
      (keeper.stopEach targets).1.accounts.get? other =
        (keeper.accounts.get? other).map (asked commands) := by
  induction targets generalizing keeper with
  | nil => exact ⟨[], by simp, (map_asked_nil _).symm⟩
  | cons id rest ih =>
    obtain ⟨first, firstStops, asks⟩ := call_asks keeper id other .stop
    unfold Keeper.stopEach
    generalize keeper.call id .stop = called at asks
    obtain ⟨between, outcome⟩ := called
    obtain ⟨later, laterStops, follows⟩ := ih between
    have both : ∀ given ∈ first ++ later, given = .stop := by
      intro given member
      rcases List.mem_append.mp member with early | late
      · exact firstStops given early
      · exact laterStops given late
    refine ⟨first ++ later, both, ?_⟩
    have joined : (between.stopEach rest).1.accounts.get? other =
        (keeper.accounts.get? other).map (asked (first ++ later)) := by
      rw [follows, asks, Option.map_map]
      exact congrFun (congrArg Option.map (funext fun account => (asked_append ..).symm)) _
    cases outcome with
    | error error => exact joined
    | ok call => exact joined

theorem happen_observes {keeper after : Keeper} {id : AccountId} {bot : Option Bot}
    {happening : Bot → Bot × List Report} (happens : keeper.happen id bot happening = some after)
    (belongs : ∀ found, bot = some found → found ∈ (keeper.ledger id).bots)
    (changes : ∀ found, bot = some found → Changes found (happening found))
    (event : Keeper.Event) (other : AccountId) :
    Happens keeper.around other event (keeper.accounts.get? other) (after.accounts.get? other) := by
  unfold Keeper.happen at happens
  cases present : keeper.accounts.get? id with
  | none => simp [present] at happens
  | some account =>
    cases bot with
    | none => simp [present] at happens
    | some bot =>
      simp [present] at happens
      subst after
      rw [get?_put]
      split
      · rename_i here
        subst other
        rw [present]
        refine .observed ?_ (changes bot rfl)
        simpa [Keeper.ledger, present] using belongs bot rfl
      · exact .nothing _

private theorem add_registers (keeper : Keeper) (config : InstanceConfig) (drawn : DrawnName)
    (event : Keeper.Event) (other : AccountId) :
    Happens keeper.around other event (keeper.accounts.get? other)
      ((keeper.add config drawn).1.accounts.get? other) := by
  unfold Keeper.add
  split
  · exact .nothing _
  · dsimp only
    split
    · exact .nothing _
    · rename_i free
      dsimp only
      rw [get?_put]
      split
      · rename_i here
        subst other
        exact .registered _ _ free (accountId_withDefaultName config drawn)
      · exact .nothing _

theorem moves_of_step {before after : Keeper} {id : AccountId} {move : Move}
    (happens : before.step? (.move id move) = some after) :
    ∃ state account, before.instance? id = some state ∧
      Moves before.around state move account ∧ after = before.put id account := by
  obtain ⟨account, possible, same⟩ := Option.map_eq_some_iff.mp happens
  obtain ⟨state, registered, moves⟩ := Option.bind_eq_some_iff.mp possible
  exact ⟨state, account, registered, moves_of_move? moves, same.symm⟩

/-- Whatever happens to a keeper, each account is as it was or takes one turn. -/
theorem step_happens {keeper after : Keeper} {event : Keeper.Event}
    (steps : keeper.step? event = some after) (id : AccountId) :
    Happens keeper.around id event (keeper.accounts.get? id) (after.accounts.get? id) := by
  have calls : ∀ {command : Command} (target : AccountId), event.command? = some command →
      Happens keeper.around id event (keeper.accounts.get? id)
        ((keeper.call target command).1.accounts.get? id) := by
    intro command target brings
    obtain ⟨commands, same, asks⟩ := call_asks keeper target id command
    rw [asks]
    apply Happens.called
    intro given member
    rw [same given member]
    exact brings
  cases event with
  | add config drawn =>
    cases steps
    exact add_registers keeper config drawn _ id
  | start target | stop target | reboot target | delete target =>
    cases steps
    exact calls target rfl
  | update target config drawn =>
    cases steps
    unfold Keeper.update
    split
    · exact .nothing _
    · split
      · exact .nothing _
      · exact calls target rfl
  | stopAll =>
    cases steps
    obtain ⟨commands, stops, asks⟩ := stopEach_asks id
      ((keeper.snapshots.filter (Keeper.isStoppable ·.phase)).map (·.id)) keeper
    unfold Keeper.stopAll
    rw [asks]
    apply Happens.called
    intro given member
    rw [stops given member]
    rfl
  | beginUpdate =>
    cases steps
    unfold Keeper.beginUpdate
    split
    · exact .nothing _
    · split <;> exact .nothing _
  | endUpdate =>
    simp only [Keeper.step?, Keeper.endUpdate?] at steps
    split at steps <;> cases steps
    exact .nothing _
  | move target move =>
    obtain ⟨state, account, found, moves, rfl⟩ := moves_of_step steps
    rw [get?_put]
    split
    · rename_i here
      subst target
      rw [kept_of_instance? found]
      exact .moved rfl moves
    · exact .nothing _
  | print target bytes =>
    apply happen_observes steps
    · intro bot found
      exact List.mem_of_find?_eq_some found
    · intro bot _
      exact print_changes bot bytes
  | printLate target bytes =>
    apply happen_observes steps
    · intro bot found
      exact List.mem_of_head? (Option.filter_eq_some_iff.mp found).1
    · intro bot _
      exact print_changes bot bytes
  | exit target code =>
    apply happen_observes steps
    · intro bot found
      exact List.mem_of_find?_eq_some found
    · intro bot _
      exact exit_changes bot code keeper.around.now
  | closeOutput target =>
    apply happen_observes steps
    · intro bot found
      exact List.mem_of_head? found
    · intro bot _
      exact closeOutput_changes bot
  | alter target pid conduct =>
    apply happen_observes steps
    · intro bot found
      exact List.mem_of_find?_eq_some found
    · intro bot _
      exact alter_changes bot conduct
  | advance millis uptime | surround host files =>
    cases steps
    exact .nothing _

end BotKeeper.Proofs
