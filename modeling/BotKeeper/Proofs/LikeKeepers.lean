import BotKeeper.Proofs.Independence
import BotKeeper.Proofs.LikeMoves

/-! Keepers that are alike: the accounts of one id are alike, and all else is the same. Whatever
happens to one can happen to the other, and the same comes of it. -/

namespace BotKeeper.Proofs

structure KeeperLike (id : AccountId) (origin origin' : Ledger) (one other : Keeper) : Prop where
  around : other.around = one.around
  permits : other.permits = one.permits
  elsewhere : ∀ account, account ≠ id → other.accounts.get? account = one.accounts.get? account
  here : ∃ account account', one.accounts.get? id = some account ∧
    other.accounts.get? id = some account' ∧ AccountLike origin origin' account account'

variable {origin origin' : Ledger} {bot : Bot} {happening : Bot → Bot × List Report}

theorem Like.take {one other : Instance} (like : Like origin origin' one other)
    (command : Command) : Like origin origin' (one.take command) (other.take command) := by
  obtain @⟨ledger, messages, generation, ledgers, queues⟩ := like
  unfold Instance.take
  dsimp only
  rw [ledgers.calls]
  exact .mk ⟨ledgers.bots, ledgers.feed, rfl, ledgers.answers⟩ queues

section accounts

variable {account account' : Account}

theorem AccountLike.shown (like : AccountLike origin origin' account account') :
    account'.instance?.map (·.snapshot) = account.instance?.map (·.snapshot) := by
  cases like with
  | vacant => rfl
  | kept like =>
    cases like
    rfl

/-- The same happens to a process of each of two accounts. -/
theorem AccountLike.observe (like : AccountLike origin origin' account account')
    (pick : Ledger → Option Bot)
    (member : ∀ ledger bot, pick ledger = some bot → bot ∈ ledger.bots)
    (picks : ∀ latest latest' one other, LedgerLike origin origin' latest latest' one other →
      Option.Rel (BotLike latest latest') (pick one) (pick other))
    (unnumbered : Unnumbered happening) (changes : ∀ bot, Changes bot (happening bot)) :
    Option.Rel (AccountLike origin origin')
      ((pick account.ledger).map fun bot => account.observe (happening bot))
      ((pick account'.ledger).map fun bot => account'.observe (happening bot)) := by
  cases like with
  | @vacant one other gone ledgers =>
    have picked := picks 0 0 one other ledgers
    have present := member other
    dsimp only [Account.ledger]
    generalize pick one = found at picked ⊢
    generalize pick other = found' at picked present ⊢
    cases picked with
    | none => exact .none
    | @some bot bot' bots =>
      obtain ⟨same, _⟩ := bots.happens unnumbered (changes bot)
      refine .some (.vacant (fun after inside => ?_) (ledgers.happens same))
      obtain ⟨before, listed, rfl⟩ := List.mem_map.mp inside
      split
      · exact (changes bot').ages.gone (gone bot' (present bot' rfl))
      · exact gone before listed
  | @kept one other like =>
    have picked := picks _ _ _ _ like.ledgers
    dsimp only [Account.ledger]
    generalize pick one.toLedger = found at picked ⊢
    generalize pick other.toLedger = found' at picked ⊢
    cases picked with
    | none => exact .none
    | some bots => exact .some (.kept (like.observe bots unnumbered (changes _)))

end accounts

namespace KeeperLike

variable {id : AccountId} {one other : Keeper} (like : KeeperLike id origin origin' one other)
include like

theorem put {account account' : Account} (accounts : AccountLike origin origin' account account') :
    KeeperLike id origin origin' (one.put id account) (other.put id account') := by
  refine ⟨like.around, like.permits, fun target apart => ?_, account, account', ?_, ?_, accounts⟩
  · rw [get?_put, get?_put, if_neg apart, if_neg apart]
    exact like.elsewhere target apart
  · rw [get?_put, if_pos rfl]
  · rw [get?_put, if_pos rfl]

omit like in
theorem of_put (keeper : Keeper) {account account' : Account}
    (accounts : AccountLike origin origin' account account') :
    KeeperLike id origin origin' (keeper.put id account) (keeper.put id account') := by
  refine ⟨rfl, rfl, fun target apart => ?_, account, account', ?_, ?_, accounts⟩
  · rw [get?_put, get?_put, if_neg apart, if_neg apart]
  · rw [get?_put, if_pos rfl]
  · rw [get?_put, if_pos rfl]

/-- What is done about another account is the same on both sides. -/
theorem beside {target : AccountId} (apart : target ≠ id) {act : Keeper → Option Keeper}
    (confined : Confined target act) :
    Option.Rel (KeeperLike id origin origin') (act one) (act other) := by
  obtain ⟨turn, acts⟩ := confined
  rw [acts, acts, like.around, like.elsewhere target apart]
  cases turn one.around (one.accounts.get? target) with
  | none => exact .none
  | some filling =>
    cases filling with
    | none => exact .some like
    | some account =>
      have kept (keeper : Keeper) :
          (keeper.put target account).accounts.get? id = keeper.accounts.get? id := by
        rw [get?_put, if_neg (Ne.symm apart)]
      obtain ⟨mine, theirs, found, found', accounts⟩ := like.here
      refine .some ⟨like.around, like.permits, fun third away => ?_, mine, theirs, ?_, ?_, accounts⟩
      · rw [filled, filled, get?_put, get?_put, like.elsewhere third away]
      · exact (kept one).trans found
      · exact (kept other).trans found'

theorem instance? :
    Option.Rel (Like origin origin') (one.instance? id) (other.instance? id) := by
  obtain ⟨account, account', found, found', accounts⟩ := like.here
  rw [Keeper.instance?, Keeper.instance?, found, found']
  cases accounts with
  | vacant => exact .none
  | kept like => exact .some like

theorem snapshots : other.snapshots = one.snapshots := by
  obtain ⟨account, account', found, found', accounts⟩ := like.here
  -- Observers see the accounts in the order of their ids, so one is replaced in its place.
  have replaced : other.accounts =
      one.accounts.mapValues fun key held => if key = id then account' else held := by
    apply OrderedMap.eq_of_get?
    intro key
    rw [OrderedMap.get?_mapValues]
    by_cases here : key = id
    · rw [here, found, found', Option.map_some, if_pos rfl]
    · simp only [like.elsewhere key here, if_neg here, Option.map_id']
  simp only [Keeper.snapshots, replaced, OrderedMap.values, OrderedMap.mapValues, List.map_map,
    List.filterMap_map]
  apply List.filterMap_congr
  rintro ⟨key, held⟩ member
  by_cases here : key = id
  · subst key
    cases found.symm.trans ((one.accounts.mem_entries id held).mp member)
    simp [accounts.shown]
  · simp [here]

theorem instance?_beside {target : AccountId} (apart : target ≠ id) :
    other.instance? target = one.instance? target := by
  rw [Keeper.instance?, Keeper.instance?, like.elsewhere target apart]

theorem call (target : AccountId) (command : Command) :
    KeeperLike id origin origin' (one.call target command).1 (other.call target command).1 ∧
      (other.call target command).2 = (one.call target command).2 := by
  by_cases apart : target ≠ id
  · constructor
    · cases like.beside apart (call_confined target command) with
      | some keepers => exact keepers
    · rw [Keeper.call, Keeper.call, Keeper.find, Keeper.find, like.instance?_beside apart]
      cases one.instance? target <;> rfl
  · rw [not_not.mp apart]
    have found := like.instance?
    unfold Keeper.call Keeper.find
    generalize one.instance? id = mine at found
    generalize other.instance? id = theirs at found
    cases found with
    | none => exact ⟨like, rfl⟩
    | some both =>
      refine ⟨like.put (.kept (both.take command)), ?_⟩
      dsimp only
      rw [both.ledgers.calls]

theorem stopEach (targets : List AccountId) :
    KeeperLike id origin origin' (one.stopEach targets).1 (other.stopEach targets).1 := by
  induction targets generalizing one other with
  | nil => exact like
  | cons target rest ih =>
    have called := like.call target .stop
    unfold Keeper.stopEach
    generalize one.call target .stop = mine at called ⊢
    generalize other.call target .stop = theirs at called ⊢
    obtain ⟨first, _⟩ := mine
    obtain ⟨second, result⟩ := theirs
    obtain ⟨keepers, rfl⟩ := called
    cases result with
    | error error => exact ih keepers
    | ok call => exact ih keepers

theorem update (target : AccountId) (config : InstanceConfig) (drawn : DrawnName) :
    KeeperLike id origin origin' (one.update target config drawn).1
        (other.update target config drawn).1 ∧
      (other.update target config drawn).2 = (one.update target config drawn).2 := by
  unfold Keeper.update
  split
  · exact ⟨like, rfl⟩
  · cases config.validate with
    | error fault => exact ⟨like, rfl⟩
    | ok valid => exact like.call target _

theorem add (config : InstanceConfig) (drawn : DrawnName) :
    KeeperLike id origin origin' (one.add config drawn).1 (other.add config drawn).1 ∧
      (other.add config drawn).2 = (one.add config drawn).2 := by
  by_cases apart : config.accountId ≠ id
  · constructor
    · cases like.beside apart (add_confined config drawn) with
      | some keepers => exact keepers
    · unfold Keeper.add
      dsimp only
      rw [like.instance?_beside apart]
      cases config.validate with
      | error fault => rfl
      | ok valid => cases one.instance? config.accountId <;> rfl
  · obtain ⟨account, account', found, found', accounts⟩ := like.here
    unfold Keeper.add Keeper.instance? Keeper.ledger
    dsimp only
    rw [not_not.mp apart, found, found', like.around]
    cases config.validate with
    | error fault => exact ⟨like, rfl⟩
    | ok valid =>
      cases accounts with
      | kept => exact ⟨like, rfl⟩
      | vacant _ ledgers => exact ⟨like.put (.kept (.mk ledgers .nil)), rfl⟩

theorem move? (reachable : other.Reachable) (target : AccountId) (move : Move) :
    Option.Rel (KeeperLike id origin origin') (one.move? target move)
      (other.move? target move) := by
  by_cases apart : target ≠ id
  · exact like.beside apart (move_confined target move)
  · rw [not_not.mp apart]
    have found := like.instance?
    have gone (state : Instance) (registered : other.instance? id = some state)
        (stopped : state.machine.phase = .stopped) : AllGone state.bots := by
      have sound := reachable_sound reachable registered
      exact sound.free (sound.empty.mp stopped)
    unfold Keeper.move?
    rw [like.around]
    generalize one.instance? id = mine at found
    generalize other.instance? id = theirs at found gone
    cases found with
    | none => exact .none
    | @some state state' both =>
      have moved := both.move? (gone state' rfl) one.around move
      dsimp only [Option.bind_some]
      generalize state.move? one.around move = result at moved
      generalize state'.move? one.around move = result' at moved
      cases moved with
      | none => exact .none
      | some accounts => exact .some (like.put accounts)

/-- The same happens to a process of an account on both sides. -/
theorem happen (target : AccountId) (pick : Ledger → Option Bot)
    (member : ∀ ledger bot, pick ledger = some bot → bot ∈ ledger.bots)
    (picks : ∀ latest latest' one other, LedgerLike origin origin' latest latest' one other →
      Option.Rel (BotLike latest latest') (pick one) (pick other))
    (happening : Surroundings → Bot → Bot × List Report)
    (unnumbered : ∀ around, Unnumbered (happening around))
    (changes : ∀ around bot, Changes bot (happening around bot)) :
    Option.Rel (KeeperLike id origin origin')
      (one.happen target (pick (one.ledger target)) (happening one.around))
      (other.happen target (pick (other.ledger target)) (happening other.around)) := by
  by_cases apart : target ≠ id
  · exact like.beside apart (happen_confined target pick happening)
  · rw [not_not.mp apart]
    obtain ⟨account, account', found, found', accounts⟩ := like.here
    have observed := accounts.observe pick member picks (unnumbered one.around) (changes one.around)
    unfold Keeper.happen Keeper.ledger
    rw [found, found', like.around]
    dsimp only [Option.map_some, Option.getD_some, Option.bind_eq_bind, Option.bind_some]
      at observed ⊢
    generalize pick account.ledger = bot at observed ⊢
    generalize pick account'.ledger = bot' at observed ⊢
    cases bot with
    | none =>
      cases bot' with
      | none => exact .none
      | some bot' => cases observed
    | some bot =>
      cases bot' with
      | none => cases observed
      | some bot' =>
        cases observed with
        | some same => exact .some (like.put same)

theorem beginUpdate :
    KeeperLike id origin origin' one.beginUpdate.1 other.beginUpdate.1 := by
  unfold Keeper.beginUpdate Keeper.checkUpdate Keeper.activeIds
  rw [like.around, like.snapshots, like.permits]
  split
  · exact like
  · generalize List.map _ _ = active
    cases active with
    | nil => exact ⟨rfl, rfl, like.elsewhere, like.here⟩
    | cons first rest => exact like

theorem endUpdate? :
    Option.Rel (KeeperLike id origin origin') one.endUpdate? other.endUpdate? := by
  unfold Keeper.endUpdate?
  rw [like.around, like.permits]
  cases one.permits with
  | zero => exact .none
  | succ permits => exact .some ⟨rfl, rfl, like.elsewhere, like.here⟩

/-- Whatever can happen to one of two keepers can happen to the other, and they stay alike. -/
theorem step? (reachable : other.Reachable) (event : Keeper.Event) :
    Option.Rel (KeeperLike id origin origin') (one.step? event) (other.step? event) := by
  cases event with
  | add config drawn => exact .some (like.add config drawn).1
  | start target | stop target | reboot target | delete target => exact .some (like.call target _).1
  | update target config drawn => exact .some (like.update target config drawn).1
  | stopAll =>
    simp only [Keeper.step?, Keeper.stopAll, like.snapshots]
    exact .some (like.stopEach _)
  | beginUpdate => exact .some like.beginUpdate
  | endUpdate => exact like.endUpdate?
  | move target move => exact like.move? reachable target move
  | print target bytes =>
    exact like.happen target Ledger.living? (fun _ _ => List.mem_of_find?_eq_some)
      (fun _ _ _ _ ledgers => ledgers.find? _ fun _ _ => rfl) (fun _ bot => bot.print bytes)
      (fun _ => print_unnumbered bytes) fun _ bot => print_changes bot bytes
  | printLate target bytes =>
    refine like.happen target Ledger.leaking? (fun _ _ leaks => ?_) (fun _ _ _ _ ledgers => ?_)
      (fun _ bot => bot.print bytes) (fun _ => print_unnumbered bytes)
      fun _ bot => print_changes bot bytes
    · exact List.mem_of_head? (Option.filter_eq_some_iff.mp leaks).1
    · refine rel_filter ledgers.head? fun bot bot' bots => ?_
      rw [bots.same]
  | exit target code =>
    exact like.happen target Ledger.living? (fun _ _ => List.mem_of_find?_eq_some)
      (fun _ _ _ _ ledgers => ledgers.find? _ fun _ _ => rfl)
      (fun around bot => bot.exit code around.now) (fun around => exit_unnumbered code around.now)
      fun around bot => exit_changes bot code around.now
  | closeOutput target =>
    exact like.happen target (·.bots.head?) (fun _ _ => List.mem_of_head?)
      (fun _ _ _ _ ledgers => ledgers.head?) (fun _ bot => bot.closeOutput)
      (fun _ => closeOutput_unnumbered) fun _ bot => closeOutput_changes bot
  | alter target pid conduct =>
    exact like.happen target (·.bot? pid) (fun _ _ => List.mem_of_find?_eq_some)
      (fun _ _ _ _ ledgers => ledgers.find? _ fun _ _ => rfl)
      (fun _ bot => ({ bot with conduct }, [])) (fun _ => alter_unnumbered conduct)
      fun _ bot => alter_changes bot conduct
  | advance millis uptime | surround host files =>
    refine .some ⟨?_, like.permits, like.elsewhere, like.here⟩
    simp only [Keeper.advance, like.around]

theorem steps? (reachable : other.Reachable) (events : List Keeper.Event) :
    Option.Rel (KeeperLike id origin origin') (one.steps? events) (other.steps? events) := by
  induction events generalizing one other with
  | nil => exact .some like
  | cons event rest ih =>
    have stepped := like.step? reachable event
    have next (after : Keeper) (happens : other.step? event = some after) :=
      reachable_of_step reachable happens
    unfold Keeper.steps?
    generalize one.step? event = mine at stepped
    generalize other.step? event = theirs at stepped next
    cases stepped with
    | none => exact .none
    | some keepers => exact ih keepers (next _ rfl)

/-- What is answered at once is the same. -/
theorem reply? (event : Keeper.Event) : reply? other event = reply? one event := by
  cases event with
  | add config drawn => exact congrArg (some ∘ Reply.added) (like.add config drawn).2
  | start target | stop target | reboot target | delete target =>
    exact congrArg (some ∘ Reply.called) (like.call target _).2
  | update target config drawn =>
    exact congrArg (some ∘ Reply.called) (like.update target config drawn).2
  | _ => rfl

end KeeperLike

end BotKeeper.Proofs
