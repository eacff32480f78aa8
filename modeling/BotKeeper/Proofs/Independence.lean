import BotKeeper.Proofs.Rejections
import BotKeeper.Proofs.Replay

/-! Each instance fares as if it were the only one. Whatever is about one account reads that
account and the surroundings, and changes nothing but the account. So what happens to one does
not depend on when something happens to another, and the answers do not either. -/

namespace BotKeeper.Proofs

/-- The account that an event is about, if it is about one alone. -/
def subject? : Keeper.Event → Option AccountId
  | .add config _ => some config.accountId
  | .start id | .stop id | .reboot id | .update id _ _ | .delete id | .move id _ | .print id _
  | .printLate id _ | .exit id _ | .closeOutput id | .alter id _ _ => some id
  | .stopAll | .beginUpdate | .endUpdate | .advance _ _ | .surround _ _ => none

def share (id : AccountId) (events : List Keeper.Event) : List Keeper.Event :=
  events.filter (subject? · = some id)

/-- The keeper as if it kept no other account. -/
def only (keeper : Keeper) (id : AccountId) : Keeper :=
  { keeper with
    accounts :=
      match keeper.accounts.get? id with
      | some account => OrderedMap.empty.insert id account
      | none => .empty }

inductive Reply where
  | added (result : Except Error Unit)
  | called (result : Except Error Call)

def reply? (keeper : Keeper) : Keeper.Event → Option Reply
  | .add config drawn => some (.added (keeper.add config drawn).2)
  | event => (asking keeper event).map fun asked => .called asked.2

def replies (id : AccountId) (keeper : Keeper) : List Keeper.Event → List Reply
  | [] => []
  | event :: rest =>
    (if subject? event = some id then (reply? keeper event).toList else []) ++
      (keeper.step? event).elim [] fun after => replies id after rest

def filled (keeper : Keeper) (id : AccountId) : Option Account → Keeper
  | some account => keeper.put id account
  | none => keeper

/-- What is done reads the surroundings and one account, and fills the place of that account, or
does nothing. -/
def Confined (id : AccountId) (act : Keeper → Option Keeper) : Prop :=
  ∃ turn : Surroundings → Option Account → Option (Option Account), ∀ keeper,
    act keeper = (turn keeper.around (keeper.accounts.get? id)).map (filled keeper id)

variable {keeper after : Keeper} {id other : AccountId} {event : Keeper.Event}
  {events : List Keeper.Event}

section confined

theorem same_confined (id : AccountId) : Confined id some :=
  ⟨fun _ _ => some none, fun _ => rfl⟩

theorem call_confined (id : AccountId) (command : Command) :
    Confined id fun keeper => some (keeper.call id command).1 := by
  refine ⟨fun _ account => some ((account.bind Account.instance?).map fun state =>
    .kept (state.take command)), fun keeper => ?_⟩
  simp only [Keeper.call, Keeper.find, Keeper.instance?]
  cases (keeper.accounts.get? id).bind Account.instance? <;> rfl

private theorem update_confined (id : AccountId) (config : InstanceConfig) (drawn : DrawnName) :
    Confined id fun keeper => some (keeper.update id config drawn).1 := by
  simp only [Keeper.update]
  by_cases foreign : config.accountId ≠ id
  · simpa only [if_pos foreign] using same_confined id
  · simp only [if_neg foreign]
    cases config.validate with
    | error fault => exact same_confined id
    | ok valid => exact call_confined id _

theorem add_confined (config : InstanceConfig) (drawn : DrawnName) :
    Confined config.accountId fun keeper => some (keeper.add config drawn).1 := by
  simp only [Keeper.add]
  cases config.validate with
  | error fault => exact same_confined config.accountId
  | ok valid =>
    refine ⟨fun around account => some ((account.bind Account.instance?).elim
      (some (.kept (Instance.fresh around.settings.restartPolicy (config.withDefaultName drawn)
        ((account.map Account.ledger).getD {})))) fun _ => none), fun keeper => ?_⟩
    simp only [Keeper.instance?, Keeper.ledger]
    cases (keeper.accounts.get? config.accountId).bind Account.instance? <;> rfl

theorem move_confined (id : AccountId) (move : Move) :
    Confined id fun keeper => keeper.move? id move := by
  refine ⟨fun around account =>
    ((account.bind Account.instance?).bind (·.move? around move)).map some, fun keeper => ?_⟩
  simp only [Keeper.move?, Keeper.instance?, Option.map_map]
  rfl

theorem happen_confined (id : AccountId) (pick : Ledger → Option Bot)
    (happening : Surroundings → Bot → Bot × List Report) :
    Confined id fun keeper =>
      keeper.happen id (pick (keeper.ledger id)) (happening keeper.around) := by
  refine ⟨fun around account => account.bind fun account =>
    (pick account.ledger).map fun bot => some (account.observe (happening around bot)),
    fun keeper => ?_⟩
  simp only [Keeper.happen, Keeper.ledger]
  cases keeper.accounts.get? id with
  | none => rfl
  | some account =>
    simp only [Option.map_some, Option.getD_some, Option.bind_eq_bind, Option.bind_some]
    cases pick account.ledger <;> rfl

theorem step_confined (about : subject? event = some id) : Confined id (·.step? event) := by
  cases event with
  | add config drawn =>
    cases about
    exact add_confined config drawn
  | start | stop | reboot | delete =>
    cases about
    exact call_confined _ _
  | update _ config drawn =>
    cases about
    exact update_confined id config drawn
  | move _ move =>
    cases about
    exact move_confined id move
  | print _ bytes =>
    cases about
    exact happen_confined id Ledger.living? fun _ bot => bot.print bytes
  | printLate _ bytes =>
    cases about
    exact happen_confined id Ledger.leaking? fun _ bot => bot.print bytes
  | exit _ code =>
    cases about
    exact happen_confined id Ledger.living? fun around bot => bot.exit code around.now
  | closeOutput =>
    cases about
    exact happen_confined id (·.bots.head?) fun _ bot => bot.closeOutput
  | alter _ pid conduct =>
    cases about
    exact happen_confined id (·.bot? pid) fun _ bot => ({ bot with conduct }, [])
  | stopAll | beginUpdate | endUpdate | advance | surround => cases about

end confined

section only

theorem get?_only (keeper : Keeper) (id other : AccountId) :
    (only keeper id).accounts.get? other = if other = id then keeper.accounts.get? id else none := by
  simp only [only]
  cases keeper.accounts.get? id with
  | none => simp [OrderedMap.get?_empty]
  | some account => simp [OrderedMap.get?_insert, OrderedMap.get?_empty]

theorem only_eq_iff {left right : Keeper} : only left id = only right id ↔
    left.around = right.around ∧ left.permits = right.permits ∧
      left.accounts.get? id = right.accounts.get? id := by
  constructor
  · intro same
    have around := congrArg Keeper.around same
    have permits := congrArg Keeper.permits same
    have accounts := congrArg (·.accounts.get? id) same
    simp only [get?_only, if_true] at accounts
    exact ⟨around, permits, accounts⟩
  · rintro ⟨around, permits, account⟩
    simp only [only, around, permits, account]

private theorem eq_of_only {left right : Keeper} (same : ∀ id, only left id = only right id) :
    left = right := by
  have accounts : left.accounts = right.accounts :=
    OrderedMap.eq_of_get? fun id => (only_eq_iff.mp (same id)).2.2
  obtain ⟨around, permits, -⟩ := only_eq_iff.mp (same 0)
  cases left
  cases right
  cases around
  cases permits
  cases accounts
  rfl

private theorem filled_only (keeper : Keeper) (id : AccountId) (account : Option Account) :
    filled (only keeper id) id account = only (filled keeper id account) id := by
  cases account with
  | none => rfl
  | some account =>
    apply eq_of_only
    intro other
    apply only_eq_iff.mpr
    refine ⟨rfl, rfl, ?_⟩
    simp only [get?_only, filled, get?_put]
    by_cases same : other = id <;> simp [same]

theorem Confined.alone {act : Keeper → Option Keeper} (confined : Confined id act)
    (keeper : Keeper) : act (only keeper id) = (act keeper).map (only · id) := by
  obtain ⟨turn, acts⟩ := confined
  have found : (only keeper id).accounts.get? id = keeper.accounts.get? id := by
    rw [get?_only, if_pos rfl]
  rw [acts, acts, found, Option.map_map]
  apply congrArg (Option.map · _)
  exact funext (filled_only keeper id)

theorem Confined.elsewhere {act : Keeper → Option Keeper} (confined : Confined id act)
    (acted : act keeper = some after) (apart : other ≠ id) : only after other = only keeper other := by
  obtain ⟨turn, acts⟩ := confined
  rw [acts] at acted
  obtain ⟨account, -, rfl⟩ := Option.map_eq_some_iff.mp acted
  apply only_eq_iff.mpr
  cases account with
  | none => exact ⟨rfl, rfl, rfl⟩
  | some account => exact ⟨rfl, rfl, by rw [filled, get?_put, if_neg apart]⟩

end only

theorem step_alone (about : subject? event = some id) (keeper : Keeper) :
    (only keeper id).step? event = (keeper.step? event).map (only · id) :=
  (step_confined about).alone keeper

theorem step_elsewhere (about : subject? event = some id) (steps : keeper.step? event = some after)
    (apart : other ≠ id) : only after other = only keeper other :=
  (step_confined about).elsewhere steps apart

theorem share_cons (event : Keeper.Event) (events : List Keeper.Event) (id : AccountId) :
    share id (event :: events) =
      if subject? event = some id then event :: share id events else share id events := by
  simp [share, List.filter_cons]

/-- Of what happens to a keeper, an instance gets what happens to it alone. -/
theorem steps?_alone (own : ∀ event ∈ events, (subject? event).isSome = true)
    (steps : keeper.steps? events = some after) (id : AccountId) :
    (only keeper id).steps? (share id events) = some (only after id) := by
  induction events generalizing keeper with
  | nil =>
    cases steps
    rfl
  | cons event events ih =>
    obtain ⟨subject, about⟩ := Option.isSome_iff_exists.mp (own event List.mem_cons_self)
    obtain ⟨between, first, rest⟩ := Option.bind_eq_some_iff.mp steps
    have later := ih (fun event member => own event (List.mem_cons_of_mem _ member)) rest
    rw [share_cons]
    by_cases mine : subject? event = some id
    · rw [if_pos mine, Keeper.steps?, step_alone mine, first]
      exact later
    · have apart : id ≠ subject := fun same => mine (same ▸ about)
      rw [if_neg mine, ← step_elsewhere about first apart]
      exact later

/-- What can happen to each instance alone can happen to all of them. -/
theorem steps?_possible (own : ∀ event ∈ events, (subject? event).isSome = true)
    (alone : ∀ id, ((only keeper id).steps? (share id events)).isSome = true) :
    (keeper.steps? events).isSome = true := by
  induction events generalizing keeper with
  | nil => rfl
  | cons event events ih =>
    obtain ⟨subject, about⟩ := Option.isSome_iff_exists.mp (own event List.mem_cons_self)
    have here := alone subject
    rw [share_cons, if_pos about, Keeper.steps?, step_alone about] at here
    cases first : keeper.step? event with
    | none => simp [first] at here
    | some between =>
      rw [Keeper.steps?, first, Option.bind_some]
      apply ih fun event member => own event (List.mem_cons_of_mem _ member)
      intro id
      by_cases same : id = subject
      · subst id
        simpa [first] using here
      · have there := alone id
        have other : ¬subject? event = some id := fun mine =>
          same (Option.some.inj (mine.symm.trans about))
        rw [share_cons, if_neg other] at there
        rwa [step_elsewhere about first same]

/-- It does not matter in which order things happen to different instances. -/
theorem steps?_of_shares {others : List Keeper.Event}
    (own : ∀ event ∈ events, (subject? event).isSome = true)
    (also : ∀ event ∈ others, (subject? event).isSome = true)
    (same : ∀ id, share id events = share id others) :
    keeper.steps? events = keeper.steps? others := by
  -- Both come to the same, and the one can happen if the other can.
  have possible {events others : List Keeper.Event} {after : Keeper}
      (own : ∀ event ∈ events, (subject? event).isSome = true)
      (also : ∀ event ∈ others, (subject? event).isSome = true)
      (same : ∀ id, share id events = share id others)
      (steps : keeper.steps? events = some after) : keeper.steps? others = some after := by
    have alone (id : AccountId) : (only keeper id).steps? (share id others) = some (only after id) :=
      same id ▸ steps?_alone own steps id
    obtain ⟨last, reached⟩ := Option.isSome_iff_exists.mp
      (steps?_possible also fun id => Option.isSome_of_eq_some (alone id))
    have equal : last = after := by
      apply eq_of_only
      intro id
      exact Option.some.inj ((steps?_alone also reached id).symm.trans (alone id))
    rw [reached, equal]
  cases steps : keeper.steps? events with
  | some after => exact (possible own also same steps).symm
  | none =>
    cases reached : keeper.steps? others with
    | none => rfl
    | some after =>
      have impossible := possible also own (fun id => (same id).symm) reached
      rw [steps] at impossible
      cases impossible

private theorem instance?_only (keeper : Keeper) (id : AccountId) :
    (only keeper id).instance? id = keeper.instance? id := by
  rw [Keeper.instance?, get?_only, if_pos rfl, Keeper.instance?]

private theorem call_only (keeper : Keeper) (id : AccountId) (command : Command) :
    ((only keeper id).call id command).2 = (keeper.call id command).2 := by
  simp only [Keeper.call, Keeper.find, instance?_only]
  cases keeper.instance? id <;> rfl

private theorem update_only (keeper : Keeper) (id : AccountId) (config : InstanceConfig)
    (drawn : DrawnName) :
    ((only keeper id).update id config drawn).2 = (keeper.update id config drawn).2 := by
  simp only [Keeper.update]
  split
  · rfl
  · cases config.validate with
    | error fault => rfl
    | ok valid => exact call_only keeper id _

private theorem add_only (keeper : Keeper) (config : InstanceConfig) (drawn : DrawnName) :
    ((only keeper config.accountId).add config drawn).2 = (keeper.add config drawn).2 := by
  simp only [Keeper.add, instance?_only]
  cases config.validate with
  | error fault => rfl
  | ok valid => cases keeper.instance? config.accountId <;> rfl

private theorem reply?_only (about : subject? event = some id) (keeper : Keeper) :
    reply? (only keeper id) event = reply? keeper event := by
  cases event with
  | add config drawn =>
    cases about
    exact congrArg (some ∘ Reply.added) (add_only keeper config drawn)
  | start | stop | reboot | delete =>
    cases about
    exact congrArg (some ∘ Reply.called) (call_only keeper id _)
  | update _ config drawn =>
    cases about
    exact congrArg (some ∘ Reply.called) (update_only keeper id config drawn)
  | _ => rfl

private theorem replies_alone (own : ∀ event ∈ events, (subject? event).isSome = true)
    (steps : keeper.steps? events = some after) (id : AccountId) :
    replies id keeper events = replies id (only keeper id) (share id events) := by
  induction events generalizing keeper with
  | nil => rfl
  | cons event events ih =>
    obtain ⟨subject, about⟩ := Option.isSome_iff_exists.mp (own event List.mem_cons_self)
    obtain ⟨between, first, rest⟩ := Option.bind_eq_some_iff.mp steps
    have later := ih (fun event member => own event (List.mem_cons_of_mem _ member)) rest
    rw [share_cons]
    by_cases mine : subject? event = some id
    · simp only [if_pos mine, replies, reply?_only mine, step_alone mine, first, Option.map_some,
        Option.elim_some, later]
    · have apart : id ≠ subject := fun same => mine (same ▸ about)
      rw [if_neg mine, replies, if_neg mine, first, ← step_elsewhere about first apart]
      exact later

private theorem share_of_subject (about : ∀ event ∈ events, subject? event = some id) :
    share id events = events :=
  List.filter_eq_self.mpr fun event member => by simpa using about event member

theorem share_of_other (about : ∀ event ∈ events, subject? event = some id) (apart : other ≠ id) :
    share other events = [] := by
  apply List.filter_eq_nil_iff.mpr
  intro event member
  simp only [about event member, decide_eq_true_eq, Option.some.injEq]
  exact fun same => apart same.symm

theorem share_append (id : AccountId) (events more : List Keeper.Event) :
    share id (events ++ more) = share id events ++ share id more :=
  List.filter_append ..

theorem isSome_of_subject (about : ∀ event ∈ events, subject? event = some id) :
    ∀ event ∈ events, (subject? event).isSome = true :=
  fun event member => Option.isSome_of_eq_some (about event member)

private theorem steps?_elsewhere (about : ∀ event ∈ events, subject? event = some id)
    (steps : keeper.steps? events = some after) (apart : other ≠ id) :
    only after other = only keeper other := by
  have idle := steps?_alone (isSome_of_subject about) steps other
  rw [share_of_other about apart] at idle
  exact (Option.some.inj idle).symm

/-- What is about one account and what is about another may come in either order: in the end all
is the same, and each call gets the same answer, the one it would get if there were no other
account. What is about one account changes nothing of any other, and only the id of an account
stands on what is published of it. -/
theorem instances_independent (reachable : keeper.Reachable) {first second : AccountId}
    (different : first ≠ second) {ours theirs : List Keeper.Event}
    (aboutFirst : ∀ event ∈ ours, subject? event = some first)
    (aboutSecond : ∀ event ∈ theirs, subject? event = some second) :
    keeper.steps? (ours ++ theirs) = keeper.steps? (theirs ++ ours) ∧
    (∀ after, keeper.steps? (ours ++ theirs) = some after →
      (∀ id, replies id keeper (ours ++ theirs) = replies id keeper (theirs ++ ours)) ∧
      (only keeper first).steps? ours = some (only after first) ∧
      replies first keeper (ours ++ theirs) = replies first (only keeper first) ours ∧
      (only keeper second).steps? theirs = some (only after second) ∧
      replies second keeper (ours ++ theirs) = replies second (only keeper second) theirs ∧
      ∀ id, ∀ event ∈ (after.ledger id).feed, event.instanceId = id) ∧
    (∀ after, keeper.steps? ours = some after →
      after.around = keeper.around ∧ after.permits = keeper.permits ∧
      ∀ id, id ≠ first → after.instance? id = keeper.instance? id ∧
        after.ledger id = keeper.ledger id) := by
  have ownOurs := isSome_of_subject aboutFirst
  have ownTheirs := isSome_of_subject aboutSecond
  have own : ∀ event ∈ ours ++ theirs, (subject? event).isSome = true := fun event member =>
    (List.mem_append.mp member).elim (ownOurs event) (ownTheirs event)
  have also : ∀ event ∈ theirs ++ ours, (subject? event).isSome = true := fun event member =>
    (List.mem_append.mp member).elim (ownTheirs event) (ownOurs event)
  have ofFirst : share first (ours ++ theirs) = ours := by
    rw [share_append, share_of_subject aboutFirst, share_of_other aboutSecond different,
      List.append_nil]
  have ofSecond : share second (ours ++ theirs) = theirs := by
    rw [share_append, share_of_subject aboutSecond,
      share_of_other aboutFirst different.symm, List.nil_append]
  have same (id : AccountId) : share id (ours ++ theirs) = share id (theirs ++ ours) := by
    rw [share_append, share_append]
    by_cases here : id = first
    · rw [here, share_of_other aboutSecond different, List.append_nil, List.nil_append]
    · rw [share_of_other aboutFirst here, List.append_nil, List.nil_append]
  have order : keeper.steps? (ours ++ theirs) = keeper.steps? (theirs ++ ours) :=
    steps?_of_shares own also same
  refine ⟨order, fun after steps => ?together, fun after steps => ?apart⟩
  case together =>
    have fares := steps?_alone own steps
    have answered := replies_alone own steps
    refine ⟨fun id => ?_, ofFirst ▸ fares first, ?_, ofSecond ▸ fares second, ?_, fun id => ?_⟩
    · rw [answered id, replies_alone also (order ▸ steps) id, same id]
    · rw [answered first, ofFirst]
    · rw [answered second, ofSecond]
    · have run := run_of_steps .refl (ours ++ theirs) (fun _ _ => trivial) steps
      exact (reachable_retold (reachable_of_run reachable run) id).own
  case apart =>
    have left (id : AccountId) (other : id ≠ first) := only_eq_iff.mp
      (steps?_elsewhere aboutFirst steps other)
    refine ⟨(left second different.symm).1, (left second different.symm).2.1, fun id other => ?_⟩
    rw [Keeper.instance?, Keeper.ledger, Keeper.instance?, Keeper.ledger, (left id other).2.2]
    exact ⟨rfl, rfl⟩

/-- Two instances are started, and the bot of one of them crashes. -/
theorem starts_independent : ∃ keeper after : Keeper, keeper.Reachable ∧
    keeper.steps? ([.start 100001, .move 100001 .serve] ++
      [.start 100002, .move 100002 .serve, .exit 100002 none]) = some after ∧
    keeper.steps? ([.start 100002, .move 100002 .serve, .exit 100002 none] ++
      [.start 100001, .move 100001 .serve]) = some after := by
  obtain ⟨keeper, reachable, possible⟩ :=
    rehearsal_reachable [rehearsedConfig 100001 [], rehearsedConfig 100002 []] []
      (fun keeper => (keeper.steps? ([.start 100001, .move 100001 .serve] ++
        [.start 100002, .move 100002 .serve, .exit 100002 none])).isSome = true) (by decide)
  obtain ⟨after, steps⟩ := Option.isSome_iff_exists.mp possible
  have aboutFirst : ∀ event ∈ ([.start 100001, .move 100001 .serve] : List Keeper.Event),
      subject? event = some 100001 := by decide
  have aboutSecond : ∀ event ∈ ([.start 100002, .move 100002 .serve, .exit 100002 none] :
      List Keeper.Event), subject? event = some 100002 := by decide
  obtain ⟨order, _, _⟩ := instances_independent reachable (by decide) aboutFirst aboutSecond
  exact ⟨keeper, after, reachable, steps, order ▸ steps⟩

end BotKeeper.Proofs
