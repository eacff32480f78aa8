import BotKeeper.Proofs.Turns

/-! The accounts of a keeper are in order after every run. An account keeps what
was known of it, also when its instance is deleted and registered again. -/

namespace BotKeeper.Proofs

/-- The account of an id has a sound instance, or processes that are all gone. -/
def InOrder (id : AccountId) : Account → Prop
  | .vacant ledger => Numbered ledger.bots ∧ AllGone ledger.bots
  | .kept state => Sound state state ∧ state.machine.id = id

structure Continues (before after : Ledger) : Prop where
  lineage : Lineage before.bots after.bots
  answers : before.answers <+: after.answers

theorem Continues.refl (ledger : Ledger) : Continues ledger ledger :=
  ⟨.refl, List.prefix_rfl⟩

/-- An account that is in order, and continues the ledger of an earlier one. -/
def Follows (id : AccountId) (before : Option Account) (after : Account) : Prop :=
  InOrder id after ∧ Continues (ledgerOf before) after.ledger

variable {id : AccountId}

private theorem fresh_sound (policy : RestartPolicy) (config : InstanceConfig) {ledger : Ledger}
    (numbered : Numbered ledger.bots) (gone : AllGone ledger.bots) :
    Sound (Instance.fresh policy config ledger) (Instance.fresh policy config ledger) where
  numbered := numbered
  free := fun _ => gone
  held := fun _ impossible => by cases impossible
  dated := fun _ impossible => by cases impossible
  final := fun _ impossible => by cases impossible
  named := rfl
  lineage := .refl
  answers := List.prefix_rfl
  requests := rfl
  calls := rfl
  pid := rfl
  since := rfl
  code := by simp [CodeKnown, Instance.fresh]
  seen := rfl
  empty := ⟨fun _ => rfl, fun _ => rfl⟩
  pending := fun some => absurd rfl some
  waiting := fun some => absurd rfl some
  exclusive := .inl rfl
  disarmed := fun _ _ => rfl
  waits := fun _ busy => by cases busy
  halted := fun busy => by cases busy

theorem InOrder.past_gone {account : Account} (order : InOrder id account) :
    AllGone account.ledger.bots.tail := by
  cases account with
  | vacant ledger => exact fun bot member => order.2 bot (List.mem_of_mem_tail member)
  | kept state => exact order.1.toCustody.past_gone

theorem asked_kept (state : Instance) (commands : List Command) :
    ∃ more calls, asked commands (.kept state) =
        .kept { state with requests := state.requests ++ more, calls } ∧
      ∀ request ∈ more, request.command ∈ commands := by
  induction commands generalizing state with
  | nil =>
    refine ⟨[], state.calls, ?_, by simp⟩
    rw [List.append_nil]
    rfl
  | cons command rest ih =>
    obtain ⟨more, calls, same, brought⟩ := ih (state.take command)
    refine ⟨⟨state.calls, command⟩ :: more, calls, ?_, ?_⟩
    · rw [List.append_cons]
      exact same
    · intro request member
      rcases List.mem_cons.mp member with first | later
      · subst request
        simp
      · exact List.mem_cons_of_mem _ (brought request later)

theorem Sound.follows {state after : Instance} (sound : Sound state after)
    (named : state.machine.id = id) : Follows id (some (.kept state)) (.kept after) :=
  ⟨⟨sound.rebase, sound.named.trans named⟩, sound.lineage, sound.answers⟩

private theorem asked_follows {account : Account} (order : InOrder id account)
    (commands : List Command) : Follows id (some account) (asked commands account) := by
  cases account with
  | vacant ledger => exact ⟨order, .refl ledger⟩
  | kept state =>
    obtain ⟨sound, named⟩ := order
    obtain ⟨more, calls, same, _⟩ := asked_kept state commands
    rw [same]
    exact ⟨⟨sound.requeue _ calls, named⟩, .refl, List.prefix_rfl⟩

theorem move_follows {around : Surroundings} {state : Instance} {move : Move} {account : Account}
    (order : InOrder id (.kept state)) (moves : Moves around state move account) :
    Follows id (some (.kept state)) account := by
  obtain ⟨sound, named⟩ := order
  have left := sound.move around moves
  have ledger : (taken move state).toLedger = state.toLedger := by
    cases move <;> rfl
  have machine : (taken move state).machine = state.machine := by
    cases move <;> rfl
  have bots : (taken move state).bots = state.bots := congrArg Ledger.bots ledger
  have answers : (taken move state).answers = state.answers := congrArg Ledger.answers ledger
  cases account with
  | vacant ledger =>
    exact ⟨⟨left.numbered, left.gone⟩, bots ▸ left.lineage, answers ▸ left.answers⟩
  | kept after =>
    refine ⟨⟨Sound.rebase left, ?_⟩, bots ▸ left.lineage, answers ▸ left.answers⟩
    rw [left.named, machine, named]

private theorem observe_follows {account : Account} (order : InOrder id account) {bot : Bot}
    (member : bot ∈ account.ledger.bots) {change : Bot × List Report} (changes : Changes bot change) :
    Follows id (some account) (account.observe change) := by
  cases account with
  | vacant ledger =>
    obtain ⟨numbered, gone⟩ := order
    have ages := numbered.replace member changes.ages
    exact ⟨⟨numbered.map _ ages, gone.map _ ages⟩, .aged _ .refl ages, List.prefix_rfl⟩
  | kept state => exact (order.1.observe member changes).follows order.2

theorem Happens.follows {around : Surroundings} {event : Keeper.Event} {before after : Option Account}
    (order : ∀ account, before = some account → InOrder id account)
    (happens : Happens around id event before after) :
    ∀ account, after = some account → Follows id before account := by
  intro account found
  cases happens with
  | nothing =>
    subst found
    exact ⟨order account rfl, .refl _⟩
  | registered policy config free same =>
    cases found
    have past : Numbered (ledgerOf before).bots ∧ AllGone (ledgerOf before).bots := by
      cases before with
      | none => exact ⟨trivial, fun _ impossible => by cases impossible⟩
      | some account =>
        cases account with
        | vacant ledger => exact order _ rfl
        | kept state => cases free
    exact ⟨⟨fresh_sound policy config past.1 past.2, same⟩, .refl _⟩
  | called account commands brought =>
    obtain ⟨earlier, present, rfl⟩ := Option.map_eq_some_iff.mp found
    subst present
    exact asked_follows (order earlier rfl) commands
  | moved same moves =>
    cases found
    exact move_follows (order _ rfl) moves
  | @observed earlier bot change member changes =>
    cases found
    exact observe_follows (order earlier rfl) member changes

/-- Nothing is forgotten of an account, and none is removed. -/
theorem Happens.continues {around : Surroundings} {event : Keeper.Event}
    {before after : Option Account}
    (order : ∀ account, before = some account → InOrder id account)
    (happens : Happens around id event before after) :
    Continues (ledgerOf before) (ledgerOf after) := by
  have follows := happens.follows order
  cases found : after with
  | some account => exact (follows account found).2
  | none =>
    cases happens with
    | nothing => exact found ▸ .refl _
    | called account commands brought =>
      rw [Option.map_eq_none_iff.mp found]
      exact .refl _
    | registered | moved | observed => cases found

/-- What every turn of an account preserves holds of it after a run. -/
theorem run_preserves {allowed : Keeper.Event → Prop} {motive : Option Account → Prop}
    (turns : ∀ {around event before after}, allowed event → motive before →
      Happens around id event before after → motive after)
    {start keeper : Keeper} (run : Keeper.Run allowed start keeper)
    (begins : motive (start.accounts.get? id)) : motive (keeper.accounts.get? id) := by
  induction run with
  | refl => exact begins
  | step _ fits happens ih => exact turns fits ih (step_happens happens id)

private theorem run_inOrder {allowed : Keeper.Event → Prop} {start keeper : Keeper}
    (run : Keeper.Run allowed start keeper)
    (begins : ∀ account, start.accounts.get? id = some account → InOrder id account) :
    ∀ account, keeper.accounts.get? id = some account → InOrder id account :=
  run_preserves (motive := fun held => ∀ account, held = some account → InOrder id account)
    (fun _ order happens account found => (happens.follows order account found).1) run begins

theorem reachable_inOrder {keeper : Keeper} (reachable : keeper.Reachable) (account : Account)
    (found : keeper.accounts.get? id = some account) : InOrder id account := by
  obtain ⟨around, _, run⟩ := reachable
  refine run_inOrder run (fun account impossible => ?_) account found
  simp [OrderedMap.get?_empty] at impossible

theorem reachable_sound {keeper : Keeper} (reachable : keeper.Reachable) {state : Instance}
    (registered : keeper.instance? id = some state) : Sound state state :=
  (reachable_inOrder reachable _ (kept_of_instance? registered)).1

theorem reachable_of_step {keeper after : Keeper} {event : Keeper.Event}
    (reachable : keeper.Reachable) (happens : keeper.step? event = some after) :
    after.Reachable := by
  obtain ⟨around, opened, before⟩ := reachable
  exact ⟨around, opened, before.step trivial happens⟩

theorem reachable_of_run {allowed : Keeper.Event → Prop} {keeper after : Keeper}
    (reachable : keeper.Reachable) (run : Keeper.Run allowed keeper after) : after.Reachable := by
  induction run with
  | refl => exact reachable
  | step _ _ happens ih => exact reachable_of_step ih happens

theorem run_trans {allowed : Keeper.Event → Prop} {first second third : Keeper}
    (one : Keeper.Run allowed first second) (other : Keeper.Run allowed second third) :
    Keeper.Run allowed first third := by
  induction other with
  | refl => exact one
  | step _ fits happens ih => exact ih.step fits happens

theorem run_of_steps {allowed : Keeper.Event → Prop} {start between after : Keeper}
    (run : Keeper.Run allowed start between) (events : List Keeper.Event)
    (fits : ∀ event ∈ events, allowed event) (steps : between.steps? events = some after) :
    Keeper.Run allowed start after := by
  induction events generalizing between with
  | nil => exact Option.some.inj steps ▸ run
  | cons event rest ih =>
    obtain ⟨next, happens, steps⟩ := Option.bind_eq_some_iff.mp steps
    exact ih (run.step (fits event (by simp)) happens)
      (fun event member => fits event (List.mem_cons_of_mem _ member)) steps

section rehearsal

def rehearsedConfig (id : AccountId) (args : List String) : InstanceConfig where
  accountId := id
  executable := "bot"
  args
  workingDir := "."

def rehearsal (configs : List InstanceConfig) (events : List Keeper.Event) : Option Keeper :=
  let start : Keeper := { around := { host := { programs := ["bot"] } } }
  start.steps? (configs.map (.add · ⟨"nameless".toList, by decide, by decide⟩) ++ events)

/-- What can be checked of a rehearsal holds of a keeper that some run leads to. -/
theorem rehearsal_reachable (configs : List InstanceConfig) (events : List Keeper.Event)
    (check : Keeper → Prop) [DecidablePred check]
    (meets : (rehearsal configs events).any (fun keeper => decide (check keeper)) = true) :
    ∃ keeper : Keeper, keeper.Reachable ∧ check keeper := by
  obtain ⟨keeper, steps, checked⟩ := (Option.any_eq_true _ _).mp meets
  exact ⟨keeper, ⟨_, rfl, run_of_steps .refl _ (fun _ _ => trivial) steps⟩, by simpa using checked⟩

end rehearsal

end BotKeeper.Proofs
