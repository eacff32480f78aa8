import BotKeeper.Proofs.Runs

/-! What happens to an instance beside its own moves. Its processes may change and report, and it
may be handed more calls, but it does nothing, and launches no process. -/

namespace BotKeeper.Proofs

structure Unmoved (event : Keeper.Event) (before after : Instance) : Prop where
  same : ∃ bots messages requests calls,
    after = { before with bots, messages, requests, calls }
  bots : after.bots.length = before.bots.length
  answers : after.answers = before.answers
  requests : ∃ more, after.requests = before.requests ++ more ∧
    ∀ request ∈ more, event.command? = some request.command

variable {before after : Keeper} {id : AccountId} {event : Keeper.Event} {state : Instance}

theorem Unmoved.refl (event : Keeper.Event) (state : Instance) : Unmoved event state state :=
  ⟨⟨_, _, _, _, rfl⟩, rfl, rfl, [], (List.append_nil _).symm, by simp⟩

theorem Unmoved.asked (state : Instance) {commands : List Command}
    (brought : ∀ command ∈ commands, event.command? = some command) :
    ∃ after, asked commands (.kept state) = .kept after ∧ Unmoved event state after := by
  obtain ⟨more, calls, same, new⟩ := asked_kept state commands
  exact ⟨_, same, ⟨_, _, _, _, rfl⟩, rfl, rfl, more, rfl,
    fun request member => brought _ (new request member)⟩

theorem Unmoved.observed (event : Keeper.Event) (state : Instance) (change : Bot × List Report) :
    Unmoved event state (state.observe change) :=
  ⟨⟨_, _, _, _, rfl⟩, by simp [Instance.observe, Ledger.replace], rfl, [],
    (List.append_nil _).symm, by simp⟩

/-- What happens to an account is a move of its instance, or leaves the instance unmoved. -/
theorem Happens.turns {around : Surroundings} {account : Option Account}
    (happens : Happens around id event (some (.kept state)) account) :
    (∃ next, account = some (.kept next) ∧ Unmoved event state next) ∨
      ∃ move next, event = .move id move ∧ account = some next ∧ Moves around state move next := by
  cases happens with
  | nothing => exact .inl ⟨state, rfl, .refl event state⟩
  | registered policy config free same => cases free
  | called _ commands brought =>
    obtain ⟨next, same, unmoved⟩ := Unmoved.asked state brought
    exact .inl ⟨next, congrArg some same, unmoved⟩
  | @moved _ move next same moves => exact .inr ⟨move, next, same, rfl, moves⟩
  | @observed _ bot change member changes => exact .inl ⟨_, rfl, .observed event state change⟩

theorem step_turns (happens : before.step? event = some after)
    (registered : before.instance? id = some state) :
    (∃ next, after.instance? id = some next ∧ Unmoved event state next) ∨
      ∃ move account, event = .move id move ∧ after.accounts.get? id = some account ∧
        Moves before.around state move account := by
  have turn := step_happens happens id
  rw [kept_of_instance? registered] at turn
  rcases turn.turns with ⟨next, kept, unmoved⟩ | moved
  · exact .inl ⟨next, instance?_of_kept kept, unmoved⟩
  · exact .inr moved

/-- What happens to an account by other events than its moves leaves its instance unmoved. -/
theorem step_unmoved (happens : before.step? event = some after)
    (other : ∀ move, event ≠ .move id move) (registered : before.instance? id = some state) :
    ∃ next, after.instance? id = some next ∧ Unmoved event state next := by
  rcases step_turns happens registered with unmoved | ⟨move, _, same, _⟩
  · exact unmoved
  · exact absurd same (other move)

/-- An instance that was not there before goes on with the ledger of its account. -/
theorem step_registered (happens : before.step? event = some after)
    (absent : before.instance? id = none) (registered : after.instance? id = some state) :
    ∃ policy config, state = Instance.fresh policy config (before.ledger id) := by
  have turn := step_happens happens id
  rw [kept_of_instance? registered] at turn
  unfold Keeper.instance? at absent
  unfold Keeper.ledger
  generalize before.accounts.get? id = account at turn absent
  generalize now : some (Account.kept state) = found at turn
  cases turn with
  | registered policy config free same =>
    cases now
    exact ⟨_, _, rfl⟩
  | nothing =>
    subst now
    cases absent
  | called _ commands brought =>
    cases account with
    | none => cases now
    | some account =>
      cases account with
      | vacant ledger => cases now
      | kept earlier => cases absent
  | moved => cases absent
  | @observed account =>
    cases account with
    | vacant ledger => cases now
    | kept earlier => cases absent

/-- Where an instance comes from: it was registered just now, or it was there before. -/
theorem step_origin (happens : before.step? event = some after)
    (registered : after.instance? id = some state) :
    (∃ policy config ledger, state = Instance.fresh policy config ledger) ∨
      ∃ earlier, before.instance? id = some earlier ∧ (Unmoved event earlier state ∨
        ∃ move, event = .move id move ∧ Moves before.around earlier move (.kept state)) := by
  cases present : before.instance? id with
  | some earlier =>
    refine .inr ⟨earlier, rfl, ?_⟩
    rcases step_turns happens present with ⟨next, kept, unmoved⟩ | ⟨move, account, same, found, moves⟩
    · exact .inl (Option.some.inj (registered.symm.trans kept) ▸ unmoved)
    · cases found.symm.trans (kept_of_instance? registered)
      exact .inr ⟨move, same, moves⟩
  | none =>
    obtain ⟨policy, config, fresh⟩ := step_registered happens present registered
    exact .inl ⟨policy, config, _, fresh⟩

end BotKeeper.Proofs
