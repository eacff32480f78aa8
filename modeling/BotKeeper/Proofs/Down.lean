import BotKeeper.Proofs.UpdateGate

/-! Which instances come back by themselves. A stopped instance is down if nothing that
was asked of it before will start it. It stays down as long as nobody asks for a start or
a reboot, and this is exactly what being down means: any other stopped instance may still
come back. -/

namespace BotKeeper.Proofs

def startsNext : List Request → Bool
  | [] => false
  | request :: rest =>
    match request.command with
    | .start | .reboot => true
    | .delete => false
    | .stop | .update _ => startsNext rest

/-- An account that has no instance, or a stopped one that nothing will start. -/
def Down : Account → Prop
  | .vacant _ => True
  | .kept state => state.machine.phase = .stopped ∧ state.pendingStart = none ∧
    startsNext state.requests = false

def Undemanding (event : Keeper.Event) : Prop :=
  ∀ command, event.command? = some command → starts command = false

private theorem startsNext_head {requests : List Request} (quiet : startsNext requests = false) :
    ∀ request ∈ requests.head?, starts request.command = false := by
  intro request head
  cases requests with
  | nil => cases head
  | cons first rest =>
    cases head
    obtain ⟨ticket, command⟩ := request
    cases command with
    | start | reboot => cases quiet
    | stop | update | delete => rfl

theorem startsNext_append {more : List Request} (requests : List Request)
    (quiet : ∀ request ∈ more, starts request.command = false) :
    startsNext (requests ++ more) = startsNext requests := by
  induction requests with
  | nil =>
    induction more with
    | nil => rfl
    | cons request rest ih =>
      have silent := quiet request (by simp)
      have later := ih fun other member => quiet other (List.mem_cons_of_mem _ member)
      obtain ⟨ticket, command⟩ := request
      cases command with
      | start | reboot => cases silent
      | stop | update => exact later
      | delete => rfl
  | cons request rest ih =>
    obtain ⟨ticket, command⟩ := request
    cases command with
    | start | reboot | delete => rfl
    | stop | update => exact ih

variable {around : Surroundings} {id : AccountId}

theorem move_requests {state after : Instance} {move : Move} (order : InOrder id (.kept state))
    (moves : Moves around state move (.kept after)) :
    after.requests = (taken move state).requests :=
  (order.1.move around moves).requests

theorem move_down {state : Instance} {move : Move} {account : Account}
    (order : InOrder id (.kept state)) (down : Down (.kept state))
    (moves : Moves around state move account) : Down account := by
  obtain ⟨stopped, unpending, quiet⟩ := down
  have rests := move_stopped order.1 stopped (.inr ⟨unpending, startsNext_head quiet⟩) moves
  cases account with
  | vacant ledger => trivial
  | kept after =>
    refine ⟨rests.phase, rests.pending.elim (fun none => none) (·.trans unpending), ?_⟩
    rw [move_requests order moves]
    cases move with
    | serve =>
      generalize result : Account.kept after = account at moves
      cases moves with
      | @serve request rest idle requests =>
        obtain ⟨ticket, command⟩ := request
        simp only [taken, requests, List.tail_cons] at quiet ⊢
        cases command with
        | start | reboot => cases quiet
        | stop | update => exact quiet
        | delete =>
          have isStopped : state.machine.phase.isStopped = true := by simp [stopped, Phase.isStopped]
          simp only [Instance.serve, Instance.delete, Machine.checkIdle, isStopped, if_true] at result
          cases result
    | receive | restart | conclude | resume | timeout | giveUp => exact quiet

/-- What is down stays down, and publishes no phase, as long as no start is asked for. -/
theorem Happens.down {event : Keeper.Event} {before after : Option Account}
    (order : ∀ account, before = some account → InOrder id account)
    (down : ∀ account, before = some account → Down account) (undemanding : Undemanding event)
    (happens : Happens around id event before after) :
    (∀ account, after = some account → Down account) ∧ Uneventful before after := by
  have rest : AtRest before := by
    intro state kept
    exact (down _ kept).1
  have uneventful : Uneventful before after := by
    apply happens.uneventful order rest
    intro state kept
    obtain ⟨_, unpending, quiet⟩ := down _ kept
    exact .inr ⟨unpending, startsNext_head quiet⟩
  refine ⟨?_, uneventful⟩
  intro account found
  cases happens with
  | nothing => exact down account found
  | registered policy config free same =>
    cases found
    exact ⟨rfl, rfl, rfl⟩
  | called account commands brought =>
    obtain ⟨earlier, present, rfl⟩ := Option.map_eq_some_iff.mp found
    subst present
    cases earlier with
    | vacant ledger => trivial
    | kept state =>
      obtain ⟨stopped, unpending, quiet⟩ := down _ rfl
      obtain ⟨more, calls, same, new⟩ := asked_kept state commands
      rw [same]
      refine ⟨stopped, unpending, ?_⟩
      rw [startsNext_append _ fun request member => undemanding _ (brought _ (new request member))]
      exact quiet
  | moved same moves =>
    cases found
    exact move_down (order _ rfl) (down _ rfl) moves
  | @observed earlier bot change member changes =>
    cases found
    cases earlier with
    | vacant ledger => trivial
    | kept state => exact down (.kept state) rfl

/-- From one keeper on, as long as no start is asked for, the instance of an id is stopped
whenever there is one, and no phase of it is published. -/
def StaysStopped (id : AccountId) (keeper : Keeper) : Prop :=
  ∀ later, Keeper.Run Undemanding keeper later →
    (∀ state, later.instance? id = some state → state.machine.phase = .stopped) ∧
    ∃ more, (later.ledger id).feed = (keeper.ledger id).feed ++ more ∧ Steady more

theorem run_down {keeper later : Keeper} (reachable : keeper.Reachable)
    (down : ∀ account, keeper.accounts.get? id = some account → Down account)
    (run : Keeper.Run Undemanding keeper later) :
    (∀ account, later.accounts.get? id = some account → Down account) ∧
      ∃ more, (later.ledger id).feed = (keeper.ledger id).feed ++ more ∧ Steady more := by
  induction run with
  | refl => exact ⟨down, [], (List.append_nil _).symm, by simp [Steady]⟩
  | @step between after event run fits happens ih =>
    obtain ⟨stillDown, early, published, steady⟩ := ih
    have earlier := reachable_of_run reachable run
    obtain ⟨afterDown, uneventful⟩ :=
      (step_happens happens id).down (reachable_inOrder earlier) stillDown fits
    obtain ⟨late, continued, stillSteady⟩ := uneventful.feed
    refine ⟨afterDown, early ++ late, ?_, steady.append stillSteady⟩
    rw [← List.append_assoc, ← published]
    exact continued

theorem staysStopped_of_down {keeper : Keeper} (reachable : keeper.Reachable)
    (down : ∀ account, keeper.accounts.get? id = some account → Down account) :
    StaysStopped id keeper := by
  intro later run
  obtain ⟨stillDown, quiet⟩ := run_down reachable down run
  exact ⟨fun state registered => (stillDown _ (kept_of_instance? registered)).1, quiet⟩

/-- Though nobody asks for a start, the instance of an id may publish a phase. -/
def MayMove (id : AccountId) (keeper : Keeper) : Prop :=
  ∃ later more, Keeper.Run Undemanding keeper later ∧
    (later.ledger id).feed = (keeper.ledger id).feed ++ more ∧ ¬ Steady more

theorem MayMove.unstays {keeper : Keeper} (moves : MayMove id keeper) : ¬ StaysStopped id keeper := by
  intro stays
  obtain ⟨later, more, run, feed, unsteady⟩ := moves
  obtain ⟨_, same, feeds, steady⟩ := stays later run
  exact unsteady (List.append_cancel_left (feed.symm.trans feeds) ▸ steady)

private theorem spawn_feed (around : Surroundings) (state : Instance) :
    state.feed <+: (state.spawn around).1.feed := by
  unfold Instance.spawn
  dsimp only
  split
  · exact List.prefix_rfl
  · exact (List.prefix_append _ _).trans (List.prefix_append _ _)

/-- A start is published right after what was published before, even if its launch fails. -/
theorem start_published (opened : around.gate = false) (state : Instance)
    (stopped : state.machine.phase = .stopped) (operator : Bool) :
    ∃ more, (state.start around operator).1.feed =
      state.feed ++ .phaseChanged state.id .stopped .starting :: more := by
  rcases start_cases state.machine with ⟨running, _⟩ | ⟨_, started⟩
  · exact absurd stopped running
  · simp only [Instance.start, opened, Bool.false_eq_true, if_false, started]
    generalize begun : Instance.publishTransition _ _ = between
    have told : between.feed = state.feed ++ [.phaseChanged state.id .stopped .starting] := by
      subst between
      rfl
    obtain ⟨more, launched⟩ := spawn_feed around between
    refine ⟨more, ?_⟩
    rw [told, List.append_assoc] at launched
    generalize between.spawn around = result at launched
    obtain ⟨after, _ | _⟩ := result
    · exact launched.symm
    · exact launched.symm

theorem start_unsteady (opened : around.gate = false) (state : Instance)
    (stopped : state.machine.phase = .stopped) (operator : Bool) :
    ∃ more, (state.start around operator).1.feed = state.feed ++ more ∧ ¬ Steady more := by
  obtain ⟨more, published⟩ := start_published opened state stopped operator
  exact ⟨_, published, fun steady => steady _ List.mem_cons_self _ _ _ rfl⟩

theorem ledger_put (keeper : Keeper) (id : AccountId) (account : Account) :
    (keeper.put id account).ledger id = account.ledger := by
  unfold Keeper.ledger
  rw [get?_put, if_pos rfl]
  rfl

section moves

variable {keeper : Keeper} {state after : Instance} {move : Move}

theorem step_of_moves (registered : keeper.instance? id = some state)
    (moves : Moves keeper.around state move (.kept after)) :
    keeper.step? (.move id move) = some (keeper.put id (.kept after)) := by
  simp only [Keeper.step?, Keeper.move?, registered, Option.bind_some,
    moves.move?, Option.map_some]

theorem undemanding_move (move : Move) : Undemanding (.move id move) :=
  fun _ impossible => by cases impossible

theorem ledger_of_instance? (registered : keeper.instance? id = some state) :
    keeper.ledger id = state.toLedger := by
  simp [Keeper.ledger, kept_of_instance? registered, Account.ledger]

theorem MayMove.of_start (registered : keeper.instance? id = some state)
    (moves : Moves keeper.around state move (.kept after))
    (published : ∃ more, after.feed = state.feed ++ more ∧ ¬ Steady more) : MayMove id keeper := by
  obtain ⟨more, feed, unsteady⟩ := published
  refine ⟨_, more, .step .refl (undemanding_move move) (step_of_moves registered moves), ?_, unsteady⟩
  rw [ledger_put, ledger_of_instance? registered]
  exact feed

theorem MayMove.of_move (registered : keeper.instance? id = some state)
    (moves : Moves keeper.around state move (.kept after)) (feed : after.feed = state.feed)
    (later : MayMove id (keeper.put id (.kept after))) : MayMove id keeper := by
  obtain ⟨last, more, run, continued, unsteady⟩ := later
  have first : Keeper.Run Undemanding keeper (keeper.put id (.kept after)) :=
    .step .refl (undemanding_move move) (step_of_moves registered moves)
  refine ⟨last, more, run_trans first run, ?_, unsteady⟩
  rw [continued, ledger_put, ledger_of_instance? registered]
  exact congrArg (· ++ more) feed

/-- A stopped instance looks at its calls until one of them starts it. -/
theorem mayMove_of_startsNext (opened : keeper.around.gate = false)
    (registered : keeper.instance? id = some state) (sound : Sound state state)
    (stopped : state.machine.phase = .stopped) (idle : state.busy = none)
    (next : startsNext state.requests = true) : MayMove id keeper := by
  generalize queued : state.requests = requests at next
  -- Each call that is only answered leads to another keeper, with one call less.
  induction requests generalizing keeper state with
  | nil => cases next
  | cons request rest ih =>
    have popped := sound.requeue rest state.calls
    have moves : Moves keeper.around state .serve _ := .serve idle queued
    have isStopped : state.machine.phase.isStopped = true := by simp [stopped, Phase.isStopped]
    obtain ⟨ticket, command⟩ := request
    cases command with
    | start =>
      exact .of_start registered moves
        (start_unsteady opened { state with requests := rest } stopped true)
    | reboot =>
      simp only [Instance.serve, Instance.reboot, isStopped, if_true] at moves
      exact .of_start registered moves
        (start_unsteady opened { state with requests := rest } stopped true)
    | delete => cases next
    | stop =>
      have pending : state.pendingStart ≠ some .scheduled := by
        simp [(sound.unawaited idle (by simp [stopped])).1]
      have refused := stop_refused fun up => up.1 stopped
      simp only [Instance.serve, Instance.stop, pending, if_false, refused] at moves
      exact .of_move registered moves rfl
        (ih opened (instance?_put keeper id _) (popped.answer ticket _).rebase stopped idle rfl next)
    | update config =>
      simp only [Instance.serve, Instance.update, Machine.checkIdle, isStopped, if_true] at moves
      have renamed := ((popped.present state.feed config).answer ticket (.ok ())).rebase
      exact .of_move registered moves rfl
        (ih opened (instance?_put keeper id _) renamed stopped idle rfl next)

/-- The gate can be opened, and nothing else changes by that. -/
theorem run_opened (allowed : Keeper.Event → Prop) (allows : allowed .endUpdate)
    (reachable : keeper.Reachable) : ∃ opened : Keeper, Keeper.Run allowed keeper opened ∧
      opened.around.gate = false ∧ opened.accounts = keeper.accounts := by
  have permits := (reachable_gateKept reachable).permits
  cases gate : keeper.around.gate with
  | false => exact ⟨keeper, .refl, gate, rfl⟩
  | true =>
    rw [gate, if_pos rfl] at permits
    have steps : keeper.step? .endUpdate = some
        { keeper with around := { keeper.around with gate := false }, permits := 0 } := by
      simp only [Keeper.step?, Keeper.endUpdate?, permits]
    exact ⟨_, .step .refl allows steps, rfl, rfl⟩

private theorem mayMove_of_halted (opened : keeper.around.gate = false)
    (registered : keeper.instance? id = some state) (sound : Sound state state)
    (stopped : state.machine.phase = .stopped) (halted : state.busy = some .halted)
    (next : state.pendingStart = none → startsNext state.requests = true) : MayMove id keeper := by
  have moves : Moves keeper.around state .conclude _ := .conclude halted
  have concluded := (sound.afterStop keeper.around).rebase
  unfold Instance.afterStop at moves concluded
  dsimp only at moves concluded
  generalize free : Instance.releaseStops _ = released at moves concluded
  have rest : released.machine.phase = .stopped := by
    subst released
    exact stopped
  have feed : released.feed = state.feed := by
    subst released
    rfl
  cases pending : state.pendingStart with
  | none =>
    simp only [pending] at moves concluded
    have idle : released.busy = none := by
      subst released
      rfl
    have requests : released.requests = state.requests := by
      subst released
      rfl
    exact .of_move registered moves feed (mayMove_of_startsNext opened
      (instance?_put keeper id (.kept released)) concluded rest idle (requests ▸ next pending))
  | some start =>
    obtain ⟨more, published, unsteady⟩ := start_unsteady opened released rest
      (start != .scheduled)
    rw [feed] at published
    cases start with
    | requested ticket =>
      simp only [pending] at moves
      exact .of_start registered moves ⟨more, published, unsteady⟩
    | scheduled =>
      simp only [pending] at moves
      exact .of_start registered moves ⟨more, published, unsteady⟩

private theorem mayMove_of_not_down (reachable : keeper.Reachable)
    (registered : keeper.instance? id = some state) (stopped : state.machine.phase = .stopped)
    (not : ¬ Down (.kept state)) : MayMove id keeper := by
  have allows : Undemanding .endUpdate := fun _ impossible => by cases impossible
  obtain ⟨freed, run, opened, accounts⟩ := run_opened _ allows reachable
  have sound := reachable_sound reachable registered
  have stillRegistered : freed.instance? id = some state := by
    simpa only [Keeper.instance?, accounts] using registered
  have next : state.pendingStart = none → startsNext state.requests = true := by
    intro unpending
    cases quiet : startsNext state.requests with
    | true => rfl
    | false => exact absurd ⟨stopped, unpending, quiet⟩ not
  have moves : MayMove id freed := by
    cases busy : state.busy with
    | none =>
      have unpending := (sound.unawaited busy (by simp [stopped])).1
      exact mayMove_of_startsNext opened stillRegistered sound stopped busy (next unpending)
    | some business =>
      cases business with
      | wait wait => exact absurd stopped (sound.waits wait busy).1.not_stopped
      | halted => exact mayMove_of_halted opened stillRegistered sound stopped busy next
  obtain ⟨later, more, continues, feed, unsteady⟩ := moves
  refine ⟨later, more, run_trans run continues, ?_, unsteady⟩
  rw [feed, Keeper.ledger, Keeper.ledger, accounts]

/-- An account is down exactly when its instance stays stopped until a start is asked for. -/
theorem staysStopped_iff (reachable : keeper.Reachable) (id : AccountId) :
    StaysStopped id keeper ↔
      ∀ account, keeper.accounts.get? id = some account → Down account := by
  constructor
  · intro stays account found
    cases account with
    | vacant ledger => trivial
    | kept state =>
      have registered := instance?_of_kept found
      have stopped := (stays keeper .refl).1 state registered
      by_cases down : Down (.kept state)
      · exact down
      · exact absurd stays (mayMove_of_not_down reachable registered stopped down).unstays
  · exact staysStopped_of_down reachable

end moves

end BotKeeper.Proofs
