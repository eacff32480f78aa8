import BotKeeper.Proofs.Calls
import BotKeeper.Proofs.Descent
import BotKeeper.Proofs.Down
import BotKeeper.Proofs.Failures

/-! What a stop of all instances achieves. Each instance that was up is handed a stop,
and what becomes of that call can be followed to its answer: unless the stop fails, the
instance goes down, or it was about to stop already when it looked at the call. Of an
instance that is about to stop nothing is promised, and a start may be pending there. -/

namespace BotKeeper.Proofs

variable {around : Surroundings} {id : AccountId} {ticket : Ticket}

def Quiet (requests : List Request) : Prop :=
  ∀ request ∈ requests, starts request.command = false

def stoppingAlready (id : AccountId) : Error :=
  .invalidTransition id "stop" .stopping

inductive Promised (id : AccountId) (ticket : Ticket) : Account → Prop where
  | queued {state : Instance} {front back : List Request}
      (requests : state.requests = front ++ ⟨ticket, .stop⟩ :: back) (quiet : Quiet back) :
      Promised id ticket (.kept state)
  | ending {state : Instance} {wait : Wait} (busy : state.busy = some (.wait wait))
      (purpose : wait.purpose = .stop ticket) (quiet : Quiet state.requests) :
      Promised id ticket (.kept state)
  | awaited {state : Instance} (waiter : ticket ∈ state.stopWaiters)
      (quiet : Quiet state.requests) : Promised id ticket (.kept state)
  | down {account : Account} (down : Down account) : Promised id ticket account
  | failed {account : Account} {error : Error} (kind : error.kind ≠ .invalidTransition)
      (answer : ⟨ticket, .error error⟩ ∈ account.ledger.answers) : Promised id ticket account
  | refused {account : Account}
      (answer : ⟨ticket, .error (stoppingAlready id)⟩ ∈ account.ledger.answers) :
      Promised id ticket account

theorem Promised.vacated {ledger : Ledger} (promised : Promised id ticket (.vacant ledger))
    {account : Account} (down : Down account) (answers : account.ledger.answers = ledger.answers) :
    Promised id ticket account := by
  cases promised with
  | down => exact .down down
  | failed kind answer => exact .failed kind (answers ▸ answer)
  | refused answer => exact .refused (answers ▸ answer)

private theorem startsNext_of_quiet {requests : List Request} (quiet : Quiet requests) :
    startsNext requests = false :=
  startsNext_append [] quiet

private theorem goOn_promised {state : Instance} {wait : Wait} {result : Instance × Ending}
    (running : state.machine.phase ≠ .stopped) (effects : wait.effects = [])
    (purpose : wait.purpose = .stop ticket) (quiet : Quiet state.requests)
    (same : SameButBots state result.1)
    (failed : ∀ error, result.2 = .failed error → error.kind = .process) :
    Promised id ticket (.kept (Instance.goOn around wait result)) := by
  obtain ⟨bots, messages, ending, rfl⟩ := same.result
  cases ending with
  | complete =>
    have isStopped : state.machine.phase.isStopped = false := by simpa [Phase.isStopped] using running
    simp only [Instance.goOn, effects, purpose, Instance.perform_nil, Instance.complete, isStopped,
      Bool.false_eq_true, if_false]
    exact .awaited (by simp) quiet
  | failed error =>
    simp only [Instance.goOn, purpose, Instance.complete]
    have kind : error.kind ≠ .invalidTransition := by
      rw [failed error rfl]
      decide
    exact .failed kind (by simp [Account.ledger, Instance.answer, Ledger.answered])
  | awaited pressure deadline => exact .ending rfl purpose quiet

private theorem stop_promised {origin state : Instance} (sound : Sound origin state)
    (named : state.machine.id = id) (idle : state.busy = none) (quiet : Quiet state.requests) :
    Promised id ticket (.kept (state.stop around ticket)) := by
  unfold Instance.stop
  split
  · exact .awaited (by simp) quiet
  · rcases stop_cases state.machine with ⟨down, refused⟩ | ⟨machine, graceful, same, stopping, stopped⟩
    · rw [refused]
      by_cases halted : state.machine.phase = .stopped
      · have unpending := (sound.unawaited idle (by simp [halted])).1
        exact .down ⟨halted, unpending, startsNext_of_quiet quiet⟩
      · have phase : state.machine.phase = .stopping :=
          Classical.byContradiction fun other => down ⟨halted, other⟩
        refine .refused ?_
        simp [Account.ledger, Instance.answer, Ledger.answered, stoppingAlready, named, phase]
    · rw [stopped]
      have records : Recorded origin
          ({ state with machine, restartAt := none }.publishTransition
            ⟨state.machine.phase, .stopping, [.terminate graceful]⟩) :=
        sound.toRecorded.advance same _ _
      dsimp only
      rw [perform_terminate_goOn]
      · refine goOn_promised ?_ rfl rfl ?_ (terminate_same around _ graceful) ?_
        · exact same.still
        · exact quiet
        · exact (Brought.terminate around graceful records.toCustody).failed
      · exact idle

section moves

variable {state : Instance} {move : Move} {account : Account}

private theorem queued_promised (order : InOrder id (.kept state)) {front back : List Request}
    (requests : state.requests = front ++ ⟨ticket, .stop⟩ :: back) (quiet : Quiet back)
    (moves : Moves around state move account) : Promised id ticket account := by
  have left := order.1.move around moves
  cases moves with
  | receive | restart | conclude | resume | timeout | giveUp =>
    exact .queued (Eq.trans left.requests requests) quiet
  | @serve request rest idle queue =>
    cases front with
    | nil =>
      obtain ⟨rfl, rfl⟩ := List.cons.inj (queue.symm.trans requests)
      exact stop_promised (order.1.requeue rest state.calls) order.2 idle quiet
    | cons first front =>
      generalize Instance.serve around request _ = account at left
      cases account with
      | vacant ledger => exact .down trivial
      | kept after =>
        have queue : after.requests = front ++ ⟨ticket, .stop⟩ :: back := by
          rw [left.requests]
          simp only [taken, requests, List.cons_append, List.tail_cons]
        exact .queued queue quiet

private theorem ending_promised (order : InOrder id (.kept state)) {wait : Wait}
    (busy : state.busy = some (.wait wait)) (purpose : wait.purpose = .stop ticket)
    (quiet : Quiet state.requests) (moves : Moves around state move account) :
    Promised id ticket account := by
  obtain ⟨plan, unawaited⟩ := order.1.waits wait busy
  have running := plan.not_stopped
  have effects : wait.effects = [] := by
    rw [purpose] at plan
    exact plan.stop_effects
  cases order.1.awaits busy moves with
  | goesOn brought same => exact goOn_promised running effects purpose quiet same brought.failed
  | givesUp => exact .ending busy purpose quiet

private theorem awaited_promised (order : InOrder id (.kept state))
    (waiter : ticket ∈ state.stopWaiters)
    (quiet : Quiet state.requests) (moves : Moves around state move account) :
    Promised id ticket account := by
  have awaits : state.stopWaiters ≠ [] := List.ne_nil_of_mem waiter
  have unpending : state.pendingStart = none := order.1.exclusive.resolve_right awaits
  have left := order.1.move around moves
  cases order.1.goesDown (fun unawaited => awaits unawaited.2) (by simp [unpending]) moves with
  | further lowers =>
    refine .awaited (lowers.waiters ▸ waiter) fun request member => quiet request ?_
    exact mem_of_taken (left.requests ▸ member)
  | concluded halted =>
    simp only [Instance.afterStop, unpending]
    exact .down ⟨order.1.halted halted, rfl, startsNext_of_quiet quiet⟩

private theorem move_promised {state : Instance} {move : Move} {account : Account}
    (order : InOrder id (.kept state)) (promised : Promised id ticket (.kept state))
    (moves : Moves around state move account) : Promised id ticket account := by
  have left := order.1.move around moves
  have more : state.answers <+: account.ledger.answers := (move_follows order moves).2.answers
  cases promised with
  | down down => exact .down (move_down order down moves)
  | failed kind answer => exact .failed kind (more.subset answer)
  | refused answer => exact .refused (more.subset answer)
  | queued requests quiet => exact queued_promised order requests quiet moves
  | ending busy purpose quiet => exact ending_promised order busy purpose quiet moves
  | awaited waiter quiet => exact awaited_promised order waiter quiet moves

end moves

theorem Quiet.append {requests more : List Request} (quiet : Quiet requests)
    (still : Quiet more) : Quiet (requests ++ more) := by
  intro request member
  rcases List.mem_append.mp member with early | late
  · exact quiet request early
  · exact still request late

private theorem asked_promised {account : Account} (promised : Promised id ticket account)
    {commands : List Command} (undemanding : ∀ command ∈ commands, starts command = false) :
    Promised id ticket (asked commands account) := by
  cases account with
  | vacant ledger => exact promised
  | kept state =>
    obtain ⟨more, calls, same, new⟩ := asked_kept state commands
    have still : Quiet more := fun request member => undemanding _ (new request member)
    rw [same]
    cases promised with
    | @queued _ front back requests quiet =>
      have queue : state.requests ++ more = front ++ ⟨ticket, .stop⟩ :: (back ++ more) := by
        rw [requests, List.append_assoc, List.cons_append]
      exact .queued queue (quiet.append still)
    | ending busy purpose quiet => exact .ending busy purpose (quiet.append still)
    | awaited waiter quiet => exact .awaited waiter (quiet.append still)
    | down down =>
      obtain ⟨stopped, unpending, quiet⟩ := down
      exact .down ⟨stopped, unpending, (startsNext_append _ still).trans quiet⟩
    | failed kind answer => exact .failed kind answer
    | refused answer => exact .refused answer

/-- The stop is followed through whatever happens, as long as no start is asked for. -/
theorem Happens.promised {event : Keeper.Event} {before : Account} {after : Option Account}
    (order : InOrder id before) (promised : Promised id ticket before)
    (undemanding : Undemanding event) (happens : Happens around id event (some before) after) :
    ∃ account, after = some account ∧ Promised id ticket account := by
  generalize present : some before = held at happens
  cases happens with
  | nothing => exact ⟨before, present.symm, promised⟩
  | registered policy config free same =>
    subst held
    cases before with
    | kept state => cases free
    | vacant ledger => exact ⟨_, rfl, promised.vacated ⟨rfl, rfl, rfl⟩ rfl⟩
  | called account commands brought =>
    subst held
    exact ⟨_, rfl, asked_promised promised fun command member => undemanding _ (brought _ member)⟩
  | moved same moves =>
    cases present
    exact ⟨_, rfl, move_promised order promised moves⟩
  | @observed earlier bot change member changes =>
    cases present
    refine ⟨_, rfl, ?_⟩
    cases before with
    | vacant ledger => exact promised.vacated trivial rfl
    | kept state =>
      cases promised with
      | queued requests quiet => exact .queued requests quiet
      | ending busy purpose quiet => exact .ending busy purpose quiet
      | awaited waiter quiet => exact .awaited waiter quiet
      | down down => exact .down down
      | failed kind answer => exact .failed kind answer
      | refused answer => exact .refused answer

private theorem run_promised {keeper after : Keeper} (reachable : keeper.Reachable)
    (run : Keeper.Run Undemanding keeper after) {account : Account}
    (found : keeper.accounts.get? id = some account) (promised : Promised id ticket account) :
    ∃ account, after.accounts.get? id = some account ∧ Promised id ticket account := by
  induction run with
  | refl => exact ⟨account, found, promised⟩
  | step run fits happens ih =>
    obtain ⟨between, present, still⟩ := ih
    have order := reachable_inOrder (reachable_of_run reachable run) _ present
    exact (present ▸ step_happens happens id).promised order still fits

private theorem stopEach_promised {keeper : Keeper} {targets : List AccountId} (target : id ∈ targets)
    {state : Instance} (registered : keeper.instance? id = some state) :
    ∃ ticket account, ⟨id, ticket⟩ ∈ (keeper.stopEach targets).2 ∧
      (keeper.stopEach targets).1.accounts.get? id = some account ∧ Promised id ticket account := by
  induction targets generalizing keeper state with
  | nil => cases target
  | cons first rest ih =>
    unfold Keeper.stopEach
    by_cases here : first = id
    · subst first
      have called : keeper.call id .stop =
          (keeper.put id (.kept (state.take .stop)), .ok ⟨id, state.calls⟩) := by
        simp only [Keeper.call, Keeper.find, registered]
      obtain ⟨commands, stops, asks⟩ := stopEach_asks id rest (keeper.put id (.kept (state.take .stop)))
      have queued : Promised id state.calls (.kept (state.take .stop)) :=
        .queued rfl fun _ impossible => by cases impossible
      rw [called]
      refine ⟨state.calls, asked commands (.kept (state.take .stop)), by simp, ?_, ?_⟩
      · dsimp only
        rw [asks, get?_put, if_pos rfl, Option.map_some]
      · exact asked_promised queued fun command member => by rw [stops command member]; rfl
    · have inside : id ∈ rest := (List.mem_cons.mp target).resolve_left (Ne.symm here)
      obtain ⟨commands, _, asks⟩ := call_asks keeper first id .stop
      obtain ⟨more, calls, same, _⟩ := asked_kept state commands
      rw [kept_of_instance? registered, Option.map_some, same] at asks
      generalize keeper.call first .stop = called at asks
      obtain ⟨between, outcome⟩ := called
      obtain ⟨ticket, account, member, found, promised⟩ := ih inside (instance?_of_kept asks)
      refine ⟨ticket, account, ?_, ?_, promised⟩
      · cases outcome with
        | error error => exact member
        | ok call => exact List.mem_cons_of_mem _ member
      · cases outcome with
        | error error => exact found
        | ok call => exact found

private theorem firstFailure_ok {results : List (Except Error Unit)}
    (none : Keeper.firstFailure results = .ok ()) :
    ∀ result ∈ results, ∀ error, result = .error error → error.kind = .invalidTransition := by
  induction results with
  | nil => exact fun _ impossible => by cases impossible
  | cons first rest ih =>
    unfold Keeper.firstFailure at none ih
    rw [List.foldr_cons] at none
    intro result member error failed
    cases first with
    | ok nothing =>
      rcases List.mem_cons.mp member with here | later
      · cases here.symm.trans failed
      · exact ih none result later error failed
    | error other =>
      dsimp only at none
      split at none
      · rename_i kind
        rcases List.mem_cons.mp member with here | later
        · cases here.symm.trans failed
          exact kind
        · exact ih none result later error failed
      · cases none

private theorem result?_of_mapM {keeper : Keeper} {calls : List Call}
    {results : List (Except Error Unit)}
    (all : calls.mapM keeper.result? = some results) {call : Call} (member : call ∈ calls) :
    ∃ result ∈ results, keeper.result? call = some result := by
  induction calls generalizing results with
  | nil => cases member
  | cons next rest ih =>
    rw [List.mapM_cons] at all
    obtain ⟨first, answered, all⟩ := Option.bind_eq_some_iff.mp all
    obtain ⟨others, later, all⟩ := Option.bind_eq_some_iff.mp all
    cases all
    rcases List.mem_cons.mp member with here | inside
    · subst next
      exact ⟨first, by simp, answered⟩
    · obtain ⟨result, present, known⟩ := ih later inside
      exact ⟨result, by simp [present], known⟩

/-- A stop of all instances succeeds only if each of its calls was answered, and with no
failure other than that the call did not fit the phase. -/
theorem stopAllResult?_ok {keeper : Keeper} {calls : List Call}
    (returned : keeper.stopAllResult? calls = some (.ok ())) {call : Call} (member : call ∈ calls) :
    ∃ result, keeper.result? call = some result ∧
      ∀ error, result = .error error → error.kind = .invalidTransition := by
  obtain ⟨results, all, none⟩ := Option.map_eq_some_iff.mp returned
  obtain ⟨result, present, answered⟩ := result?_of_mapM all member
  exact ⟨result, answered, firstFailure_ok none result present⟩

section stopAll

variable {keeper after : Keeper} {state : Instance}

/-- An instance of which a stop of all instances promises nothing: it was about to stop when
the stops were handed out or when it looked at its own, or it was stopped but not down. -/
def LeftOut (keeper after : Keeper) (id : AccountId) (state : Instance) : Prop :=
  state.machine.phase = .stopping ∨
  (∃ ticket, ⟨id, ticket⟩ ∈ keeper.stopAll.2 ∧
    after.result? ⟨id, ticket⟩ = some (.error (stoppingAlready id))) ∨
  (state.machine.phase = .stopped ∧ ¬ Down (.kept state))

private theorem undemanding_stopAll : Undemanding .stopAll := by
  intro command given
  cases given
  rfl

theorem run_stopAll (keeper : Keeper) : Keeper.Run Undemanding keeper keeper.stopAll.1 := by
  have steps : keeper.step? .stopAll = some keeper.stopAll.1 := rfl
  exact .step .refl undemanding_stopAll steps

private theorem target_of_up (reachable : keeper.Reachable)
    (registered : keeper.instance? id = some state) (up : Up state.machine.phase) :
    id ∈ (keeper.snapshots.filter (Keeper.isStoppable ·.phase)).map (·.id) := by
  have order := reachable_inOrder reachable _ (kept_of_instance? registered)
  have shown : state.snapshot ∈ keeper.snapshots := mem_snapshots.mpr ⟨id, state, registered, rfl⟩
  have seen := order.1.seen
  have stoppable : Keeper.isStoppable state.snapshot.phase = true := by
    rw [seen]
    show Keeper.isStoppable state.machine.phase = true
    obtain ⟨notStopped, notStopping⟩ := up
    cases phase : state.machine.phase <;> simp_all [Keeper.isStoppable]
  refine List.mem_map.mpr ⟨state.snapshot, List.mem_filter.mpr ⟨shown, stoppable⟩, ?_⟩
  rw [seen]
  exact order.2

/-- A stop that was answered without a real failure has left the account down, unless the
instance was about to stop already. -/
theorem Promised.outcome {account : Account} (promised : Promised id ticket account)
    (reachable : after.Reachable) (found : after.accounts.get? id = some account)
    {result : Except Error Unit} (answered : after.result? ⟨id, ticket⟩ = some result)
    (kind : ∀ error, result = .error error → error.kind = .invalidTransition) :
    Down account ∨ after.result? ⟨id, ticket⟩ = some (.error (stoppingAlready id)) := by
  have ledger : account.ledger = after.ledger id := by simp [Keeper.ledger, found]
  -- A call that is owed has no result, so the three places where it would be owed are out.
  have notOwed : ∀ held, account = .kept held → ticket ∉ owed held := by
    intro held same member
    subst account
    cases answered.symm.trans (result?_of_owed reachable (instance?_of_kept found) member)
  cases promised with
  | @queued held front back requests quiet =>
    have member : ticket ∈ owed held := by simp [owed, requests]
    exact absurd member (notOwed held rfl)
  | @ending held wait busy purpose quiet =>
    have member : ticket ∈ owed held := by
      simp [owed, busy, busyTickets, purpose, purposeTickets]
    exact absurd member (notOwed held rfl)
  | @awaited held waiter quiet =>
    have member : ticket ∈ owed held := by simp [owed, waiter]
    exact absurd member (notOwed held rfl)
  | down down => exact .inl down
  | @failed _ error other answer =>
    rw [ledger] at answer
    have same := result?_of_answer reachable answer
    exact absurd (kind error (Option.some.inj (answered.symm.trans same))) other
  | refused answer =>
    rw [ledger] at answer
    exact .inr (result?_of_answer reachable answer)

private theorem stopAll_down_of_up (reachable : keeper.Reachable)
    (run : Keeper.Run Undemanding keeper.stopAll.1 after)
    (returned : after.stopAllResult? keeper.stopAll.2 = some (.ok ()))
    (registered : keeper.instance? id = some state) (up : Up state.machine.phase)
    (heeded : ¬ LeftOut keeper after id state) :
    ∀ account, after.accounts.get? id = some account → Down account := by
  have handed := reachable_of_run reachable (run_stopAll keeper)
  obtain ⟨ticket, first, called, queued, begun⟩ :=
    stopEach_promised (target_of_up reachable registered up) registered
  obtain ⟨last, present, promised⟩ := run_promised handed run queued begun
  obtain ⟨result, answered, kind⟩ := stopAllResult?_ok returned called
  intro account found
  cases present.symm.trans found
  rcases promised.outcome (reachable_of_run handed run) found answered kind with down | refused
  · exact down
  · exact absurd (.inr (.inl ⟨ticket, called, refused⟩)) heeded

private theorem stopAll_down (reachable : keeper.Reachable)
    (run : Keeper.Run Undemanding keeper.stopAll.1 after)
    (returned : after.stopAllResult? keeper.stopAll.2 = some (.ok ()))
    (registered : keeper.instance? id = some state) (heeded : ¬ LeftOut keeper after id state) :
    ∀ account, after.accounts.get? id = some account → Down account := by
  by_cases stopped : state.machine.phase = .stopped
  · have down : Down (.kept state) :=
      Classical.byContradiction fun not => heeded (.inr (.inr ⟨stopped, not⟩))
    have begun : ∀ account, keeper.accounts.get? id = some account → Down account := by
      intro account found
      cases (kept_of_instance? registered).symm.trans found
      exact down
    exact (run_down reachable begun (run_trans (run_stopAll keeper) run)).1
  · have up : Up state.machine.phase := ⟨stopped, fun stopping => heeded (.inl stopping)⟩
    exact stopAll_down_of_up reachable run returned registered up heeded

/-- A stop of all instances keeps its promise for every instance that was not left out. So
it does what its name says exactly if those that were left out happen to be down when it
returns. -/
theorem stop_all_stops_unless_left_out (reachable : keeper.Reachable)
    (run : Keeper.Run Undemanding keeper.stopAll.1 after)
    (returned : after.stopAllResult? keeper.stopAll.2 = some (.ok ())) :
    (∀ id state, keeper.instance? id = some state → ¬ LeftOut keeper after id state →
      StaysStopped id after) ∧
    ((∀ id state, keeper.instance? id = some state → StaysStopped id after) ↔
      ∀ id state, keeper.instance? id = some state → LeftOut keeper after id state →
        ∀ account, after.accounts.get? id = some account → Down account) := by
  have ended := reachable_of_run (reachable_of_run reachable (run_stopAll keeper)) run
  have kept : ∀ id state, keeper.instance? id = some state → ¬ LeftOut keeper after id state →
      StaysStopped id after := by
    intro id state registered heeded
    apply (staysStopped_iff ended id).mpr
    exact stopAll_down reachable run returned registered heeded
  refine ⟨kept, ?_⟩
  constructor
  · intro all id state registered _
    exact (staysStopped_iff ended id).mp (all id state registered)
  · intro down id state registered
    by_cases left : LeftOut keeper after id state
    · exact (staysStopped_iff ended id).mpr (down id state registered left)
    · exact kept id state registered left

theorem stop_all_stops_running_one : ∃ keeper after : Keeper, ∃ state, keeper.Reachable ∧
    Keeper.Run Undemanding keeper.stopAll.1 after ∧
    after.stopAllResult? keeper.stopAll.2 = some (.ok ()) ∧
    keeper.instance? 100001 = some state ∧ ¬ LeftOut keeper after 100001 state ∧
    StaysStopped 100001 after := by
  obtain ⟨keeper, reachable, there, up, answers⟩ :=
    rehearsal_reachable [rehearsedConfig 100001 []] [.start 100001, .move 100001 .serve]
      (fun keeper => ∃ there : (keeper.instance? 100001).isSome = true,
        ((keeper.instance? 100001).get there).machine.phase = .starting ∧
        (keeper.stopAll.1.steps? [.move 100001 .serve, .move 100001 .receive,
          .move 100001 .conclude]).any (fun after => decide
            (after.stopAllResult? keeper.stopAll.2 = some (.ok ()) ∧ ∀ call ∈ keeper.stopAll.2,
              after.result? call ≠ some (.error (stoppingAlready 100001)))) = true) (by decide)
  obtain ⟨after, steps, answered⟩ := (Option.any_eq_true _ _).mp answers
  obtain ⟨returned, heeded⟩ := of_decide_eq_true answered
  have registered := (Option.some_get there).symm
  have run : Keeper.Run Undemanding keeper.stopAll.1 after :=
    run_of_steps .refl _ (by simp [undemanding_move]) steps
  have notLeft : ¬ LeftOut keeper after 100001 ((keeper.instance? 100001).get there) := by
    rintro (stopping | ⟨ticket, member, refused⟩ | ⟨stopped, _⟩)
    · cases up.symm.trans stopping
    · exact heeded _ member refused
    · cases up.symm.trans stopped
  obtain ⟨kept, _⟩ := stop_all_stops_unless_left_out reachable run returned
  exact ⟨keeper, after, _, reachable, run, returned, registered, notLeft, kept _ _ registered notLeft⟩

/-- A bot that was asked to end keeps its output open, and its instance is about to stop
when all are to be stopped. Success is reported at once, though the instance has not
stopped, and if it was to be rebooted it comes back by itself. -/
theorem stop_all_leaves_stopping_one :
    (∃ keeper : Keeper, keeper.Reachable ∧
      keeper.stopAll.1.stopAllResult? keeper.stopAll.2 = some (.ok ()) ∧
      ((keeper.stopAll.1.instance? 100001).map (·.machine.phase)) = some .stopping ∧
      ¬ StaysStopped 100001 keeper.stopAll.1) ∧
    ∃ keeper later : Keeper, keeper.Reachable ∧
      keeper.stopAll.1.stopAllResult? keeper.stopAll.2 = some (.ok ()) ∧
      Keeper.Run Undemanding keeper.stopAll.1 later ∧
      (later.instance? 100001).map (·.machine.phase) = some .starting := by
  constructor
  · obtain ⟨keeper, reachable, returned, stopping⟩ :=
      rehearsal_reachable [rehearsedConfig 100001 ["--leak"]]
        [.start 100001, .move 100001 .serve, .stop 100001, .move 100001 .serve]
        (fun keeper => keeper.stopAll.1.stopAllResult? keeper.stopAll.2 = some (.ok ()) ∧
          ((keeper.stopAll.1.instance? 100001).map (·.machine.phase)) = some .stopping) (by decide)
    refine ⟨keeper, reachable, returned, stopping, fun stays => ?_⟩
    obtain ⟨state, registered, phase⟩ := Option.map_eq_some_iff.mp stopping
    cases ((stays _ .refl).1 state registered).symm.trans phase
  · obtain ⟨keeper, reachable, returned, comes⟩ :=
      rehearsal_reachable [rehearsedConfig 100001 ["--leak"]]
        [.start 100001, .move 100001 .serve, .reboot 100001, .move 100001 .serve]
        (fun keeper => keeper.stopAll.1.stopAllResult? keeper.stopAll.2 = some (.ok ()) ∧
          (keeper.stopAll.1.steps? [.advance 2000 0, .move 100001 (.giveUp 1),
            .move 100001 .resume, .move 100001 .receive, .move 100001 .conclude]).any
              (fun later => decide
                ((later.instance? 100001).map (·.machine.phase) = some .starting)) = true)
        (by decide)
    obtain ⟨later, steps, back⟩ := (Option.any_eq_true _ _).mp comes
    have quiet : Undemanding (.advance 2000 0) := fun _ impossible => by cases impossible
    exact ⟨keeper, later, reachable, returned,
      run_of_steps .refl _ (by simp [undemanding_move, quiet]) steps, of_decide_eq_true back⟩

end stopAll

end BotKeeper.Proofs
