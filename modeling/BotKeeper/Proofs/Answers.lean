import BotKeeper.Proofs.Origins
import BotKeeper.Proofs.Rejections

/-! What becomes of the calls of an account. A call that was accepted is queued under a number
of its own. Whatever happens then, it stays with the instance until it is answered, and it is
answered by whoever looked at it, unless the instance is deleted before anybody has. -/

namespace BotKeeper.Proofs

/-- The calls on an account that its instance has not answered yet. -/
def held (keeper : Keeper) (id : AccountId) : List Ticket :=
  ((keeper.instance? id).map owed).getD []

def queued (keeper : Keeper) (id : AccountId) : List Ticket :=
  ((keeper.instance? id).map (·.requests.map (·.ticket))).getD []

/-- The result of a call that was looked at. One that is dropped finds no instance. -/
def Attended (result : Except Error Unit) : Prop :=
  ∀ error, result = .error error → error.kind ≠ .instanceNotFound

def AllAttended (before after : Ledger) : Prop :=
  ∀ answer ∈ after.answers, answer ∈ before.answers ∨ Attended answer.result

variable {state : Instance} (around : Surroundings)

/-- What an instance says itself is not that there is none. -/
theorem Verdict.attended {id : AccountId} {failed : Prop} {result : Except Error Unit}
    (verdict : Verdict id failed result) : Attended result := by
  intro error same
  subst same
  cases verdict <;> simp [Error.kind]

/-- What a move answers. Where it deletes the instance, all that are queued are dropped. -/
def Attends (state : Instance) : Account → Prop
  | .kept after => AllAttended state.toLedger after.toLedger
  | .vacant ledger => ∀ answer ∈ ledger.answers, answer ∈ state.answers ∨ Attended answer.result ∨
      answer.ticket ∈ state.requests.map (·.ticket)

private theorem move_attends (sound : Sound state state) {move : Move} {account : Account}
    (moves : Moves around state move account) : Attends state account := by
  have judges := move_judges sound rfl moves
  cases account with
  | kept after =>
    intro answer member
    rcases judges answer member with early | verdict | ⟨impossible, _⟩
    · exact .inl early
    · exact .inr verdict.attended
    · cases impossible
  | vacant ledger =>
    intro answer member
    rcases judges answer member with early | verdict | ⟨_, queued, _⟩
    · exact .inl early
    · exact .inr (.inl verdict.attended)
    · exact .inr (.inr queued)

/-- The calls that are queued are the latest ones, in the order in which they came. -/
def InTurn (state : Instance) : Prop :=
  ∃ earlier, state.requests.map (·.ticket) = List.range' earlier state.requests.length ∧
    earlier + state.requests.length = state.calls

theorem InTurn.take {state : Instance} (inTurn : InTurn state) (command : Command) :
    InTurn (state.take command) := by
  obtain ⟨earlier, tickets, count⟩ := inTurn
  refine ⟨earlier, ?_, ?_⟩
  · simp only [Instance.take, List.map_append, tickets, List.length_append, List.map_cons,
      List.map_nil, List.length_cons, List.length_nil, List.range'_concat, Nat.one_mul, count]
  · simp only [Instance.take, List.length_append, List.length_cons, List.length_nil]
    omega

theorem InTurn.served {state : Instance} (inTurn : InTurn state) {request : Request}
    {rest : List Request} (requests : state.requests = request :: rest) :
    InTurn { state with requests := rest } := by
  obtain ⟨earlier, tickets, count⟩ := inTurn
  rw [requests, List.map_cons, List.length_cons, List.range'_succ] at tickets
  rw [requests, List.length_cons] at count
  exact ⟨earlier + 1, (List.cons.inj tickets).2, by dsimp only; omega⟩

theorem InTurn.taken {around : Surroundings} {state : Instance} (inTurn : InTurn state)
    {move : Move} {account : Account} (moves : Moves around state move account) :
    InTurn (taken move state) := by
  cases moves with
  | serve idle requests =>
    simp only [Proofs.taken, requests, List.tail_cons]
    exact inTurn.served requests
  | _ => exact inTurn

theorem InTurn.beside {state after : Instance} (inTurn : InTurn state)
    (requests : after.requests = state.requests) (calls : after.calls = state.calls) :
    InTurn after := by
  unfold InTurn
  rw [requests, calls]
  exact inTurn

theorem InTurn.asked {state after : Instance} (inTurn : InTurn state) (commands : List Command)
    (same : asked commands (.kept state) = .kept after) : InTurn after := by
  induction commands generalizing state with
  | nil =>
    cases same
    exact inTurn
  | cons command rest ih => exact ih (inTurn.take command) same

theorem Happens.inTurn {id : AccountId} {event : Keeper.Event} {before after : Option Account}
    (order : ∀ account, before = some account → InOrder id account)
    (inTurn : ∀ state, before = some (.kept state) → InTurn state)
    (happens : Happens around id event before after) :
    ∀ state, after = some (.kept state) → InTurn state := by
  intro state found
  cases happens with
  | nothing => exact inTurn state found
  | registered policy config free same =>
    cases found
    exact ⟨(ledgerOf before).calls, rfl, rfl⟩
  | called account commands brought =>
    obtain ⟨earlier, present, given⟩ := Option.map_eq_some_iff.mp found
    cases earlier with
    | vacant ledger => cases given
    | kept earlier => exact (inTurn earlier present).asked commands given
  | @moved earlier move _ same moves =>
    cases found
    have sound : Sound (taken move earlier) state := (order _ rfl).1.move around moves
    exact ((inTurn earlier rfl).taken moves).beside sound.requests sound.calls
  | @observed account bot change member changes =>
    cases account with
    | vacant ledger => cases found
    | kept earlier =>
      cases found
      exact (inTurn earlier rfl).beside rfl rfl

variable {keeper : Keeper}

private theorem reachable_inTurn (reachable : keeper.Reachable) {id : AccountId} {state : Instance}
    (kept : keeper.accounts.get? id = some (.kept state)) : InTurn state := by
  obtain ⟨start, opened, run⟩ := reachable
  induction run generalizing state with
  | refl => simp [OrderedMap.get?_empty] at kept
  | @step between after event run _ happens ih =>
    have earlier : between.Reachable := ⟨start, opened, run⟩
    exact (step_happens happens id).inTurn _ (reachable_inOrder earlier) (fun _ => ih) state kept

/-- Every call on an account was answered or is held, and no call is at two of these places. -/
theorem calls_placed (reachable : keeper.Reachable) (id : AccountId) :
    (answered (keeper.ledger id) ++ held keeper id).Perm (List.range (keeper.ledger id).calls) := by
  apply List.perm_iff_count.mpr
  intro ticket
  rw [List.count_append, List.nodup_range.count]
  simp only [List.mem_range]
  unfold Keeper.ledger held Keeper.instance?
  cases found : keeper.accounts.get? id with
  | none => simp [answered]
  | some account =>
    have tallied := reachable_tallied reachable found
    cases account with
    | vacant ledger => exact (tallied ticket).trans rfl
    | kept state => exact (tallied ticket).trans rfl

private theorem asked_calls (commands : List Command) (account : Account) :
    (asked commands account).ledger.answers = account.ledger.answers ∧
      account.ledger.calls ≤ (asked commands account).ledger.calls := by
  cases account with
  | vacant ledger => exact ⟨rfl, Nat.le_refl _⟩
  | kept state =>
    induction commands generalizing state with
    | nil => exact ⟨rfl, Nat.le_refl _⟩
    | cons command rest ih =>
      obtain ⟨answers, calls⟩ := ih (state.take command)
      exact ⟨answers, Nat.le_trans (Nat.le_succ _) calls⟩

/-- Only the moves of an instance answer calls, and none of them makes one. -/
theorem Happens.answers_or_moves {id : AccountId} {event : Keeper.Event}
    {before after : Option Account} (happens : Happens around id event before after) :
    (ledgerOf after).answers = (ledgerOf before).answers ∧
        (ledgerOf before).calls ≤ (ledgerOf after).calls ∨
      ∃ state move account, event = .move id move ∧ before = some (.kept state) ∧
        after = some account ∧ Moves around state move account := by
  cases happens with
  | nothing => exact .inl ⟨rfl, Nat.le_refl _⟩
  | registered => exact .inl ⟨rfl, Nat.le_refl _⟩
  | called _ commands brought =>
    cases before with
    | none => exact .inl ⟨rfl, Nat.le_refl _⟩
    | some account => exact .inl (asked_calls commands account)
  | moved same moves => exact .inr ⟨_, _, _, same, rfl, rfl, moves⟩
  | @observed account bot change member changes =>
    cases account with
    | vacant ledger => exact .inl ⟨rfl, Nat.le_refl _⟩
    | kept state => exact .inl ⟨rfl, Nat.le_refl _⟩

private theorem move_calls {origin : Instance} (sound : Sound origin state) {move : Move}
    {account : Account} (moves : Moves around state move account) :
    account.ledger.calls = state.calls := by
  have left := sound.move around moves
  have same : (taken move state).calls = state.calls := by
    cases move <;> rfl
  cases account with
  | vacant ledger => exact left.calls.trans same
  | kept after =>
    have kept : Sound (taken move state) after := left
    exact kept.calls.trans same

/-- What becomes of the calls of an account when something happens to its keeper. -/
structure Forward (before after : Keeper) (id : AccountId) : Prop where
  answers : (before.ledger id).answers <+: (after.ledger id).answers
  /-- A call that is held stays so until it is answered. -/
  kept : ∀ ticket ∈ held before id, ticket ∈ held after id ∨ ticket ∈ answered (after.ledger id)
  owed : ∀ answer ∈ (after.ledger id).answers,
    answer ∈ (before.ledger id).answers ∨ answer.ticket ∈ held before id
  /-- A call is dropped only by the end of the instance, and only if nobody has looked at it. -/
  attended : ∀ answer ∈ (after.ledger id).answers, answer ∈ (before.ledger id).answers ∨
    Attended answer.result ∨ after.instance? id = none ∧ answer.ticket ∈ queued before id

/-- No call has two answers. -/
theorem answer_unique (reachable : keeper.Reachable) {id : AccountId} {first second : Answer}
    (one : first ∈ (keeper.ledger id).answers) (other : second ∈ (keeper.ledger id).answers)
    (same : first.ticket = second.ticket) : first = second := by
  have told := result?_of_answer reachable one
  have again := result?_of_answer reachable other
  rw [same] at told
  have result := Option.some.inj (told.symm.trans again)
  obtain ⟨ticket, given⟩ := first
  cases same
  cases result
  rfl

theorem Attends.forward {account : Account} (attends : Attends state account) {id : AccountId}
    {after : Keeper} (present : keeper.accounts.get? id = some (.kept state))
    (found : after.accounts.get? id = some account) :
    ∀ answer ∈ (after.ledger id).answers, answer ∈ (keeper.ledger id).answers ∨
      Attended answer.result ∨ after.instance? id = none ∧ answer.ticket ∈ queued keeper id := by
  intro answer member
  have shown : (keeper.ledger id).answers = state.answers := by
    simp [Keeper.ledger, present, Account.ledger]
  have waiting : queued keeper id = state.requests.map (·.ticket) := by
    simp [queued, Keeper.instance?, present, Account.instance?]
  rw [shown, waiting]
  have told : answer ∈ account.ledger.answers := by
    simpa [Keeper.ledger, found] using member
  cases account with
  | kept next =>
    rcases attends answer told with early | attended
    · exact .inl early
    · exact .inr (.inl attended)
  | vacant ledger =>
    have deleted : after.instance? id = none := by
      simp [Keeper.instance?, found, Account.instance?]
    rcases attends answer told with early | attended | dropped
    · exact .inl early
    · exact .inr (.inl attended)
    · exact .inr (.inr ⟨deleted, dropped⟩)

private theorem step_forward (reachable : keeper.Reachable) {event : Keeper.Event} {after : Keeper}
    (steps : keeper.step? event = some after) (id : AccountId) : Forward keeper after id := by
  have happens := step_happens steps id
  have later := reachable_of_step reachable steps
  have before := calls_placed reachable id
  have next := calls_placed later id
  have grow := (happens.continues (reachable_inOrder reachable)).answers
  rcases happens.answers_or_moves with
    ⟨same, more⟩ | ⟨state, move, account, _, present, found, moves⟩
  · have answers : (after.ledger id).answers = (keeper.ledger id).answers := same
    refine ⟨grow, ?_, fun answer member => .inl (answers ▸ member),
      fun answer member => .inl (answers ▸ member)⟩
    intro ticket waiting
    have made := List.mem_range.mp (before.mem_iff.mp (List.mem_append_right _ waiting))
    have still : ticket < (after.ledger id).calls := Nat.lt_of_lt_of_le made more
    exact (List.mem_append.mp (next.mem_iff.mpr (List.mem_range.mpr still))).symm
  · have calls : (after.ledger id).calls = (keeper.ledger id).calls := by
      have same := move_calls keeper.around (reachable_inOrder reachable _ present).1 moves
      simpa [Keeper.ledger, present, found, Account.ledger] using same
    rw [calls] at next
    have sound := (reachable_inOrder reachable _ present).1
    refine ⟨grow, ?_, ?_, (move_attends keeper.around sound moves).forward present found⟩
    · intro ticket waiting
      have made := before.mem_iff.mp (List.mem_append_right _ waiting)
      exact (List.mem_append.mp (next.mem_iff.mpr made)).symm
    · intro answer member
      have told : answer.ticket ∈ answered (after.ledger id) := List.mem_map.mpr ⟨answer, member, rfl⟩
      have made := next.mem_iff.mp (List.mem_append_left _ told)
      rcases List.mem_append.mp (before.mem_iff.mpr made) with early | waiting
      · obtain ⟨first, listed, ticket⟩ := List.mem_map.mp early
        exact .inl (answer_unique later (grow.subset listed) member ticket ▸ listed)
      · exact .inr waiting

private theorem asking_queues {event : Keeper.Event} {after : Keeper} {call : Call}
    (asks : asking keeper event = some (after, .ok call)) :
    call.ticket = (keeper.ledger call.id).calls ∧
      queued after call.id = queued keeper call.id ++ [call.ticket] := by
  obtain ⟨_, ⟨_, impossible, _⟩ | ⟨id, command, state, registered, same, taken⟩⟩ := asking_cases asks
  · cases impossible
  · cases same
    subst after
    refine ⟨by rw [ledger_of_instance? registered], ?_⟩
    simp [queued, registered, instance?_put, Account.instance?, Instance.take]

/-- Where a stopped instance waits for nothing, all its calls are answered but the latest ones,
which it has not looked at yet. -/
theorem answered_at_rest (reachable : keeper.Reachable) {id : AccountId} {state : Instance}
    (registered : keeper.instance? id = some state) (stopped : state.machine.phase = .stopped)
    (rest : state.busy = none) :
    ∃ earlier, queued keeper id = List.range' earlier state.requests.length ∧
      earlier + state.requests.length = state.calls ∧
      ∀ ticket < earlier, ∃ result, keeper.result? ⟨id, ticket⟩ = some result := by
  obtain ⟨earlier, tickets, count⟩ := reachable_inTurn reachable (kept_of_instance? registered)
  obtain ⟨pending, waiters⟩ :=
    (reachable_sound reachable registered).unawaited rest (by simp [stopped])
  refine ⟨earlier, by simpa [queued, registered] using tickets, count, ?_⟩
  intro ticket before
  have made : ticket ∈ List.range (keeper.ledger id).calls := by
    rw [ledger_of_instance? registered, List.mem_range]
    omega
  rcases List.mem_append.mp ((calls_placed reachable id).mem_iff.mpr made) with told | waiting
  · obtain ⟨answer, member, rfl⟩ := List.mem_map.mp told
    exact ⟨_, result?_of_answer reachable member⟩
  · have left : held keeper id = List.range' earlier state.requests.length := by
      simp [held, registered, owed, tickets, waiters, pending, rest, pendingTickets, busyTickets]
    rw [left, List.mem_range'_1] at waiting
    omega

/-- A call that is accepted is queued, and each is answered once or is held until then: in the
queue, by the operation that is waited for, among the stops that wait for the end, or as a pending
reboot. Nothing that happens takes it away but an answer, which no other call gets, and a call is
dropped only if its instance is deleted before it was looked at. Where a stopped instance waits
for nothing, no call is unanswered that came before those in the queue. -/
theorem calls_answered_once (reachable : keeper.Reachable) (id : AccountId) :
    (answered (keeper.ledger id) ++ held keeper id).Perm (List.range (keeper.ledger id).calls) ∧
    (∀ event after call, asking keeper event = some (after, .ok call) →
      call.ticket = (keeper.ledger call.id).calls ∧
      queued after call.id = queued keeper call.id ++ [call.ticket]) ∧
    (∀ event after, keeper.step? event = some after → Forward keeper after id) ∧
    ∀ state, keeper.instance? id = some state → state.machine.phase = .stopped →
      state.busy = none →
      ∃ earlier, queued keeper id = List.range' earlier state.requests.length ∧
        earlier + state.requests.length = state.calls ∧
        ∀ ticket < earlier, ∃ result, keeper.result? ⟨id, ticket⟩ = some result :=
  ⟨calls_placed reachable id, fun _ _ _ asks => asking_queues asks,
    fun _ _ steps => step_forward reachable steps id,
    fun _ registered stopped rest => answered_at_rest reachable registered stopped rest⟩

theorem calls_answered_after_stop : ∃ keeper : Keeper, ∃ state, keeper.Reachable ∧
    keeper.instance? 100001 = some state ∧ state.machine.phase = .stopped ∧ state.busy = none ∧
    state.requests.length = 1 ∧ state.calls = 3 ∧
    ∀ ticket < 2, ∃ result, keeper.result? ⟨100001, ticket⟩ = some result := by
  obtain ⟨keeper, reachable, checked⟩ :=
    rehearsal_reachable [rehearsedConfig 100001 []]
      [.start 100001, .stop 100001, .move 100001 .serve, .move 100001 .serve,
        .move 100001 .receive, .move 100001 .conclude, .delete 100001]
      (fun keeper => (keeper.instance? 100001).any (fun state =>
        decide (state.machine.phase = .stopped ∧ state.busy = none ∧ state.requests.length = 1 ∧
          state.calls = 3)) = true) (by decide)
  obtain ⟨state, registered, checked⟩ := (Option.any_eq_true _ _).mp checked
  obtain ⟨stopped, rest, alone, calls⟩ := of_decide_eq_true checked
  obtain ⟨_, _, _, atRest⟩ := calls_answered_once reachable 100001
  obtain ⟨earlier, _, count, told⟩ := atRest state registered stopped rest
  have two : earlier = 2 := by omega
  exact ⟨keeper, state, reachable, registered, stopped, rest, alone, calls, two ▸ told⟩

end BotKeeper.Proofs
