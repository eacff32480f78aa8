import BotKeeper.Proofs.Runs

/-! Where the calls of an account are. A call is queued, being looked at, kept for the
end of a stop or answered, and it is at exactly one of these places at any time. So none
is forgotten, and none is answered twice. -/

namespace BotKeeper.Proofs

def purposeTickets : Purpose → List Ticket
  | .stop ticket | .reboot ticket => [ticket]
  | .scheduledRestart | .event _ => []

def pendingTickets : Option PendingStart → List Ticket
  | some (.requested ticket) => [ticket]
  | some .scheduled | none => []

def busyTickets : Option Business → List Ticket
  | some (.wait wait) => purposeTickets wait.purpose
  | some .halted | none => []

def owed (state : Instance) : List Ticket :=
  state.requests.map (·.ticket) ++ state.stopWaiters ++ pendingTickets state.pendingStart ++
    busyTickets state.busy

def answered (ledger : Ledger) : List Ticket :=
  ledger.answers.map (·.ticket)

/-- All calls were answered or are owed, once each, apart from those that are in hand. -/
def Tally (hand : List Ticket) (state : Instance) : Prop :=
  ∀ ticket, (answered state.toLedger).count ticket + hand.count ticket + (owed state).count ticket =
    if ticket < state.calls then 1 else 0

variable {state : Instance} {hand : List Ticket} (around : Surroundings)

theorem spawn_duties (state : Instance) : (state.spawn around).1.busy = state.busy ∧
    (state.spawn around).1.pendingStart = state.pendingStart := by
  unfold Instance.spawn
  dsimp only
  split
  · exact ⟨rfl, rfl⟩
  · exact ⟨rfl, rfl⟩

namespace Tally

theorem answer {ticket : Ticket} (tally : Tally (ticket :: hand) state)
    (result : Except Error Unit) : Tally hand (state.answer ticket result) := by
  intro other
  refine Eq.trans ?_ (tally other)
  simp only [answered, Instance.answer, Ledger.answered, List.map_append, List.count_append,
    List.map_cons, List.map_nil, List.count_cons, List.count_nil, owed]
  omega

theorem releaseStops (tally : Tally hand state) : Tally hand state.releaseStops := by
  intro other
  refine Eq.trans ?_ (tally other)
  simp only [answered, Instance.releaseStops, List.map_append, List.count_append, List.map_map,
    owed, List.count_nil]
  have same : state.stopWaiters.map ((·.ticket) ∘ fun ticket => (⟨ticket, .ok ()⟩ : Answer)) =
      state.stopWaiters := List.map_id' _
  rw [same]
  omega

theorem spawn (tally : Tally hand state) : Tally hand (state.spawn around).1 := by
  unfold Instance.spawn
  dsimp only
  split
  · exact tally
  · exact tally.releaseStops

theorem start (tally : Tally hand state) (operator : Bool) :
    Tally hand (state.start around operator).1 := by
  unfold Instance.start
  split
  · exact tally
  · split
    · exact tally
    · rename_i machine outcome _
      dsimp only
      generalize begun : Instance.publishTransition _ _ = between
      have spawned : Tally hand (between.spawn around).1 := by
        subst between
        exact spawn around tally
      generalize between.spawn around = result at spawned
      obtain ⟨after, _ | _⟩ := result
      · exact spawned
      · exact spawned

/-- What a purpose was for is done: its call is answered, or kept for the end of the stop. -/
theorem complete {purpose : Purpose} (tally : Tally (purposeTickets purpose ++ hand) state)
    (idle : state.busy = none)
    (free : (∀ stopped, purpose ≠ .event stopped) → state.pendingStart = none)
    (result : Except Error Unit) : Tally hand (state.complete purpose result) := by
  cases purpose with
  | stop ticket =>
    cases result with
    | error error => exact tally.answer (.error error)
    | ok nothing =>
      simp only [Instance.complete]
      split
      · exact tally.answer (.ok ())
      · intro other
        refine Eq.trans ?_ (tally other)
        simp only [owed, purposeTickets, List.count_append, List.count_cons, List.count_nil,
          List.cons_append, List.nil_append]
        omega
  | reboot ticket =>
    cases result with
    | error error => exact tally.answer (.error error)
    | ok nothing =>
      have empty := free fun _ impossible => by cases impossible
      intro other
      refine Eq.trans ?_ (tally other)
      simp only [Instance.complete, owed, purposeTickets, pendingTickets, empty, List.count_append,
        List.count_cons, List.count_nil, List.cons_append, List.nil_append]
      omega
  | scheduledRestart =>
    cases result with
    | error error => exact tally
    | ok nothing =>
      have empty := free fun _ impossible => by cases impossible
      intro other
      refine Eq.trans ?_ (tally other)
      simp only [Instance.complete, owed, purposeTickets, pendingTickets, empty, List.nil_append]
  | event stopped =>
    cases stopped with
    | false => exact tally
    | true =>
      intro other
      refine Eq.trans ?_ (tally other)
      simp only [Instance.complete, owed, purposeTickets, busyTickets, idle, List.nil_append]

theorem perform (effects : List Effect) (purpose : Purpose)
    (tally : Tally (purposeTickets purpose ++ hand) state) (idle : state.busy = none)
    (free : (∀ stopped, purpose ≠ .event stopped) → state.pendingStart = none) :
    Tally hand (state.perform around effects purpose) := by
  -- The call of the purpose is in hand until a wait takes it over or the effects are done.
  induction effects generalizing state with
  | nil => exact tally.complete idle free (.ok ())
  | cons effect rest ih =>
    cases effect with
    | notify notice => exact ih tally idle free
    | spawn =>
      have spawned := tally.spawn around
      have duties := spawn_duties around state
      rw [Instance.perform_spawn]
      generalize state.spawn around = result at spawned duties
      obtain ⟨after, _ | nothing⟩ := result
      · exact spawned.complete (duties.1.trans idle) (fun other => duties.2.trans (free other)) _
      · exact ih spawned (duties.1.trans idle) fun other => duties.2.trans (free other)
    | terminate graceful =>
      obtain ⟨bots, messages, ending, ends⟩ := (terminate_same around state graceful).result
      rw [Instance.perform_terminate, ends]
      have here : Tally (purposeTickets purpose ++ hand)
          { state with bots := bots, messages := messages } := tally
      cases ending with
      | complete => exact ih here idle free
      | failed error => exact here.complete idle free _
      | awaited pressure deadline =>
        intro other
        refine Eq.trans ?_ (here other)
        simp only [answered, owed, busyTickets, idle, List.count_append, List.count_nil]
        omega

theorem goOn {wait : Wait} (tally : Tally hand state) (busy : state.busy = some (.wait wait))
    (free : state.pendingStart = none) {result : Instance × Ending}
    (same : SameButBots state result.1) : Tally hand (Instance.goOn around wait result) := by
  obtain ⟨bots, messages, ending, rfl⟩ := same.result
  have freed : Tally (purposeTickets wait.purpose ++ hand)
      { state with bots := bots, messages := messages, busy := none } := by
    intro other
    refine Eq.trans ?_ (tally other)
    simp only [answered, owed, busyTickets, busy, List.count_append, List.count_nil]
    omega
  cases ending with
  | complete => exact freed.perform around wait.effects wait.purpose rfl fun _ => free
  | failed error => exact freed.complete rfl (fun _ => free) _
  | awaited pressure deadline =>
    intro other
    refine Eq.trans ?_ (tally other)
    simp only [Instance.goOn, answered, owed, busyTickets, busy]

theorem afterStop (tally : Tally hand state) :
    Tally hand (state.afterStop around) := by
  unfold Instance.afterStop
  dsimp only
  cases pending : state.pendingStart with
  | none =>
    have released : Tally hand { state with restartAt := none, pendingStart := none } := by
      intro other
      refine Eq.trans ?_ (tally other)
      simp only [owed, pending, answered]
    exact released.releaseStops
  | some start =>
    cases start with
    | requested ticket =>
      have released : Tally (ticket :: hand)
          { state with restartAt := none, pendingStart := none } := by
        intro other
        refine Eq.trans ?_ (tally other)
        simp only [owed, pending, answered, pendingTickets, List.count_append, List.count_cons,
          List.count_nil]
        omega
      exact (released.releaseStops.start around true).answer _
    | scheduled =>
      have released : Tally hand { state with restartAt := none, pendingStart := none } := by
        intro other
        refine Eq.trans ?_ (tally other)
        simp only [owed, pending, answered, pendingTickets]
      exact released.releaseStops.start around false

theorem stop {origin : Instance} (sound : Sound origin state) (idle : state.busy = none)
    {ticket : Ticket} (tally : Tally (ticket :: hand) state) :
    Tally hand (state.stop around ticket) := by
  unfold Instance.stop
  split
  · rename_i scheduled
    intro other
    refine Eq.trans ?_ (tally other)
    simp only [owed, scheduled, answered, pendingTickets, List.count_append, List.count_cons,
      List.count_nil]
    omega
  · rcases stop_cases state.machine with ⟨_, refused⟩ | ⟨machine, graceful, same, _, stopped⟩
    · rw [refused]
      exact tally.answer _
    · rw [stopped]
      have free := (sound.unawaited idle same.up.2).1
      exact perform around _ (.stop ticket) tally idle fun _ => free

theorem startFor {ticket : Ticket} (tally : Tally (ticket :: hand) state) :
    Tally hand (state.startFor around ticket) :=
  (tally.start around true).answer _

theorem reboot {origin : Instance} (sound : Sound origin state) (idle : state.busy = none)
    {ticket : Ticket} (tally : Tally (ticket :: hand) state) :
    Tally hand (state.reboot around ticket) := by
  unfold Instance.reboot
  split
  · exact tally.startFor around
  · split
    · exact tally.answer _
    · rcases stop_cases state.machine with ⟨_, refused⟩ | ⟨machine, graceful, same, _, stopped⟩
      · rw [refused]
        exact tally.answer _
      · rw [stopped]
        have free := (sound.unawaited idle same.up.2).1
        exact perform around _ (.reboot ticket) tally idle fun _ => free

theorem scheduledRestart {origin : Instance} (sound : Sound origin state)
    (idle : state.busy = none) (tally : Tally hand state) :
    Tally hand (state.scheduledRestart around) := by
  unfold Instance.scheduledRestart
  dsimp only
  split
  · exact tally
  · rcases stop_cases state.machine with ⟨_, refused⟩ | ⟨machine, graceful, same, _, stopped⟩
    · rw [refused]
      exact tally
    · rw [stopped]
      have free := (sound.unawaited idle same.up.2).1
      exact perform around _ .scheduledRestart tally idle fun _ => free

theorem update {ticket : Ticket} (tally : Tally (ticket :: hand) state) (config : InstanceConfig) :
    Tally hand (state.update ticket config) := by
  unfold Instance.update
  split
  · exact tally.answer _
  · have shown : Tally (ticket :: hand) { state with config }.publishSnapshot := tally
    exact shown.answer _

theorem apply (tally : Tally hand state) (idle : state.busy = none) (event : LifecycleEvent) :
    Tally hand (state.apply around event) := by
  unfold Instance.apply
  exact perform around _ (.event _) tally idle fun other => absurd rfl (other _)

theorem hear (tally : Tally hand state) (idle : state.busy = none) (line : String) :
    Tally hand (state.hear around line) := by
  unfold Instance.hear
  dsimp only
  have kept : Tally hand ((state.remember around line).publish (.output state.id line)) := tally
  split
  · exact kept.apply around idle _
  · exact kept

theorem receive (tally : Tally hand state) (idle : state.busy = none) (message : Message) :
    Tally hand (state.receive around message) := by
  unfold Instance.receive
  split
  · split
    · exact tally.hear around idle _
    · have released : Tally hand { state with handle := none } := tally
      exact released.apply around idle _
  · exact tally

end Tally

def Tallied : Account → Prop
  | .vacant ledger =>
    ∀ ticket, (answered ledger).count ticket = if ticket < ledger.calls then 1 else 0
  | .kept state => Tally [] state

theorem serve_tallied {origin : Instance} (sound : Sound origin state) (idle : state.busy = none)
    {request : Request} (tally : Tally [request.ticket] state) :
    Tallied (state.serve around request) := by
  obtain ⟨ticket, command⟩ := request
  cases command with
  | start => exact tally.startFor around
  | stop => exact tally.stop around sound idle
  | reboot => exact tally.reboot around sound idle
  | update config => exact tally.update config
  | delete =>
    simp only [Instance.serve, Instance.delete, Machine.checkIdle]
    cases stopped : state.machine.phase.isStopped with
    | false => exact tally.answer _
    | true =>
      have phase : state.machine.phase = .stopped := by simpa [Phase.isStopped] using stopped
      obtain ⟨pending, waiters⟩ := sound.unawaited idle (by simp [phase])
      intro other
      refine Eq.trans ?_ (tally other)
      have told : (state.requests.map fun request =>
          (⟨request.ticket, .error (.instanceNotFound state.id)⟩ : Answer)).map (·.ticket) =
          state.requests.map (·.ticket) := by
        rw [List.map_map]
        rfl
      have left : owed state = state.requests.map (·.ticket) := by
        simp [owed, pending, waiters, idle, pendingTickets, busyTickets]
      rw [left, ← told]
      simp only [answered, Instance.remains, Instance.answer, Ledger.answered, List.map_append,
        List.count_append]
      rfl

/-- The call that was queued first is in hand when it is no longer queued. -/
theorem Tally.served (tally : Tally [] state) {request : Request} {rest : List Request}
    (requests : state.requests = request :: rest) :
    Tally [request.ticket] { state with requests := rest } := by
  intro other
  refine Eq.trans ?_ (tally other)
  simp only [answered, owed, requests, List.map_cons, List.count_append, List.count_cons,
    List.count_nil, List.cons_append]
  omega

theorem move_tallied {origin : Instance} (sound : Sound origin state) (tally : Tally [] state)
    {move : Move} {account : Account} (moves : Moves around state move account) :
    Tallied account := by
  cases moves with
  | @receive message rest idle messages =>
    have dropped : Tally [] { state with messages := rest } := tally
    exact dropped.receive around idle message
  | @serve request rest idle requests =>
    exact serve_tallied around (sound.requeue rest state.calls) idle (tally.served requests)
  | restart idle armed due => exact tally.scheduledRestart around sound idle
  | conclude halted =>
    have freed : Tally [] { state with busy := none } := by
      intro other
      refine Eq.trans ?_ (tally other)
      simp only [answered, owed, halted, busyTickets]
    exact freed.afterStop around
  | resume busy ended =>
    exact tally.goOn around busy (sound.waits _ busy).2.1 ⟨_, _, rfl⟩
  | timeout busy held due =>
    have free := (sound.waits _ busy).2.1
    unfold Tallied Instance.runOut
    dsimp only
    split
    · exact tally.goOn around busy free (kill_same around state)
    · exact tally.goOn around busy free ⟨_, _, rfl⟩
  | giveUp found lingers due => exact tally

/-- A new call is in hand as soon as it has been given its number. -/
theorem Tally.called (tally : Tally [] state) :
    Tally [state.calls] { state with calls := state.calls + 1 } := by
  intro other
  have before := tally other
  simp only [answered, owed, List.count_cons, List.count_nil] at before ⊢
  by_cases newest : other = state.calls
  · subst other
    simp only [BEq.rfl, if_true, Nat.lt_irrefl, if_false, Nat.lt_succ_self] at before ⊢
    omega
  · have different : (state.calls == other) = false := by simp [Ne.symm newest]
    have same : other < state.calls + 1 ↔ other < state.calls :=
      ⟨fun less => Nat.lt_of_le_of_ne (Nat.le_of_lt_succ less) newest, Nat.lt_succ_of_lt⟩
    simp only [different, same, Bool.false_eq_true, if_false]
    omega

theorem Tally.take (tally : Tally [] state) (command : Command) :
    Tally [] (state.take command) := by
  intro other
  refine Eq.trans ?_ (tally.called other)
  simp only [answered, owed, Instance.take, List.map_append, List.map_cons, List.map_nil,
    List.count_append, List.count_nil]
  omega

private theorem asked_tallied {account : Account} (tally : Tallied account) (commands : List Command) :
    Tallied (asked commands account) := by
  cases account with
  | vacant ledger => exact tally
  | kept state =>
    induction commands generalizing state with
    | nil => exact tally
    | cons command rest ih => exact ih (state.take command) (Tally.take tally command)

theorem Happens.tallied {id : AccountId} {event : Keeper.Event} {before after : Option Account}
    (order : ∀ account, before = some account → InOrder id account)
    (tally : ∀ account, before = some account → Tallied account)
    (happens : Happens around id event before after) :
    ∀ account, after = some account → Tallied account := by
  intro account found
  cases happens with
  | nothing => exact tally account found
  | registered policy config free same =>
    cases found
    have past : ∀ ticket, (answered (ledgerOf before)).count ticket =
        if ticket < (ledgerOf before).calls then 1 else 0 := by
      cases before with
      | none => exact fun ticket => by simp [ledgerOf, answered]
      | some account =>
        cases account with
        | vacant ledger => exact tally _ rfl
        | kept state => cases free
    exact fun ticket => past ticket
  | called account commands brought =>
    obtain ⟨earlier, present, rfl⟩ := Option.map_eq_some_iff.mp found
    subst present
    exact asked_tallied (tally earlier rfl) commands
  | moved same moves =>
    cases found
    exact move_tallied around (order _ rfl).1 (tally _ rfl) moves
  | @observed earlier bot change member changes =>
    cases found
    have before := tally earlier rfl
    cases earlier with
    | vacant ledger => exact before
    | kept state => exact before

theorem reachable_tallied {keeper : Keeper} (reachable : keeper.Reachable) {id : AccountId}
    {account : Account} (found : keeper.accounts.get? id = some account) : Tallied account := by
  obtain ⟨start, opened, run⟩ := reachable
  induction run generalizing account with
  | refl => simp [OrderedMap.get?_empty] at found
  | @step between after event run _ happens ih =>
    have earlier : between.Reachable := ⟨start, opened, run⟩
    exact (step_happens happens id).tallied _ (reachable_inOrder earlier) (fun _ => ih) account found

theorem Tallied.once {account : Account} (tallied : Tallied account) (ticket : Ticket) :
    (answered account.ledger).count ticket ≤ 1 := by
  cases account with
  | vacant ledger =>
    have tally := tallied ticket
    simp only [Account.ledger]
    split at tally <;> omega
  | kept state =>
    have tally := tallied ticket
    simp only [Account.ledger]
    split at tally <;> omega

private theorem find_answer {answers : List Answer} {answer : Answer} (member : answer ∈ answers)
    (once : (answers.map (·.ticket)).count answer.ticket ≤ 1) :
    answers.find? (·.ticket == answer.ticket) = some answer := by
  induction answers with
  | nil => cases member
  | cons first rest ih =>
    rw [List.map_cons, List.count_cons] at once
    rcases List.mem_cons.mp member with same | inside
    · subst first
      simp
    · have present : 0 < (rest.map (·.ticket)).count answer.ticket :=
        List.count_pos_iff.mpr (List.mem_map.mpr ⟨answer, inside, rfl⟩)
      have other : (first.ticket == answer.ticket) = false := by
        cases same : first.ticket == answer.ticket with
        | false => rfl
        | true =>
          simp only [same, if_true] at once
          omega
      rw [List.find?_cons, other]
      exact ih inside (by omega)

/-- The answer to a call is the only one, and so it is the result of the call. -/
theorem result?_of_tallied {keeper : Keeper} {id : AccountId}
    (tallied : ∀ account, keeper.accounts.get? id = some account → Tallied account)
    {answer : Answer} (member : answer ∈ (keeper.ledger id).answers) :
    keeper.result? ⟨id, answer.ticket⟩ = some answer.result := by
  have once : (answered (keeper.ledger id)).count answer.ticket ≤ 1 := by
    unfold Keeper.ledger
    cases found : keeper.accounts.get? id with
    | none => simp [answered]
    | some account => exact (tallied account found).once answer.ticket
  unfold Keeper.result?
  rw [find_answer member once, Option.map_some]

theorem result?_of_answer {keeper : Keeper} (reachable : keeper.Reachable) {id : AccountId}
    {answer : Answer} (member : answer ∈ (keeper.ledger id).answers) :
    keeper.result? ⟨id, answer.ticket⟩ = some answer.result :=
  result?_of_tallied (fun _ found => reachable_tallied reachable found) member

theorem result?_iff {keeper : Keeper} (reachable : keeper.Reachable) {id : AccountId}
    {ticket : Ticket} {result : Except Error Unit} :
    keeper.result? ⟨id, ticket⟩ = some result ↔ ⟨ticket, result⟩ ∈ (keeper.ledger id).answers := by
  constructor
  · intro told
    obtain ⟨answer, found, rfl⟩ := Option.map_eq_some_iff.mp told
    obtain rfl : answer.ticket = ticket := by simpa using List.find?_some found
    exact List.mem_of_find?_eq_some found
  · intro member
    exact result?_of_answer reachable member

/-- A call that is owed has been made, and has no answer. -/
theorem Tally.unanswered {ticket : Ticket} (tally : Tally [] state) (member : ticket ∈ owed state) :
    ticket < state.calls ∧ ∀ answer ∈ state.answers, answer.ticket ≠ ticket := by
  have counted := tally ticket
  have present : 0 < (owed state).count ticket := List.count_pos_iff.mpr member
  have absent : (answered state.toLedger).count ticket = 0 ∧ ticket < state.calls := by
    split at counted
    · exact ⟨by omega, ‹_›⟩
    · omega
  refine ⟨absent.2, fun answer inside same => ?_⟩
  have there : ticket ∈ answered state.toLedger := List.mem_map.mpr ⟨answer, inside, same⟩
  exact absurd (List.count_pos_iff.mpr there) (by omega)

theorem result?_of_tally {keeper : Keeper} {id : AccountId} {state : Instance}
    (registered : keeper.instance? id = some state) (tally : Tally [] state) {ticket : Ticket}
    (member : ticket ∈ owed state) : keeper.result? ⟨id, ticket⟩ = none := by
  have unanswered : state.answers.find? (·.ticket == ticket) = none := by
    simpa using (tally.unanswered member).2
  simp only [Keeper.result?, Keeper.ledger, kept_of_instance? registered, Option.map_some,
    Option.getD_some, Account.ledger, unanswered, Option.map_none]

theorem result?_of_owed {keeper : Keeper} (reachable : keeper.Reachable) {id : AccountId}
    {state : Instance} (registered : keeper.instance? id = some state) {ticket : Ticket}
    (member : ticket ∈ owed state) : keeper.result? ⟨id, ticket⟩ = none :=
  result?_of_tally registered (reachable_tallied reachable (kept_of_instance? registered)) member

end BotKeeper.Proofs
