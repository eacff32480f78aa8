import BotKeeper.Proofs.Answers
import BotKeeper.Proofs.FailedLaunch
import BotKeeper.Proofs.Unmoved

/-! Starts that are asked of one instance, and nothing else. They are queued in the order in which
they come and are answered in that order, one by one: the one that is looked at is answered at
once, and nothing else that happens meanwhile answers any of them. -/

namespace BotKeeper.Proofs

/-- What may happen while only starts are asked of an instance: no permit is given or taken back,
and what a launch finds is not replaced. -/
def Meanwhile (id : AccountId) : Keeper.Event → Prop
  | .stop other | .reboot other | .update other _ _ | .delete other => other ≠ id
  | .stopAll | .beginUpdate | .endUpdate | .surround _ _ => False
  | _ => True

/-- The answers to the calls that were numbered since then. -/
def toldSince (ticket : Nat) (state : Instance) : List Answer :=
  state.answers.filter (ticket ≤ ·.ticket)

/-- All calls since then are starts. They are queued or were answered, in the order of their
numbers. -/
structure OnlyStarts (since : Nat) (state : Instance) : Prop where
  starts : ∀ request ∈ state.requests, request.command = .start
  placed : (toldSince since state).map (·.ticket) ++ state.requests.map (·.ticket) =
    List.range' since (state.calls - since)
  later : since ≤ state.calls

structure SameLaunches (before after : Surroundings) : Prop where
  gate : after.gate = before.gate
  host : after.host = before.host
  files : after.files = before.files

/-- An instance to which nothing has happened but that its processes have aged. What it has to do
after a stop may have been done. -/
structure Untouched (before after : Instance) : Prop where
  machine : after.machine = before.machine
  config : after.config = before.config
  snapshot : after.snapshot = before.snapshot
  history : after.history = before.history
  feed : after.feed = before.feed
  generation : after.generation = before.generation
  handle : after.handle = before.handle
  bots : after.bots.length = before.bots.length

inductive Meets (around : Surroundings) (before after : Instance) : Except Error Unit → Prop where
  | closed (closed : around.gate = true) (untouched : Untouched before after)
      (pending : after.pendingStart = before.pendingStart) :
      Meets around before after (.error .updateInProgress)
  | running (opened : around.gate = false) (running : before.machine.phase ≠ .stopped) :
      Meets around before after (.error (.alreadyRunning before.machine.id before.machine.phase))
  | failed {reason : SystemError} (opened : around.gate = false)
      (stopped : before.machine.phase = .stopped)
      (fails : around.host.launch around.files before.config = .error reason)
      (again : after.machine.phase = .stopped) (config : after.config = before.config)
      (pending : after.pendingStart = before.pendingStart)
      (bots : after.bots.length = before.bots.length) :
      Meets around before after
        (.error (.spawn before.machine.id (.ofSystem reason) reason.text))
  | launched (opened : around.gate = false) (stopped : before.machine.phase = .stopped)
      (launches : around.host.launch around.files before.config = .ok ())
      (bots : after.bots.length = before.bots.length + 1) : Meets around before after (.ok ())

/-- What answering a start leaves of an instance: the call is answered and no longer queued, and at
most one process was launched. -/
structure Serves (ticket : Ticket) (result : Except Error Unit) (before after : Instance) :
    Prop where
  answers : after.answers = before.answers ++ [⟨ticket, result⟩]
  requests : after.requests = before.requests.tail
  calls : after.calls = before.calls
  busy : after.busy = before.busy
  bots : ∃ launched, after.bots = launched ++ before.bots ∧ ∀ bot ∈ launched, bot.isAlive = true

variable {keeper before after : Keeper} {id : AccountId} {event : Keeper.Event}
  {state next : Instance} {since : Nat} {ticket : Ticket} {around : Surroundings}

section untouched

theorem Untouched.refl (state : Instance) : Untouched state state :=
  ⟨rfl, rfl, rfl, rfl, rfl, rfl, rfl, rfl⟩

theorem Untouched.trans {first second third : Instance} (one : Untouched first second)
    (other : Untouched second third) : Untouched first third where
  machine := other.machine.trans one.machine
  config := other.config.trans one.config
  snapshot := other.snapshot.trans one.snapshot
  history := other.history.trans one.history
  feed := other.feed.trans one.feed
  generation := other.generation.trans one.generation
  handle := other.handle.trans one.handle
  bots := other.bots.trans one.bots

theorem Unmoved.untouched (unmoved : Unmoved event state next) :
    Untouched state next ∧ next.pendingStart = state.pendingStart := by
  have bots := unmoved.bots
  obtain ⟨_, _, _, _, rfl⟩ := unmoved.same
  exact ⟨⟨rfl, rfl, rfl, rfl, rfl, rfl, rfl, bots⟩, rfl⟩

/-- A stopped instance for which no start is pending does nothing but to look at its calls. -/
theorem move_untouched (reachable : before.Reachable) (registered : before.instance? id = some state)
    (stopped : state.machine.phase = .stopped) (unpending : state.pendingStart = none)
    {move : Move} (other : move ≠ .serve) (moves : Moves before.around state move (.kept next)) :
    Untouched state next ∧ next.pendingStart = none := by
  have sound := reachable_sound reachable registered
  generalize left : Account.kept next = account at moves
  cases moves with
  | @receive message rest idle messages =>
    have past := past_of_free reachable registered (sound.empty.mp stopped) message
      (by simp [messages])
    cases left
    simp only [Instance.receive, if_neg (Nat.ne_of_lt past)]
    exact ⟨⟨rfl, rfl, rfl, rfl, rfl, rfl, rfl, rfl⟩, unpending⟩
  | serve => exact absurd rfl other
  | restart =>
    have isStopped : state.machine.phase.isStopped = true := by simp [stopped, Phase.isStopped]
    cases left
    simp only [Instance.scheduledRestart, isStopped, Bool.true_or, if_true]
    exact ⟨⟨rfl, rfl, rfl, rfl, rfl, rfl, rfl, rfl⟩, unpending⟩
  | conclude =>
    cases left
    simp only [Instance.afterStop, unpending]
    exact ⟨⟨rfl, rfl, rfl, rfl, rfl, rfl, rfl, rfl⟩, rfl⟩
  | resume busy => exact absurd stopped (sound.waits _ busy).1.not_stopped
  | timeout busy => exact absurd stopped (sound.waits _ busy).1.not_stopped
  | giveUp =>
    cases left
    exact ⟨⟨rfl, rfl, rfl, rfl, rfl, rfl, rfl, by simp [Instance.observe, Ledger.replace]⟩, unpending⟩

end untouched

section serving

theorem Serves.of_answer (result : Except Error Unit) {rest : List Request}
    (requests : state.requests.tail = rest) :
    Serves ticket result state ({ state with requests := rest }.answer ticket result) :=
  ⟨rfl, requests.symm, rfl, rfl, [], rfl, by simp⟩

/-- The first start is answered at once. -/
theorem startFor_meets (sound : Sound state state) (idle : state.busy = none) (ticket : Ticket)
    (around : Surroundings) :
    ∃ result,
      Serves ticket result state
        ({ state with requests := state.requests.tail }.startFor around ticket) ∧
      Meets around state ({ state with requests := state.requests.tail }.startFor around ticket)
        result := by
  cases gate : around.gate with
  | true =>
    refine ⟨.error .updateInProgress, ?_⟩
    simp only [Instance.startFor, start_refused gate]
    exact ⟨.of_answer _ rfl, .closed gate ⟨rfl, rfl, rfl, rfl, rfl, rfl, rfl, rfl⟩ rfl⟩
  | false =>
    rcases start_cases state.machine with ⟨running, refused⟩ | ⟨stopped, starts⟩
    · refine ⟨.error (.alreadyRunning state.machine.id state.machine.phase), ?_⟩
      simp only [Instance.startFor, Instance.start, gate, Bool.false_eq_true, if_false, refused]
      exact ⟨.of_answer _ rfl, .running gate running⟩
    · cases launch : around.host.launch around.files state.config with
      | error reason =>
        refine ⟨.error (.spawn state.id (.ofSystem reason) reason.text), ?_⟩
        rw [startFor_failed sound stopped idle gate launch]
        exact ⟨⟨rfl, rfl, rfl, rfl, [], rfl, by simp⟩, .failed gate stopped launch stopped rfl rfl rfl⟩
      | ok nothing =>
        refine ⟨.ok (), ?_⟩
        simp only [Instance.startFor, Instance.start, gate, Bool.false_eq_true, if_false, starts,
          Instance.spawn, Instance.publishTransition, Instance.publishSnapshot, launch]
        exact ⟨⟨rfl, rfl, rfl, rfl, [_], rfl, by simp [Bot.isAlive]⟩,
          .launched gate stopped launch rfl⟩

end serving

section queue

private theorem toldSince_append {more : List Answer}
    (answers : next.answers = state.answers ++ more) :
    toldSince since next = toldSince since state ++ more.filter (since ≤ ·.ticket) := by
  rw [toldSince, answers, List.filter_append]
  rfl

theorem OnlyStarts.begin (tally : Tally [] state) (alone : state.requests = []) :
    OnlyStarts state.calls state ∧ toldSince state.calls state = [] := by
  have untold : toldSince state.calls state = [] := by
    refine List.filter_eq_nil_iff.mpr fun answer member => ?_
    simpa using earlier_of_answer tally member
  exact ⟨⟨by simp [alone], by simp [untold, alone], Nat.le_refl _⟩, untold⟩

theorem OnlyStarts.take (only : OnlyStarts since state) : OnlyStarts since (state.take .start) := by
  obtain ⟨starts, placed, later⟩ := only
  refine ⟨fun request member => ?_, ?_, Nat.le_succ_of_le later⟩
  · rcases List.mem_append.mp member with early | last
    · exact starts request early
    · rw [List.mem_singleton.mp last]
  · have more : state.calls + 1 - since = state.calls - since + 1 := by omega
    have last : since + (state.calls - since) = state.calls := by omega
    simp only [Instance.take, List.map_append, List.map_cons, List.map_nil, more,
      List.range'_concat, Nat.one_mul, last, ← placed, List.append_assoc]
    rfl

theorem OnlyStarts.asked (only : OnlyStarts since state) {commands : List Command}
    (starts : ∀ command ∈ commands, command = .start) (same : asked commands (.kept state) = .kept next) :
    OnlyStarts since next := by
  induction commands generalizing state with
  | nil =>
    cases same
    exact only
  | cons command rest ih =>
    obtain rfl := starts command List.mem_cons_self
    exact ih only.take (fun other member => starts other (List.mem_cons_of_mem _ member)) same

theorem OnlyStarts.beside (only : OnlyStarts since state)
    (told : toldSince since next = toldSince since state)
    (requests : next.requests = state.requests) (calls : next.calls = state.calls) :
    OnlyStarts since next := by
  refine ⟨?_, ?_, ?_⟩
  · rw [requests]
    exact only.starts
  · rw [told, requests, calls]
    exact only.placed
  · rw [calls]
    exact only.later

/-- Where no call is taken from the queue, none of the new ones is answered: all others that an
instance may still have to answer are older. -/
theorem OnlyStarts.told (only : OnlyStarts since state) (tally : Tally [] next)
    (grows : state.answers <+: next.answers) (requests : next.requests = state.requests)
    (calls : next.calls = state.calls) : toldSince since next = toldSince since state := by
  obtain ⟨more, answers⟩ := grows
  rw [toldSince_append answers.symm, List.filter_eq_nil_iff.mpr, List.append_nil]
  intro answer member recent
  have counted := tally answer.ticket
  have told : (answered next.toLedger).count answer.ticket =
      (answered state.toLedger).count answer.ticket +
        (more.map (·.ticket)).count answer.ticket := by
    rw [answered, ← answers, List.map_append, List.count_append]
    rfl
  have again : 0 < (more.map (·.ticket)).count answer.ticket :=
    List.count_pos_iff.mpr (List.mem_map_of_mem member)
  have made : answer.ticket < next.calls := by
    split at counted
    · assumption
    · omega
  rw [if_pos made] at counted
  -- The call was answered before or is still queued, so it would be counted twice.
  have present : answer.ticket ∈
      (toldSince since state).map (·.ticket) ++ state.requests.map (·.ticket) := by
    have last : since + (state.calls - since) = state.calls := Nat.add_sub_cancel' only.later
    rw [only.placed, List.mem_range'_1, last, ← calls]
    exact ⟨by simpa using recent, made⟩
  rcases List.mem_append.mp present with before | waiting
  · have earlier : answer.ticket ∈ answered state.toLedger := by
      obtain ⟨first, listed, same⟩ := List.mem_map.mp before
      exact List.mem_map.mpr ⟨first, List.mem_of_mem_filter listed, same⟩
    have once := List.count_pos_iff.mpr earlier
    omega
  · have queued : answer.ticket ∈ owed next := by
      simp only [owed, requests, List.mem_append]
      exact .inl (.inl (.inl waiting))
    have once := List.count_pos_iff.mpr queued
    omega

/-- The first call in the queue is the next one that is answered. -/
theorem OnlyStarts.served (only : OnlyStarts since state) {request : Request} {rest : List Request}
    (requests : state.requests = request :: rest) {result : Except Error Unit}
    (serves : Serves request.ticket result state next) :
    OnlyStarts since next ∧
      toldSince since next = toldSince since state ++ [⟨request.ticket, result⟩] := by
  have recent : since ≤ request.ticket := by
    have present : request.ticket ∈ List.range' since (state.calls - since) := by
      rw [← only.placed, requests]
      simp
    exact (List.mem_range'_1.mp present).1
  have told : toldSince since next = toldSince since state ++ [⟨request.ticket, result⟩] := by
    rw [toldSince_append serves.answers]
    simp [recent]
  have left : next.requests = rest := by rw [serves.requests, requests, List.tail_cons]
  refine ⟨⟨?_, ?_, ?_⟩, told⟩
  · rw [left]
    exact fun other member => only.starts other (by simp [requests, member])
  · rw [told, left, serves.calls, ← only.placed, requests]
    simp
  · rw [serves.calls]
    exact only.later

end queue

/-- What happens to an instance of which only starts are asked: one of them is answered, or none is
and a stopped instance stays untouched. -/
inductive StartTurn (around : Surroundings) (since : Nat) (state next : Instance) : Prop where
  | aside (told : toldSince since next = toldSince since state)
      (quiet : state.machine.phase = .stopped → state.pendingStart = none →
        Untouched state next ∧ next.pendingStart = none)
  | served {ticket : Ticket} {result : Except Error Unit} (idle : state.busy = none)
      (serves : Serves ticket result state next)
      (told : toldSince since next = toldSince since state ++ [⟨ticket, result⟩])
      (meets : Meets around state next result)

section turns

theorem Meanwhile.launches (fits : Meanwhile id event) (happens : before.step? event = some after) :
    SameLaunches before.around after.around := by
  cases about : subject? event with
  | some target =>
    obtain ⟨turn, acts⟩ := step_confined about
    obtain ⟨account, -, rfl⟩ := Option.map_eq_some_iff.mp ((acts before).symm.trans happens)
    cases account <;> exact ⟨rfl, rfl, rfl⟩
  | none =>
    cases event with
    | advance =>
      cases happens
      exact ⟨rfl, rfl, rfl⟩
    | stopAll | beginUpdate | endUpdate | surround => exact fits.elim
    | _ => cases about

theorem Meanwhile.brings (fits : Meanwhile id event) (about : subject? event = some id)
    {command : Command} (brings : event.command? = some command) : command = .start := by
  cases event with
  | start => exact (Option.some.inj brings).symm
  | stop | reboot | update | delete => exact absurd (Option.some.inj about) fits
  | stopAll => cases about
  | _ => cases brings

/-- What happens to an account is about it, or leaves it as it is. -/
theorem Meanwhile.about (fits : Meanwhile id event) (happens : before.step? event = some after) :
    subject? event = some id ∨ after.accounts.get? id = before.accounts.get? id := by
  cases about : subject? event with
  | some target =>
    by_cases here : target = id
    · exact .inl (congrArg some here)
    · exact .inr (only_eq_iff.mp (step_elsewhere about happens (Ne.symm here))).2.2
  | none =>
    cases event with
    | advance =>
      cases happens
      exact .inr rfl
    | stopAll | beginUpdate | endUpdate | surround => exact fits.elim
    | _ => cases about

theorem OnlyStarts.serve (only : OnlyStarts since state) (sound : Sound state state)
    (idle : state.busy = none) {request : Request} {rest : List Request}
    (requests : state.requests = request :: rest) :
    ∃ next, { state with requests := rest }.serve around request = .kept next ∧
      OnlyStarts since next ∧ StartTurn around since state next := by
  obtain ⟨ticket, command⟩ := request
  obtain rfl : command = .start := only.starts ⟨ticket, command⟩ (by simp [requests])
  obtain ⟨result, serves, meets⟩ := startFor_meets sound idle ticket around
  rw [requests, List.tail_cons] at serves meets
  obtain ⟨left, told⟩ := only.served requests serves
  exact ⟨_, rfl, left, .served idle serves told meets⟩

theorem OnlyStarts.move (only : OnlyStarts since state) (reachable : before.Reachable)
    (registered : before.instance? id = some state) {move : Move} {account : Account}
    (moves : Moves before.around state move account) :
    ∃ next, account = .kept next ∧ OnlyStarts since next ∧
      StartTurn before.around since state next := by
  have sound := reachable_sound reachable registered
  by_cases serve : move = .serve
  · subst serve
    cases moves with
    | serve idle requests => exact only.serve sound idle requests
  · obtain ⟨next, rfl⟩ : ∃ next, account = .kept next := by
      cases moves with
      | serve => exact absurd rfl serve
      | _ => exact ⟨_, rfl⟩
    have same : taken move state = state := by
      cases move with
      | serve => exact absurd rfl serve
      | _ => rfl
    have left : Sound state next := same ▸ sound.move before.around moves
    have tally : Tally [] next := move_tallied before.around sound
      (reachable_tallied reachable (kept_of_instance? registered)) moves
    have told := only.told tally left.answers left.requests left.calls
    exact ⟨next, rfl, only.beside told left.requests left.calls, .aside told fun stopped unpending =>
      move_untouched reachable registered stopped unpending serve moves⟩

/-- Whatever happens, the instance is still there, and its calls are where they belong. -/
theorem OnlyStarts.step (only : OnlyStarts since state) (reachable : before.Reachable)
    (registered : before.instance? id = some state) (fits : Meanwhile id event)
    (happens : before.step? event = some after) :
    ∃ next, after.instance? id = some next ∧ OnlyStarts since next ∧
      StartTurn before.around since state next := by
  have unmoved : StartTurn before.around since state state :=
    .aside rfl fun _ unpending => ⟨.refl state, unpending⟩
  rcases fits.about happens with about | same
  · have turn := step_happens happens id
    rw [kept_of_instance? registered] at turn
    generalize found : after.accounts.get? id = account at turn
    cases turn with
    | nothing => exact ⟨state, instance?_of_kept found, only, unmoved⟩
    | registered _ _ free => cases free
    | called _ commands brought =>
      obtain ⟨next, asks, unmoved⟩ := Unmoved.asked state brought
      have starts : ∀ command ∈ commands, command = .start := fun command member =>
        fits.brings about (brought command member)
      rw [Option.map_some, asks] at found
      refine ⟨next, instance?_of_kept found, only.asked starts asks, .aside ?_ fun _ unpending => ?_⟩
      · rw [toldSince, unmoved.answers]
        rfl
      · obtain ⟨untouched, pending⟩ := unmoved.untouched
        exact ⟨untouched, pending.trans unpending⟩
    | moved same moves =>
      obtain ⟨next, rfl, left, turn⟩ := only.move reachable registered moves
      exact ⟨next, instance?_of_kept found, left, turn⟩
    | @observed _ bot change member changes =>
      obtain ⟨untouched, pending⟩ := (Unmoved.observed event state change).untouched
      exact ⟨_, instance?_of_kept found, only.beside rfl rfl rfl,
        .aside rfl fun _ unpending => ⟨untouched, pending.trans unpending⟩⟩
  · refine ⟨state, instance?_of_kept ?_, only, unmoved⟩
    rw [same, kept_of_instance? registered]

end turns

end BotKeeper.Proofs
