import BotKeeper.Proofs.Independence
import BotKeeper.Proofs.ScheduledRestart
import BotKeeper.Proofs.Unwinding

/-! A stop that has succeeded is final. A stop is answered when the instance has stopped, and not
before: by then it counts no restarts, and nothing is pending that could start it again. From
there on it rests until it looks at a call that asks for something else. -/

namespace BotKeeper.Proofs

variable {state : Instance} (around : Surroundings)

section course

variable {id : AccountId} {ticket : Ticket}

inductive StopAsked (ticket : Ticket) (state : Instance) : Prop where
  | queued (member : ⟨ticket, .stop⟩ ∈ state.requests)
  | ending {wait : Wait} (busy : state.busy = some (.wait wait))
      (purpose : wait.purpose = .stop ticket)
  | awaited (waiter : ticket ∈ state.stopWaiters)

/-- An instance that has stopped and does nothing, and counts no restarts. -/
structure Rested (state : Instance) : Prop where
  phase : state.machine.phase = .stopped
  idle : state.busy = none
  restarts : state.machine.restartCount = 0

/-- How a stop stands after a move: it succeeds only when the instance rests. -/
inductive StopCourse (ticket : Ticket) : Account → Prop where
  | asked {state : Instance} (asked : StopAsked ticket state) : StopCourse ticket (.kept state)
  | failed {account : Account} {error : Error}
      (answer : ⟨ticket, .error error⟩ ∈ account.ledger.answers) : StopCourse ticket account
  | done {state : Instance} (answer : ⟨ticket, .ok ()⟩ ∈ state.answers) (rested : Rested state) :
      StopCourse ticket (.kept state)

theorem StopAsked.owed (asked : StopAsked ticket state) : ticket ∈ owed state := by
  cases asked with
  | queued member =>
    have tickets : ticket ∈ state.requests.map (·.ticket) := List.mem_map.mpr ⟨_, member, rfl⟩
    simp [Proofs.owed, tickets]
  | ending busy purpose => simp [Proofs.owed, busy, busyTickets, purpose, purposeTickets]
  | awaited waiter => simp [Proofs.owed, waiter]

theorem Unmoved.stopAsked {event : Keeper.Event} {after : Instance}
    (unmoved : Unmoved event state after) (asked : StopAsked ticket state) :
    StopAsked ticket after := by
  obtain ⟨more, requests, _⟩ := unmoved.requests
  obtain ⟨_, _, _, _, rfl⟩ := unmoved.same
  cases asked with
  | queued member => exact .queued (requests ▸ List.mem_append_left more member)
  | ending busy purpose => exact .ending busy purpose
  | awaited waiter => exact .awaited waiter

private theorem told_answer (state : Instance) (ticket : Ticket) (result : Except Error Unit) :
    ⟨ticket, result⟩ ∈ (Account.kept (state.answer ticket result)).ledger.answers :=
  List.mem_append_right _ (List.mem_singleton.mpr rfl)

private theorem goOn_course {wait : Wait} {result : Instance × Ending}
    (running : state.machine.phase ≠ .stopped) (effects : wait.effects = [])
    (purpose : wait.purpose = .stop ticket) (same : SameButBots state result.1) :
    StopCourse ticket (.kept (Instance.goOn around wait result)) := by
  have notStopped : state.machine.phase.isStopped = false := by
    simpa [Phase.isStopped] using running
  obtain ⟨bots, messages, ending, rfl⟩ := same.result
  cases ending with
  | complete =>
    simp only [Instance.goOn, effects, purpose, Instance.perform_nil, Instance.complete, notStopped,
      Bool.false_eq_true, if_false]
    exact .asked (.awaited (by simp))
  | failed error =>
    simp only [Instance.goOn, purpose, Instance.complete]
    exact .failed (told_answer _ ticket _)
  | awaited pressure deadline => exact .asked (.ending rfl purpose)

private theorem stop_course (idle : state.busy = none) :
    StopCourse ticket (.kept (state.stop around ticket)) := by
  unfold Instance.stop
  split
  · exact .asked (.awaited (by simp))
  · rcases stop_cases state.machine with ⟨_, refused⟩ | ⟨machine, graceful, same, stopping, stopped⟩
    · rw [refused]
      exact .failed (told_answer state ticket _)
    · rw [stopped]
      dsimp only
      rw [perform_terminate_goOn around (by exact idle)]
      exact goOn_course around same.still rfl rfl (terminate_same around _ graceful)

section moves

variable {around} {move : Move} {account : Account}

private theorem queued_course (sound : Sound state state) (member : ⟨ticket, .stop⟩ ∈ state.requests)
    (moves : Moves around state move account) : StopCourse ticket account := by
  have left := sound.move around moves
  cases moves with
  | receive | restart | conclude | resume | timeout | giveUp =>
    exact .asked (.queued (by rw [left.requests]; exact member))
  | @serve request rest idle requests =>
    rw [requests] at member
    rcases List.mem_cons.mp member with here | later
    · cases here
      exact stop_course around idle
    · generalize served : Instance.serve around request _ = account at left
      cases account with
      | kept after =>
        have kept : after.requests = rest := by
          rw [left.requests]
          simp only [taken, requests, List.tail_cons]
        exact .asked (.queued (kept ▸ later))
      | vacant ledger =>
        obtain ⟨other, command⟩ := request
        cases command with
        | start | stop | reboot | update => cases served
        | delete =>
          simp only [Instance.serve, Instance.delete] at served
          split at served <;> cases served
          -- Whoever is queued behind the deletion of the instance finds none.
          exact .failed (List.mem_append_right _ (List.mem_map.mpr ⟨_, later, rfl⟩))

private theorem ending_course (sound : Sound state state) {wait : Wait}
    (busy : state.busy = some (.wait wait)) (purpose : wait.purpose = .stop ticket)
    (moves : Moves around state move account) : StopCourse ticket account := by
  obtain ⟨plan, _⟩ := sound.waits wait busy
  have running := plan.not_stopped
  have effects : wait.effects = [] := by
    rw [purpose] at plan
    exact plan.stop_effects
  cases sound.awaits busy moves with
  | goesOn brought same => exact goOn_course around running effects purpose same
  | givesUp => exact .asked (.ending busy purpose)

private theorem awaited_course (sound : Sound state state) (unwound : Unwound state)
    (waiter : ticket ∈ state.stopWaiters) (moves : Moves around state move account) :
    StopCourse ticket account := by
  have awaits : state.stopWaiters ≠ [] := List.ne_nil_of_mem waiter
  have unpending : state.pendingStart = none := sound.exclusive.resolve_right awaits
  cases sound.goesDown (fun unawaited => awaits unawaited.2) (by simp [unpending]) moves with
  | further lowers => exact .asked (.awaited (lowers.waiters ▸ waiter))
  | concluded halted =>
    simp only [Instance.afterStop, unpending]
    refine .done ?_ ⟨sound.halted halted, rfl, unwound (.inr (.inl awaits))⟩
    exact List.mem_append_right _ (List.mem_map.mpr ⟨ticket, waiter, rfl⟩)

theorem StopAsked.course (asked : StopAsked ticket state) (sound : Sound state state)
    (unwound : Unwound state) (moves : Moves around state move account) :
    StopCourse ticket account := by
  cases asked with
  | queued member => exact queued_course sound member moves
  | ending busy purpose => exact ending_course sound busy purpose moves
  | awaited waiter => exact awaited_course sound unwound waiter moves

end moves

variable {keeper after : Keeper} {event : Keeper.Event}

/-- Unless it fails, a stop is where it belongs until it is answered, when the instance rests. -/
theorem step_asked (reachable : keeper.Reachable) (registered : keeper.instance? id = some state)
    (asked : StopAsked ticket state) (happens : keeper.step? event = some after)
    (fine : ∀ error, after.result? ⟨id, ticket⟩ ≠ some (.error error)) :
    ∃ next, after.instance? id = some next ∧
      (StopAsked ticket next ∨ after.result? ⟨id, ticket⟩ = some (.ok ()) ∧ Rested next) := by
  rcases step_turns happens registered with ⟨next, kept, unmoved⟩ | ⟨move, account, _, found, moves⟩
  · exact ⟨next, kept, .inl (unmoved.stopAsked asked)⟩
  · have ledger : after.ledger id = account.ledger := by simp [Keeper.ledger, found]
    have told : ∀ {result}, ⟨ticket, result⟩ ∈ account.ledger.answers →
        after.result? ⟨id, ticket⟩ = some result := fun answer =>
      result?_of_answer (reachable_of_step reachable happens) (ledger ▸ answer)
    have course := asked.course (reachable_sound reachable registered)
      (reachable_unwound reachable registered) moves
    cases course with
    | asked still => exact ⟨_, instance?_of_kept found, .inl still⟩
    | done answer rested => exact ⟨_, instance?_of_kept found, .inr ⟨told answer, rested⟩⟩
    | failed answer => exact absurd (told answer) (fine _)

private theorem result?_mono (reachable : keeper.Reachable) (happens : keeper.step? event = some after)
    {call : Call} {result : Except Error Unit} (told : keeper.result? call = some result) :
    after.result? call = some result := by
  have later := reachable_of_step reachable happens
  have answers := ((step_happens happens call.id).continues (reachable_inOrder reachable)).answers
  exact (result?_iff later).mpr (answers.subset ((result?_iff reachable).mp told))

private theorem run_asked (reachable : keeper.Reachable)
    (registered : keeper.instance? id = some state)
    (asked : StopAsked ticket state) (run : Keeper.Run (fun _ => True) keeper after)
    (unanswered : after.result? ⟨id, ticket⟩ = none) :
    ∃ next, after.instance? id = some next ∧ StopAsked ticket next := by
  induction run with
  | refl => exact ⟨state, registered, asked⟩
  | @step between after event run _ happens ih =>
    have earlier := reachable_of_run reachable run
    have unanswered' : between.result? ⟨id, ticket⟩ = none := by
      refine Option.eq_none_iff_forall_ne_some.mpr fun result told => ?_
      cases unanswered.symm.trans (result?_mono earlier happens told)
    obtain ⟨held, present, still⟩ := ih unanswered'
    obtain ⟨next, kept, asks | ⟨told, _⟩⟩ := step_asked earlier present still happens (by simp [unanswered])
    · exact ⟨next, kept, asks⟩
    · cases unanswered.symm.trans told

end course

section rest

/-- Whether a command asks a stopped instance for more than to stay as it is. -/
def disturbs : Command → Bool
  | .start | .reboot | .delete => true
  | .stop | .update _ => false

def Disturbed (id : AccountId) (before : Keeper) (event : Keeper.Event) : Prop :=
  event = .move id .serve ∧ ∃ state ∈ before.instance? id, ∃ request ∈ state.requests.head?,
    disturbs request.command = true

/-- From one keeper to another by events in which the instance of an account is not disturbed. -/
inductive Calm (id : AccountId) (start : Keeper) : Keeper → Prop where
  | refl : Calm id start start
  | step {between after : Keeper} {event : Keeper.Event} (calm : Calm id start between)
      (happens : between.step? event = some after) (unheeded : ¬ Disturbed id between event) :
      Calm id start after

def Undisturbing (id : AccountId) (event : Keeper.Event) : Prop :=
  subject? event = some id → ∀ command, event.command? = some command → disturbs command = false

/-- A stopped instance of which nothing is left that would start it again. -/
structure Final (state : Instance) : Prop extends Rested state where
  code : state.machine.lastQrPayload = none
  pid : state.machine.pid = none
  since : state.machine.startedAt = none
  seen : state.snapshot = state.machine.snapshot state.config.name
  handle : state.handle = none
  gone : AllGone state.bots
  pending : state.pendingStart = none
  waiters : state.stopWaiters = []
  disarmed : state.restartAt = none

/-- The instance of an account is still final, and no launch was tried since an earlier moment. -/
def StaysFinal (id : AccountId) (earlier : Instance) (keeper : Keeper) : Prop :=
  ∃ state, keeper.instance? id = some state ∧ Final state ∧
    state.generation = earlier.generation ∧ state.bots.length = earlier.bots.length

variable {id : AccountId} {ticket : Ticket}

theorem final_of_rested (sound : Sound state state) (rested : Rested state) : Final state where
  toRested := rested
  code := by
    have unknown : ¬ state.machine.lastQrPayload.isSome = true := by
      rw [sound.code.not, rested.phase]
      decide
    simpa using unknown
  pid := by simpa [sound.empty.mp rested.phase] using sound.pid
  since := by simpa [sound.empty.mp rested.phase] using sound.since
  seen := sound.seen
  handle := sound.empty.mp rested.phase
  gone := sound.gone rested.phase
  pending := (sound.unawaited rested.idle (by simp [rested.phase])).1
  waiters := (sound.unawaited rested.idle (by simp [rested.phase])).2
  disarmed := sound.disarmed rested.phase rested.idle

/-- A stopped instance only takes note of what is reported. -/
theorem receive_stopped (stopped : state.machine.phase = .stopped) (message : Message) :
    ∃ feed snapshot history handle,
      state.receive around message = { state with feed, snapshot, history, handle } := by
  unfold Instance.receive Instance.hear
  dsimp only
  split
  · split
    · split
      · exact ⟨_, _, _, _, apply_ignored around (handle_of_stopped (by exact stopped) _ _)⟩
      · exact ⟨_, _, _, _, rfl⟩
    · exact ⟨_, _, _, _, apply_ignored around (handle_of_stopped (by exact stopped) _ _)⟩
  · exact ⟨_, _, _, _, rfl⟩

/-- An instance at rest that is not disturbed rests, and tries no launch. -/
theorem Rested.move {around : Surroundings} {move : Move} {account : Account}
    (rested : Rested state) (sound : Sound state state)
    (undisturbed : move = .serve → ∀ request ∈ state.requests.head?,
      disturbs request.command = false)
    (moves : Moves around state move account) :
    ∃ next, account = .kept next ∧ Rested next ∧ next.generation = state.generation ∧
      next.bots.length = state.bots.length := by
  obtain ⟨stopped, idle, restarts⟩ := rested
  cases moves with
  | @receive message rest _ messages =>
    obtain ⟨feed, snapshot, history, handle, same⟩ :=
      @receive_stopped { state with messages := rest } around stopped message
    exact ⟨_, congrArg _ same, ⟨stopped, idle, restarts⟩, rfl, rfl⟩
  | @serve request rest _ requests =>
    have quiet := undisturbed rfl request (by simp [requests])
    obtain ⟨ticket, command⟩ := request
    cases command with
    | start | reboot | delete => cases quiet
    | stop =>
      have unpending : state.pendingStart ≠ some .scheduled := by
        simp [(sound.unawaited idle (by simp [stopped])).1]
      have refused := stop_refused fun up => up.1 stopped
      simp only [Instance.serve, Instance.stop, unpending, if_false, refused]
      exact ⟨_, rfl, ⟨stopped, idle, restarts⟩, rfl, rfl⟩
    | update config =>
      have isStopped : state.machine.phase.isStopped = true := by simp [stopped, Phase.isStopped]
      simp only [Instance.serve, Instance.update, Machine.checkIdle, isStopped, if_true]
      exact ⟨_, rfl, ⟨stopped, idle, restarts⟩, rfl, rfl⟩
  | restart _ armed => cases (sound.disarmed stopped idle).symm.trans armed
  | conclude halted => cases idle.symm.trans halted
  | resume busy => cases idle.symm.trans busy
  | timeout busy => cases idle.symm.trans busy
  | giveUp =>
    exact ⟨_, rfl, ⟨stopped, idle, restarts⟩, rfl, by simp [Instance.observe, Ledger.replace]⟩

variable {keeper before after later : Keeper} {event : Keeper.Event}

private theorem step_rested (reachable : keeper.Reachable)
    (registered : keeper.instance? id = some state)
    (rested : Rested state) (happens : keeper.step? event = some after)
    (undisturbed : ¬ Disturbed id keeper event) :
    ∃ next, after.instance? id = some next ∧ Rested next ∧ next.generation = state.generation ∧
      next.bots.length = state.bots.length := by
  rcases step_turns happens registered with ⟨next, kept, unmoved⟩ | ⟨move, account, same, found, moves⟩
  · have bots := unmoved.bots
    obtain ⟨_, _, _, _, rfl⟩ := unmoved.same
    exact ⟨_, kept, ⟨rested.phase, rested.idle, rested.restarts⟩, rfl, bots⟩
  · have sound := reachable_sound reachable registered
    have quiet : move = .serve → ∀ request ∈ state.requests.head?,
        disturbs request.command = false := by
      intro serves request head
      refine Bool.eq_false_iff.mpr fun heeded => undisturbed ?_
      exact ⟨by rw [same, serves], state, registered, request, head, heeded⟩
    obtain ⟨next, rfl, stays⟩ := rested.move sound quiet moves
    exact ⟨next, instance?_of_kept found, stays⟩

theorem calm_stays (reachable : keeper.Reachable) (registered : keeper.instance? id = some state)
    (rested : Rested state) (calm : Calm id keeper later) :
    later.Reachable ∧ StaysFinal id state later := by
  induction calm with
  | refl =>
    have sound := reachable_sound reachable registered
    exact ⟨reachable, state, registered, final_of_rested sound rested, rfl, rfl⟩
  | step _ happens undisturbed ih =>
    obtain ⟨earlier, between, present, final, generation, bots⟩ := ih
    obtain ⟨next, kept, still, sameGeneration, sameBots⟩ :=
      step_rested earlier present final.toRested happens undisturbed
    have now := reachable_of_step earlier happens
    exact ⟨now, next, kept, final_of_rested (reachable_sound now kept) still,
      sameGeneration.trans generation, sameBots.trans bots⟩

/-- Whoever disturbs an instance asks for it by its id. -/
theorem subject_of_disturbing {command : Command} (brought : event.command? = some command)
    (heeded : disturbs command = true) : ∃ other, subject? event = some other := by
  cases event with
  | start other | stop other | reboot other | update other | delete other => exact ⟨other, rfl⟩
  | stopAll =>
    cases brought
    cases heeded
  | _ => cases brought

/-- Nobody disturbs an instance whose calls do not, as long as nobody asks for it. -/
theorem step_quiet (reachable : keeper.Reachable) (registered : keeper.instance? id = some state)
    (quiet : ∀ request ∈ state.requests, disturbs request.command = false)
    (fits : Undisturbing id event) (happens : keeper.step? event = some after) :
    ¬ Disturbed id keeper event ∧ ∀ next, after.instance? id = some next →
      ∀ request ∈ next.requests, disturbs request.command = false := by
  constructor
  · rintro ⟨rfl, held, present, request, head, heeded⟩
    cases registered.symm.trans present
    exact Bool.noConfusion ((quiet request (List.mem_of_mem_head? head)).symm.trans heeded)
  · intro next kept request member
    rcases step_turns happens registered with ⟨last, found, unmoved⟩ | ⟨move, account, _, found, moves⟩
    · cases found.symm.trans kept
      obtain ⟨more, requests, brought⟩ := unmoved.requests
      rw [requests] at member
      rcases List.mem_append.mp member with early | new
      · exact quiet request early
      · refine Bool.eq_false_iff.mpr fun heeded => ?_
        obtain ⟨other, about⟩ := subject_of_disturbing (brought request new) heeded
        by_cases same : other = id
        · exact Bool.noConfusion ((fits (same ▸ about) _ (brought request new)).symm.trans heeded)
        · have apart := (only_eq_iff.mp (step_elsewhere about happens (Ne.symm same))).2.2
          have unchanged : next = state := by
            rw [kept_of_instance? registered, kept_of_instance? found] at apart
            cases apart
            rfl
          rw [unchanged] at requests
          rw [List.self_eq_append_right.mp requests] at new
          cases new
    · cases found.symm.trans (kept_of_instance? kept)
      have left := (reachable_sound reachable registered).move keeper.around moves
      exact quiet request (mem_of_taken (left.requests ▸ member))

/-- Where nothing that was asked for before would disturb an instance and nobody asks for it later,
the instance is not disturbed. -/
theorem calm_of_run (reachable : keeper.Reachable) (registered : keeper.instance? id = some state)
    (rested : Rested state) (quiet : ∀ request ∈ state.requests, disturbs request.command = false)
    (run : Keeper.Run (Undisturbing id) keeper later) :
    Calm id keeper later ∧ ∀ next, later.instance? id = some next →
      ∀ request ∈ next.requests, disturbs request.command = false := by
  induction run with
  | refl =>
    refine ⟨.refl, fun next kept => ?_⟩
    cases registered.symm.trans kept
    exact quiet
  | @step between after event run fits happens ih =>
    obtain ⟨calm, still⟩ := ih
    obtain ⟨earlier, held, present, _⟩ := calm_stays reachable registered rested calm
    obtain ⟨undisturbed, later⟩ := step_quiet earlier present (still held present) fits happens
    exact ⟨calm.step happens undisturbed, later⟩

/-- A stop that succeeds is final. When it is answered the instance has stopped, with no restarts
counted and no process alive, and with nothing pending that would start it again. It stays so, and
no launch is tried, until the instance looks at a start, a reboot or its deletion; so also as long
as none of these is queued and nobody asks for them. -/
theorem successful_stop_is_final (reachable : keeper.Reachable) {asked : Keeper} {call : Call}
    (asks : keeper.call id .stop = (asked, .ok call))
    (run : Keeper.Run (fun _ => True) asked before) (unanswered : before.result? call = none)
    (happens : before.step? event = some after) (told : after.result? call = some (.ok ())) :
    ∃ state, after.instance? id = some state ∧ Final state ∧
      (∀ later, Calm id after later → StaysFinal id state later) ∧
      ((∀ request ∈ state.requests, disturbs request.command = false) →
        ∀ later, Keeper.Run (Undisturbing id) after later → StaysFinal id state later) := by
  have steps : keeper.step? (.stop id) = some asked := by rw [Keeper.step?, asks]
  have handed := reachable_of_step reachable steps
  have reached := reachable_of_run handed run
  have answered := reachable_of_step reached happens
  obtain ⟨first, registered, rfl, rfl⟩ : ∃ first, keeper.instance? id = some first ∧
      keeper.put id (.kept (first.take .stop)) = asked ∧ ⟨id, first.calls⟩ = call := by
    rcases call_cases keeper id .stop with ⟨_, refused⟩ | ⟨first, registered, called⟩
    · cases refused.symm.trans asks
    · cases called.symm.trans asks
      exact ⟨first, registered, rfl, rfl⟩
  obtain ⟨held, present, still⟩ := run_asked handed (instance?_put keeper id _)
    (.queued (List.mem_append_right _ (List.mem_singleton.mpr rfl))) run unanswered
  obtain ⟨state, kept, asks | ⟨_, rested⟩⟩ := step_asked reached present still happens (by simp [told])
  · cases told.symm.trans (result?_of_owed answered kept asks.owed)
  · refine ⟨state, kept, final_of_rested (reachable_sound answered kept) rested, ?_, ?_⟩
    · exact fun later calm => (calm_stays answered kept rested calm).2
    · intro quiet later run
      exact (calm_stays answered kept rested (calm_of_run answered kept rested quiet run).1).2

/-- A stop has taken the place of the start that a scheduled restart was about to make. -/
theorem successful_stop_is_final_after_restart : ∃ (keeper asked before after : Keeper)
    (call : Call) (state : Instance), keeper.Reachable ∧
    (keeper.instance? 100001).map (·.pendingStart) = some (some .scheduled) ∧
    keeper.call 100001 .stop = (asked, .ok call) ∧ Keeper.Run (fun _ => True) asked before ∧
    before.result? call = none ∧ before.step? (.move 100001 .conclude) = some after ∧
    after.result? call = some (.ok ()) ∧ after.instance? 100001 = some state ∧ Final state ∧
    ∀ later, Calm 100001 after later → StaysFinal 100001 state later := by
  obtain ⟨keeper, reachable, pending, checked⟩ := rehearsal_reachable [restartedConfig 100001 []]
    [.start 100001, .move 100001 .serve, .advance 10000 0, .move 100001 .restart]
    (fun keeper => (keeper.instance? 100001).map (·.pendingStart) = some (some .scheduled) ∧
      ((keeper.call 100001 .stop).1.steps? [.move 100001 .serve, .move 100001 .receive]).any
        (fun before => (before.step? (.move 100001 .conclude)).any fun after => decide (
          (keeper.call 100001 .stop).2 = .ok ⟨100001, 1⟩ ∧ before.result? ⟨100001, 1⟩ = none ∧
          after.result? ⟨100001, 1⟩ = some (.ok ()))) = true) (by decide)
  obtain ⟨before, steps, checked⟩ := (Option.any_eq_true _ _).mp checked
  obtain ⟨after, happens, checked⟩ := (Option.any_eq_true _ _).mp checked
  obtain ⟨accepted, unanswered, told⟩ := of_decide_eq_true checked
  have asks : keeper.call 100001 .stop = ((keeper.call 100001 .stop).1, .ok ⟨100001, 1⟩) :=
    Prod.ext rfl accepted
  have run : Keeper.Run (fun _ => True) (keeper.call 100001 .stop).1 before :=
    run_of_steps .refl _ (fun _ _ => trivial) steps
  obtain ⟨state, registered, final, stays, _⟩ :=
    successful_stop_is_final reachable asks run unanswered happens told
  exact ⟨keeper, _, before, after, _, state, reachable, pending, asks, run, unanswered, happens, told,
    registered, final, stays⟩

end rest

end BotKeeper.Proofs
