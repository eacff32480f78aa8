import BotKeeper.Proofs.Failures
import BotKeeper.Proofs.RebootCourse
import BotKeeper.Proofs.ScheduledRestart
import BotKeeper.Proofs.Unmoved

/-! A reboot is a stop with a start after it. The events that carry out the one carry out the other,
whatever else happens meanwhile, and with the start the instance becomes the same. -/

namespace BotKeeper.Proofs

variable {state : Instance} {ticket : Ticket}

/-- An instance with a call in hand, which was the first in the queue or has just been made. -/
inductive InHand (state : Instance) : Ticket → Instance → Prop where
  | queued {request : Request} {rest : List Request} (requests : state.requests = request :: rest) :
      InHand state request.ticket { state with requests := rest }
  | new : InHand state state.calls { state with calls := state.calls + 1 }

/-- The keeper after an instance has looked at the call that it has in hand. -/
def heeding (keeper : Keeper) (id : AccountId) (state : Instance) (ticket : Ticket)
    (command : Command) : Keeper :=
  keeper.put id (state.serve keeper.around ⟨ticket, command⟩)

/-- The keeper after one more call, for a start, at which the instance has looked at once. -/
def started (keeper : Keeper) (id : AccountId) : Keeper :=
  match keeper.instance? id with
  | some state => heeding keeper id { state with calls := state.calls + 1 } state.calls .start
  | none => keeper

/-- From a keeper to the one in which a call is answered, by the events in between. -/
inductive CarriedOut (call : Call) (result : Except Error Unit) :
    List Keeper.Event → Keeper → Keeper → Prop where
  | answered {keeper : Keeper} (told : keeper.result? call = some result) :
      CarriedOut call result [] keeper keeper
  | step {event : Keeper.Event} {rest : List Keeper.Event} {before between after : Keeper}
      (unanswered : before.result? call = none) (happens : before.step? event = some between)
      (later : CarriedOut call result rest between after) :
      CarriedOut call result (event :: rest) before after

/-- What a reboot and a stop have come to. The instance has stopped with the stop, and if it looks
at a start then, it is answered as the reboot was, and all else is the same too. -/
structure StartsAlike (id : AccountId) (ticket : Ticket) (result : Except Error Unit)
    (rebooted stopped : Keeper) : Prop where
  rested : ∃ state : Instance, stopped.instance? id = some state ∧ state.busy = none ∧
    state.machine.phase = .stopped
  answer : (started stopped id).result? ⟨id, (stopped.ledger id).calls⟩ = some result
  same : ∃ (state : Instance) (given : List Answer),
    rebooted.instance? id = some { state with answers := given ++ [⟨ticket, result⟩] } ∧
    started stopped id = rebooted.put id (.kept { state with
      calls := state.calls + 1
      answers := given ++ [⟨ticket, .ok ()⟩, ⟨state.calls, result⟩] })

structure Orderly (id : AccountId) (keeper : Keeper) : Prop where
  order : ∀ account, keeper.accounts.get? id = some account → InOrder id account
  tallied : ∀ account, keeper.accounts.get? id = some account → Tallied account

variable {id : AccountId} {keeper after : Keeper} {event : Keeper.Event}

private theorem reachable_orderly (reachable : keeper.Reachable) (id : AccountId) :
    Orderly id keeper :=
  ⟨reachable_inOrder reachable, fun _ => reachable_tallied reachable⟩

namespace Orderly

theorem step (orderly : Orderly id keeper) (happens : keeper.step? event = some after) :
    Orderly id after where
  order := fun account found =>
    ((step_happens happens id).follows orderly.order account found).1
  tallied := (step_happens happens id).tallied keeper.around orderly.order orderly.tallied

theorem sound (orderly : Orderly id keeper) (registered : keeper.instance? id = some state) :
    Sound state state :=
  (orderly.order _ (kept_of_instance? registered)).1

theorem tally (orderly : Orderly id keeper) (registered : keeper.instance? id = some state) :
    Tally [] state :=
  orderly.tallied _ (kept_of_instance? registered)

end Orderly

theorem result?_put (keeper : Keeper) (id : AccountId) {account : Account} {given : List Answer}
    (rest : List Answer) (new : ∀ answer ∈ given, answer.ticket ≠ ticket) {result : Except Error Unit}
    (answers : account.ledger.answers = given ++ ⟨ticket, result⟩ :: rest) :
    (keeper.put id account).result? ⟨id, ticket⟩ = some result := by
  have unanswered : given.find? (·.ticket == ticket) = none := by simpa using new
  simp [Keeper.result?, ledger_put, answers, List.find?_append, unanswered]

/-- An instance that waits for nothing looks at the call that was queued first. -/
theorem step_heeding (registered : keeper.instance? id = some state) (idle : state.busy = none)
    {command : Command} {rest : List Request}
    (requests : state.requests = ⟨ticket, command⟩ :: rest) :
    keeper.step? (.move id .serve) =
      some (heeding keeper id { state with requests := rest } ticket command) := by
  simp only [Keeper.step?, Keeper.move?, registered, Option.bind_some,
    (Moves.serve idle requests).move?, Option.map_some]
  rfl

private theorem started_put (keeper : Keeper) (id : AccountId) (state : Instance) :
    started (keeper.put id (.kept state)) id = keeper.put id
      (.kept ({ state with calls := state.calls + 1 }.startFor keeper.around state.calls)) := by
  simp only [started, instance?_put, Account.instance?, heeding, put_put]
  rfl

/-- The start is made as it would have been for a call of its own. -/
theorem startsAlike_of_released (tally : Tally [] state) (waiters : state.stopWaiters = [])
    (stopped : state.machine.phase = .stopped) (earlier : ticket < state.calls) :
    StartsAlike id ticket ((released state).start keeper.around true).2
      (keeper.put id (.kept ((released state).startFor keeper.around ticket)))
      (keeper.put id (.kept ((released state).answer ticket (.ok ())))) := by
  have made := startFor_beside keeper.around (released state) waiters
  have first := made state.answers state.calls ticket
  have second := made (state.answers ++ [⟨ticket, .ok ()⟩]) (state.calls + 1) state.calls
  have starts : started (keeper.put id (.kept ((released state).answer ticket (.ok ())))) id =
      keeper.put id (.kept { ((released state).start keeper.around true).1 with
        answers := state.answers ++ [⟨ticket, .ok ()⟩] ++
          [⟨state.calls, ((released state).start keeper.around true).2⟩]
        calls := state.calls + 1 }) :=
    (started_put keeper id _).trans (congrArg (keeper.put id ∘ Account.kept) second)
  refine ⟨⟨_, instance?_put keeper id _, rfl, stopped⟩, ?_, ?_⟩
  · have calls : ((keeper.put id (.kept ((released state).answer ticket (.ok ())))).ledger id).calls =
        state.calls := by
      rw [ledger_put]
      rfl
    rw [starts, calls]
    refine result?_put keeper id [] (fun answer given => ?_) rfl
    rcases List.mem_append.mp given with old | last
    · exact Nat.ne_of_lt (earlier_of_answer tally old)
    · rw [List.mem_singleton.mp last]
      exact Nat.ne_of_lt earlier
  · refine ⟨{ ((released state).start keeper.around true).1 with calls := state.calls },
      state.answers, ?_, ?_⟩
    · rw [instance?_put]
      exact congrArg some first
    · rw [starts, put_put, List.append_assoc]
      rfl

/-- The reboot is answered when the start was made, and the stop just before that. -/
theorem conclude_alike (orderly : Orderly id keeper) (registered : keeper.instance? id = some state)
    (halted : state.busy = some .halted) (start : state.pendingStart = some (.requested ticket)) :
    ∃ result rebooted stopped, keeper.step? (.move id .conclude) = some rebooted ∧
      (recast id (asStop ticket) keeper).step? (.move id .conclude) = some stopped ∧
      rebooted.result? ⟨id, ticket⟩ = some result ∧
      stopped.result? ⟨id, ticket⟩ = some (.ok ()) ∧
      StartsAlike id ticket result rebooted stopped := by
  have sound := orderly.sound registered
  have tally := orderly.tally registered
  have waiters : state.stopWaiters = [] := sound.exclusive.resolve_left (by simp [start])
  obtain ⟨earlier, new⟩ := tally.unanswered (RebootAsked.pending start).owed
  have halts : (asStop ticket state).busy = some .halted := by
    simp only [asStop, halted, Option.map_some, stopsFor]
  have present := instance?_put keeper id (.kept (asStop ticket state))
  have concludes : keeper.step? (.move id .conclude) =
      some (keeper.put id (.kept ((released state).startFor keeper.around ticket))) := by
    simp only [Keeper.step?, Keeper.move?, registered, Option.bind_some,
      (Moves.conclude halted).move?, Option.map_some, afterStop_reboot keeper.around start waiters]
  have stops : (recast id (asStop ticket) keeper).step? (.move id .conclude) =
      some (keeper.put id (.kept ((released state).answer ticket (.ok ())))) := by
    simp only [recast_registered registered, Keeper.step?, Keeper.move?, present, Option.bind_some,
      Account.instance?, (Moves.conclude halts).move?, Option.map_some,
      afterStop_asStop _ start waiters, put_put]
  refine ⟨((released state).start keeper.around true).2, _, _, concludes, stops, ?_, ?_, ?_⟩
  · have first := startFor_beside keeper.around (released state) waiters
      state.answers state.calls ticket
    refine result?_put keeper id [] new ?_
    exact congrArg (fun state : Instance => state.answers) first
  · exact result?_put keeper id [] new rfl
  · exact startsAlike_of_released tally waiters (sound.halted halted) earlier

inductive Alike (id : AccountId) (ticket : Ticket) (keeper : Keeper) (event : Keeper.Event) :
    Option Keeper → Option Keeper → Prop where
  | impossible : Alike id ticket keeper event none none
  | disarmed {after : Keeper} {next : Instance} (due : moveOf? id event = some .restart)
      (registered : after.instance? id = some next) (asked : RebootAsked ticket next)
      (same : recast id (asStop ticket) after = recast id (asStop ticket) keeper) :
      Alike id ticket keeper event (some after) none
  | goesOn {after : Keeper} {next : Instance} (undue : moveOf? id event ≠ some .restart)
      (registered : after.instance? id = some next) (asked : RebootAsked ticket next) :
      Alike id ticket keeper event (some after) (some (recast id (asStop ticket) after))
  | failed {after stopped : Keeper} {error : Error} (process : error.kind = .process)
      (told : after.result? ⟨id, ticket⟩ = some (.error error))
      (also : stopped.result? ⟨id, ticket⟩ = some (.error error)) :
      Alike id ticket keeper event (some after) (some stopped)
  | concluded {rebooted stopped : Keeper} {result : Except Error Unit}
      (undue : moveOf? id event ≠ some .restart)
      (told : rebooted.result? ⟨id, ticket⟩ = some result)
      (also : stopped.result? ⟨id, ticket⟩ = some (.ok ()))
      (alike : StartsAlike id ticket result rebooted stopped) :
      Alike id ticket keeper event (some rebooted) (some stopped)

private theorem step_reboots (orderly : Orderly id keeper)
    (registered : keeper.instance? id = some state)
    (asked : RebootAsked ticket state) (happens : keeper.step? event = some after)
    (unconcluded : moveOf? id event = some .conclude → state.busy ≠ some .halted) :
    ∃ next, after.instance? id = some next ∧ Reboots ticket next := by
  rcases step_turns happens registered with ⟨next, kept, unmoved⟩ | ⟨move, account, same, found, moves⟩
  · obtain ⟨_, _, _, _, rfl⟩ := unmoved.same
    exact ⟨_, kept, .inl (asked.congr rfl rfl)⟩
  · have other : move = .conclude → state.busy ≠ some .halted := fun concludes =>
      unconcluded (moveOf?_eq_some.mpr (concludes ▸ same))
    obtain ⟨next, rfl, reboots⟩ := asked.reboots keeper.around (orderly.sound registered) moves other
    exact ⟨next, instance?_of_kept found, reboots⟩

private theorem step?_asStop (orderly : Orderly id keeper)
    (registered : keeper.instance? id = some state) (asked : RebootAsked ticket state)
    (unconcluded : moveOf? id event = some .conclude → state.busy ≠ some .halted)
    (undue : moveOf? id event ≠ some .restart) :
    (recast id (asStop ticket) keeper).step? event =
      (keeper.step? event).map (recast id (asStop ticket)) := by
  cases moves : moveOf? id event with
  | none =>
    refine step?_recast (asStop_unseen ticket) registered fun move same => ?_
    cases moves.symm.trans (moveOf?_eq_some.mpr same)
  | some move =>
    obtain rfl := moveOf?_eq_some.mp moves
    have sound := orderly.sound registered
    refine move?_recast registered ?_
    cases asked with
    | ending busy purpose => exact ending_asStop_move? keeper.around sound busy purpose
    | pending start =>
      refine pending_asStop_move? keeper.around sound start ?_ ?_
      · exact fun concludes => unconcluded (concludes ▸ moves)
      · exact fun restarts => undue (restarts ▸ moves)

private theorem restart_alike (orderly : Orderly id keeper)
    (registered : keeper.instance? id = some state) (asked : RebootAsked ticket state) :
    Alike id ticket keeper (.move id .restart) (keeper.step? (.move id .restart))
      ((recast id (asStop ticket) keeper).step? (.move id .restart)) := by
  have present := instance?_put keeper id (.kept (asStop ticket state))
  have closed : (recast id (asStop ticket) keeper).step? (.move id .restart) = none := by
    have disarmed : (asStop ticket state).restartAt = none := rfl
    simp [recast_registered registered, Keeper.step?, Keeper.move?, present, Account.instance?,
      Instance.move?, disarmed]
  rw [closed]
  cases happens : keeper.step? (.move id .restart) with
  | none => exact .impossible
  | some after =>
    obtain ⟨held, account, found, moves, rfl⟩ := moves_of_step happens
    cases registered.symm.trans found
    obtain rfl := asked.restart_asStop keeper.around (orderly.sound registered) moves
    refine .disarmed (moveOf?_eq_some.mpr rfl) (instance?_put keeper id _) (asked.congr rfl rfl) ?_
    rw [recast_put, recast_registered registered, put_put, if_pos rfl]
    rfl

/-- As long as a reboot is not answered, what happens to it would happen to a stop. -/
theorem step_alike (orderly : Orderly id keeper) (registered : keeper.instance? id = some state)
    (asked : RebootAsked ticket state) (event : Keeper.Event) :
    Alike id ticket keeper event (keeper.step? event)
      ((recast id (asStop ticket) keeper).step? event) := by
  by_cases due : moveOf? id event = some .restart
  · obtain rfl := moveOf?_eq_some.mp due
    exact restart_alike orderly registered asked
  by_cases halts : moveOf? id event = some .conclude ∧ state.busy = some .halted
  · obtain ⟨concludes, halted⟩ := halts
    obtain rfl := moveOf?_eq_some.mp concludes
    cases asked with
    | ending busy => cases halted.symm.trans busy
    | pending start =>
      obtain ⟨result, rebooted, stopped, concludes, stops, told, also, alike⟩ :=
        conclude_alike orderly registered halted start
      rw [concludes, stops]
      exact .concluded due told also alike
  have unconcluded : moveOf? id event = some .conclude → state.busy ≠ some .halted :=
    fun concludes halted => halts ⟨concludes, halted⟩
  rw [step?_asStop orderly registered asked unconcluded due]
  cases happens : keeper.step? event with
  | none => exact .impossible
  | some after =>
    obtain ⟨next, kept, still | ⟨error, process, told⟩⟩ :=
      step_reboots orderly registered asked happens unconcluded
    · exact .goesOn due kept still
    · have answer : ⟨ticket, .error error⟩ ∈ (after.ledger id).answers := by
        rw [ledger_of_instance? kept]
        exact told
      have fails := result?_of_tallied (orderly.step happens).tallied answer
      exact .failed process fails ((result?_recast (asStop_unseen ticket) after id _).trans fails)

variable {events : List Keeper.Event} {result : Except Error Unit}

theorem CarriedOut.of_told {call : Call} {told : Except Error Unit}
    (course : CarriedOut call result events keeper after) (answered : keeper.result? call = some told) :
    events = [] ∧ result = told ∧ after = keeper := by
  cases course with
  | answered given => exact ⟨rfl, Option.some.inj (given.symm.trans answered), rfl⟩
  | step unanswered => cases unanswered.symm.trans answered

/-- The events without those by which the schedule of an instance is due. -/
def unscheduled (id : AccountId) (events : List Keeper.Event) : List Keeper.Event :=
  events.filter (moveOf? id · ≠ some .restart)

/-- A reboot that does not fail to end the process takes the course of a stop. -/
theorem CarriedOut.as_stop {rebooted : Keeper}
    (course : CarriedOut ⟨id, ticket⟩ result events keeper rebooted) (orderly : Orderly id keeper)
    (registered : keeper.instance? id = some state) (asked : RebootAsked ticket state)
    (ended : ∀ error, result = .error error → error.kind ≠ .process) :
    ∃ stopped, CarriedOut ⟨id, ticket⟩ (.ok ()) (unscheduled id events)
        (recast id (asStop ticket) keeper) stopped ∧
      StartsAlike id ticket result rebooted stopped := by
  induction course generalizing state with
  | @answered keeper told =>
    have unanswered := result?_of_tally registered (orderly.tally registered) asked.owed
    cases told.symm.trans unanswered
  | @step event rest before between after unanswered happens later ih =>
    have alike := step_alike orderly registered asked event
    have also := (result?_recast (asStop_unseen ticket) before id ⟨id, ticket⟩).trans unanswered
    generalize stops : (recast id (asStop ticket) before).step? event = stop at alike
    rw [happens] at alike
    cases alike with
    | disarmed due kept still same =>
      obtain ⟨stopped, course, starts⟩ := ih (orderly.step happens) kept still
      refine ⟨stopped, ?_, starts⟩
      rw [unscheduled, List.filter_cons_of_neg (by simpa using due), ← same]
      exact course
    | goesOn undue kept still =>
      obtain ⟨stopped, course, starts⟩ := ih (orderly.step happens) kept still
      refine ⟨stopped, ?_, starts⟩
      rw [unscheduled, List.filter_cons_of_pos (by simpa using undue)]
      exact .step also stops course
    | failed process told =>
      obtain ⟨-, same, -⟩ := later.of_told told
      exact absurd process (ended _ same)
    | @concluded _ stopped _ undue told stop starts =>
      obtain ⟨rfl, rfl, rfl⟩ := later.of_told told
      refine ⟨stopped, ?_, starts⟩
      rw [unscheduled, List.filter_cons_of_pos (by simpa using undue)]
      exact .step also stops (.answered stop)

/-- A stop that succeeds takes the course of a reboot. -/
theorem CarriedOut.as_reboot {stopped : Keeper}
    (course : CarriedOut ⟨id, ticket⟩ (.ok ()) events (recast id (asStop ticket) keeper) stopped)
    (orderly : Orderly id keeper) (registered : keeper.instance? id = some state)
    (asked : RebootAsked ticket state) :
    ∃ result rebooted, CarriedOut ⟨id, ticket⟩ result events keeper rebooted ∧
      StartsAlike id ticket result rebooted stopped := by
  induction events generalizing keeper state with
  | nil =>
    cases course with
    | answered told =>
      have unanswered := result?_of_tally registered (orderly.tally registered) asked.owed
      rw [result?_recast (asStop_unseen ticket)] at told
      cases told.symm.trans unanswered
  | cons event rest ih =>
    cases course with
    | @step _ _ _ between _ unanswered happens later =>
      have alike := step_alike orderly registered asked event
      rw [result?_recast (asStop_unseen ticket)] at unanswered
      generalize reboots : keeper.step? event = reboot at alike
      rw [happens] at alike
      cases alike with
      | goesOn undue kept still =>
        obtain ⟨result, rebooted, course, starts⟩ := ih later (orderly.step reboots) kept still
        exact ⟨result, rebooted, .step unanswered reboots course, starts⟩
      | failed process told also =>
        obtain ⟨-, impossible, -⟩ := later.of_told also
        cases impossible
      | @concluded rebooted _ result undue told stop starts =>
        obtain ⟨rfl, -, rfl⟩ := later.of_told stop
        exact ⟨result, rebooted, .step unanswered reboots (.answered told), starts⟩

section begins

variable {held : Instance} (orderly : Orderly id keeper)
  (registered : keeper.instance? id = some state) (idle : state.busy = none)
  (hand : InHand state ticket held)
include orderly registered idle hand

theorem hand_sound : Sound held held ∧ Tally [ticket] held ∧ held.busy = none ∧
    held.machine = state.machine := by
  have sound := orderly.sound registered
  have tally := orderly.tally registered
  cases hand with
  | queued requests => exact ⟨sound.requeue _ _, tally.served requests, idle, rfl⟩
  | new => exact ⟨sound.requeue _ _, tally.called, idle, rfl⟩

private theorem reboot_orderly : Orderly id (heeding keeper id held ticket .reboot) := by
  obtain ⟨sound, tally, idle, same⟩ := hand_sound orderly registered idle hand
  have named := (orderly.order _ (kept_of_instance? registered)).2
  have rebooted := sound.reboot keeper.around idle ticket
  have tallied := @serve_tallied _ keeper.around _ sound idle ⟨ticket, .reboot⟩ tally
  constructor
  · intro account found
    rw [heeding, get?_put, if_pos rfl] at found
    cases found
    exact ⟨rebooted.rebase, rebooted.named.trans (same ▸ named)⟩
  · intro account found
    rw [heeding, get?_put, if_pos rfl] at found
    cases found
    exact tallied

private theorem begin_alike (up : Up state.machine.phase) :
    heeding keeper id held ticket .stop =
        recast id (asStop ticket) (heeding keeper id held ticket .reboot) ∧
      ∃ next, (heeding keeper id held ticket .reboot).instance? id = some next ∧
        Reboots ticket next := by
  obtain ⟨sound, _, idle, same⟩ := hand_sound orderly registered idle hand
  obtain ⟨begins, reboots⟩ := reboot_begins keeper.around sound idle (same ▸ up) ticket
  have present : (heeding keeper id held ticket .reboot).instance? id =
      some (held.reboot keeper.around ticket) :=
    instance?_put keeper id _
  refine ⟨?_, _, present, reboots⟩
  rw [recast_registered present, ← begins, heeding, heeding, put_put]
  rfl

end begins

/-- A reboot is a stop with a start after it. Where an instance whose bot is up looks at a reboot
and the end of the process does not fail, the same events would carry out a stop, and a start that
the instance looked at then would be answered as the reboot was and leave everything as the reboot
did but the answers. In the same way there is a reboot for every stop that succeeds. An instance that
has stopped makes no difference between a reboot and a start. -/
theorem reboot_is_stop_then_start (reachable : keeper.Reachable)
    (registered : keeper.instance? id = some state) (idle : state.busy = none) {held : Instance}
    (hand : InHand state ticket held) :
    (Up state.machine.phase →
      (∀ events result rebooted,
        CarriedOut ⟨id, ticket⟩ result events (heeding keeper id held ticket .reboot) rebooted →
        (∀ error, result = .error error → error.kind ≠ .process) →
        ∃ stopped,
          CarriedOut ⟨id, ticket⟩ (.ok ()) (unscheduled id events)
            (heeding keeper id held ticket .stop) stopped ∧
          StartsAlike id ticket result rebooted stopped) ∧
      ∀ events stopped,
        CarriedOut ⟨id, ticket⟩ (.ok ()) events (heeding keeper id held ticket .stop) stopped →
        ∃ result rebooted,
          CarriedOut ⟨id, ticket⟩ result events (heeding keeper id held ticket .reboot) rebooted ∧
          StartsAlike id ticket result rebooted stopped) ∧
    (state.machine.phase = .stopped →
      heeding keeper id held ticket .reboot = heeding keeper id held ticket .start) := by
  have orderly := reachable_orderly reachable id
  refine ⟨fun up => ?_, fun stopped => ?_⟩
  · have begun := reboot_orderly orderly registered idle hand
    obtain ⟨begins, next, present, reboots⟩ := begin_alike orderly registered idle hand up
    rw [begins]
    rcases reboots with asked | ⟨error, process, told⟩
    · refine ⟨fun events result rebooted course ended => ?_, fun events stopped course => ?_⟩
      · exact course.as_stop begun present asked ended
      · exact course.as_reboot begun present asked
    · have answer : ⟨ticket, .error error⟩ ∈
          ((heeding keeper id held ticket .reboot).ledger id).answers := by
        rw [ledger_of_instance? present]
        exact told
      have fails := result?_of_tallied begun.tallied answer
      refine ⟨fun events result rebooted course ended => ?_, fun events stopped course => ?_⟩
      · obtain ⟨-, same, -⟩ := course.of_told fails
        exact absurd process (ended error same)
      · rw [← result?_recast (asStop_unseen ticket) _ id] at fails
        obtain ⟨-, impossible, -⟩ := course.of_told fails
        cases impossible
  · obtain ⟨_, _, _, same⟩ := hand_sound orderly registered idle hand
    have isStopped : held.machine.phase.isStopped = true := by simp [same, stopped, Phase.isStopped]
    simp only [heeding, Instance.serve, Instance.reboot, isStopped, if_true]

def carriedSteps? (call : Call) (keeper : Keeper) :
    List Keeper.Event → Option (Except Error Unit × Keeper)
  | [] => (keeper.result? call).map (·, keeper)
  | event :: rest =>
    if (keeper.result? call).isNone then
      (keeper.step? event).bind fun after => carriedSteps? call after rest
    else none

private theorem carriedOut_of_steps {call : Call}
    (steps : carriedSteps? call keeper events = some (result, after)) :
    CarriedOut call result events keeper after := by
  induction events generalizing keeper with
  | nil =>
    obtain ⟨given, told, same⟩ := Option.map_eq_some_iff.mp steps
    cases same
    exact .answered told
  | cons event rest ih =>
    unfold carriedSteps? at steps
    split at steps
    · rename_i unanswered
      obtain ⟨between, happens, later⟩ := Option.bind_eq_some_iff.mp steps
      exact .step (Option.isNone_iff_eq_none.mp unanswered) happens (ih later)
    · cases steps

/-- The schedule is due while the bot goes down, and so does nothing. -/
theorem reboot_is_stop_then_start_when_due : ∃ (keeper begun rebooted stopped : Keeper)
    (state : Instance), keeper.Reachable ∧ keeper.instance? 100001 = some state ∧
    state.machine.phase = .running ∧ state.requests = [⟨1, .reboot⟩] ∧
    keeper.step? (.move 100001 .serve) = some begun ∧
    CarriedOut ⟨100001, 1⟩ (.ok ())
      [.advance 2000 2000, .move 100001 (.giveUp 1), .move 100001 .resume, .move 100001 .restart,
        .move 100001 .receive, .move 100001 .conclude] begun rebooted ∧
    CarriedOut ⟨100001, 1⟩ (.ok ())
      [.advance 2000 2000, .move 100001 (.giveUp 1), .move 100001 .resume, .move 100001 .receive,
        .move 100001 .conclude]
      (heeding keeper 100001 { state with requests := [] } 1 .stop) stopped ∧
    StartsAlike 100001 1 (.ok ()) rebooted stopped := by
  obtain ⟨keeper, reachable, checked⟩ := rehearsal_reachable [restartedConfig 100001 ["--leak"]]
    [.start 100001, .move 100001 .serve, .print 100001 "login success 100001\n".toUTF8.toList,
      .move 100001 .receive, .advance 9000 9000, .reboot 100001]
    (fun keeper => (keeper.instance? 100001).any (fun state => decide (state.busy = none ∧
      state.machine.phase = .running ∧ state.requests = [⟨1, .reboot⟩])) = true ∧
      (keeper.step? (.move 100001 .serve)).any (fun begun =>
        (carriedSteps? ⟨100001, 1⟩ begun
          [.advance 2000 2000, .move 100001 (.giveUp 1), .move 100001 .resume,
            .move 100001 .restart, .move 100001 .receive, .move 100001 .conclude]).any
          fun course => decide (course.1 = .ok ())) = true) (by decide +kernel)
  obtain ⟨found, checked⟩ := checked
  obtain ⟨state, registered, waits⟩ := (Option.any_eq_true _ _).mp found
  obtain ⟨idle, running, requests⟩ := of_decide_eq_true waits
  obtain ⟨begun, happens, checked⟩ := (Option.any_eq_true _ _).mp checked
  obtain ⟨⟨result, rebooted⟩, steps, answered⟩ := (Option.any_eq_true _ _).mp checked
  obtain rfl := of_decide_eq_true answered
  have course := carriedOut_of_steps steps
  obtain rfl := Option.some.inj (happens.symm.trans (step_heeding registered idle requests))
  obtain ⟨alike, _⟩ := reboot_is_stop_then_start reachable registered idle (.queued requests)
  obtain ⟨stopped, stops, starts⟩ :=
    (alike (by simp [running, Up])).1 _ _ rebooted course fun _ impossible => by cases impossible
  exact ⟨keeper, _, rebooted, stopped, state, reachable, registered, running, requests, happens,
    course, stops, starts⟩

end BotKeeper.Proofs
