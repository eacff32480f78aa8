import BotKeeper.Proofs.Calls
import BotKeeper.Proofs.Down

/-! A call that is rejected changes nothing. Every check of an operation comes before whatever
the operation does, so an error that a check has found leaves the keeper as it was. An error
from later on is of another kind: a launch or the end of a process has failed. -/

namespace BotKeeper.Proofs

/-- The kinds of errors that only the checks of an operation find. -/
def rejections : List ErrorKind :=
  [.instanceNotFound, .instanceAlreadyExists, .alreadyRunning, .invalidTransition, .instanceBusy,
    .anyInstanceRunning, .updateInProgress, .config]

/-- What an operation on one account does first: its call is handed over, or refused. -/
def asking (keeper : Keeper) : Keeper.Event → Option (Keeper × Except Error Call)
  | .start id => some (keeper.call id .start)
  | .stop id => some (keeper.call id .stop)
  | .reboot id => some (keeper.call id .reboot)
  | .update id config drawn => some (keeper.update id config drawn)
  | .delete id => some (keeper.call id .delete)
  | _ => none

/-- The operations, with the keeper after each of them and its answer, if its call need not wait:
no other call is queued, and the instance looks at it next and answers it at once. -/
inductive Answered (keeper : Keeper) : Keeper.Event → Keeper → Except Error Unit → Prop where
  | added (config : InstanceConfig) (drawn : DrawnName) :
      Answered keeper (.add config drawn) (keeper.add config drawn).1 (keeper.add config drawn).2
  | permitted : Answered keeper .beginUpdate keeper.beginUpdate.1 keeper.beginUpdate.2
  | refused {event : Keeper.Event} {after : Keeper} {error : Error}
      (asks : asking keeper event = some (after, .error error)) :
      Answered keeper event after (.error error)
  | served {event : Keeper.Event} {asked after : Keeper} {call : Call} {state : Instance}
      {result : Except Error Unit} (asks : asking keeper event = some (asked, .ok call))
      (registered : keeper.instance? call.id = some state) (first : state.requests = [])
      (serves : asked.move? call.id .serve = some after)
      (answer : after.result? call = some result) : Answered keeper event after result

/-- Nothing but the answer to one more call of an account is new. -/
def OnlyAnswers (result : Except Error Unit) (before after : Keeper) : Prop :=
  ∃ id state, before.instance? id = some state ∧
    after = before.put id
      (.kept ({ state with calls := state.calls + 1 }.answer state.calls result))

def Accepts (result : Except Error Unit) : Prop :=
  ∀ error, result = .error error → error.kind ∉ rejections

def Unrejected (before after : Ledger) : Prop :=
  ∀ answer ∈ after.answers, answer ∈ before.answers ∨ Accepts answer.result

variable {origin state : Instance} {first : Ledger} {ticket : Ticket} (around : Surroundings)

theorem accepts_ok : Accepts (.ok ()) :=
  fun _ impossible => by cases impossible

private theorem accepts_of_process {error : Error} (kind : error.kind = .process) :
    Accepts (.error error) := by
  intro other same
  cases same
  rw [kind]
  decide

namespace Unrejected

theorem refl (ledger : Ledger) : Unrejected ledger ledger :=
  fun _ => .inl

theorem answer (unrejected : Unrejected first state.toLedger) {result : Except Error Unit}
    (accepts : Accepts result) : Unrejected first (state.answer ticket result).toLedger := by
  intro answer member
  rcases List.mem_append.mp member with early | late
  · exact unrejected answer early
  · obtain rfl := List.mem_singleton.mp late
    exact .inr accepts

theorem releaseStops (unrejected : Unrejected first state.toLedger) :
    Unrejected first state.releaseStops.toLedger := by
  intro answer member
  rcases List.mem_append.mp member with early | late
  · exact unrejected answer early
  · obtain ⟨ticket, _, rfl⟩ := List.mem_map.mp late
    exact .inr accepts_ok

theorem spawn (unrejected : Unrejected first state.toLedger) :
    Unrejected first (state.spawn around).1.toLedger ∧ Accepts (state.spawn around).2 := by
  unfold Instance.spawn
  dsimp only
  split
  · exact ⟨unrejected, accepts_ok⟩
  · refine ⟨unrejected.releaseStops, fun error same => ?_⟩
    cases same
    exact (by decide : ErrorKind.spawn ∉ rejections)

/-- A start is rejected before anything was done for it, or not at all. -/
theorem start (unrejected : Unrejected first state.toLedger) (operator : Bool) :
    (∃ error, state.start around operator = (state, .error error)) ∨
      Unrejected first (state.start around operator).1.toLedger ∧
        Accepts (state.start around operator).2 := by
  unfold Instance.start
  split
  · exact .inl ⟨_, rfl⟩
  · split
    · exact .inl ⟨_, rfl⟩
    · rename_i machine outcome _
      refine .inr ?_
      dsimp only
      generalize begun : Instance.publishTransition _ _ = between
      have spawned : Unrejected first (between.spawn around).1.toLedger ∧
          Accepts (between.spawn around).2 := by
        subst between
        exact spawn around unrejected
      generalize between.spawn around = result at spawned
      obtain ⟨after, _ | _⟩ := result
      · exact spawned
      · exact spawned

theorem startFor (unrejected : Unrejected first state.toLedger) :
    (∃ error, state.startFor around ticket = state.answer ticket (.error error)) ∨
      Unrejected first (state.startFor around ticket).toLedger := by
  unfold Instance.startFor
  rcases unrejected.start around true with ⟨error, refused⟩ | ⟨begun, accepts⟩
  · rw [refused]
    exact .inl ⟨error, rfl⟩
  · exact .inr (begun.answer accepts)

theorem complete (unrejected : Unrejected first state.toLedger) (purpose : Purpose)
    {result : Except Error Unit} (accepts : Accepts result) :
    Unrejected first (state.complete purpose result).toLedger := by
  unfold Instance.complete
  split
  · exact unrejected.answer accepts
  · split
    · exact unrejected.answer accepts_ok
    · exact unrejected
  · exact unrejected.answer accepts
  all_goals exact unrejected

/-- The end of a process may fail, but it is not rejected. -/
theorem terminate (custody : Custody origin state) (unrejected : Unrejected first state.toLedger)
    (graceful : Bool) (purpose : Purpose) :
    Unrejected first (state.perform around [.terminate graceful] purpose).toLedger := by
  have failed := (Brought.terminate around graceful custody).failed
  obtain ⟨bots, messages, ending, ends⟩ := (terminate_same around state graceful).result
  rw [Instance.perform_terminate, ends]
  rw [ends] at failed
  have here : Unrejected first
      ({ state with bots, messages } : Instance).toLedger := unrejected
  cases ending with
  | complete => exact here.complete purpose accepts_ok
  | failed error => exact here.complete purpose (accepts_of_process (failed error rfl))
  | awaited pressure deadline => exact here

end Unrejected

private theorem stop_rejects (sound : Sound origin state) :
    (∃ error, state.stop around ticket = state.answer ticket (.error error)) ∨
      Unrejected state.toLedger (state.stop around ticket).toLedger := by
  unfold Instance.stop
  split
  · exact .inr (.refl _)
  · rcases stop_cases state.machine with ⟨_, refused⟩ | ⟨machine, graceful, same, _, stopped⟩
    · rw [refused]
      exact .inl ⟨_, rfl⟩
    · rw [stopped]
      have records : Recorded origin
          ({ state with machine, restartAt := none }.publishTransition
            ⟨state.machine.phase, .stopping, [.terminate graceful]⟩) :=
        sound.toRecorded.advance same _ _
      exact .inr (.terminate around records.toCustody (.refl state.toLedger) graceful (.stop ticket))

private theorem reboot_rejects (sound : Sound origin state) :
    (∃ error, state.reboot around ticket = state.answer ticket (.error error)) ∨
      Unrejected state.toLedger (state.reboot around ticket).toLedger := by
  unfold Instance.reboot
  split
  · exact Unrejected.startFor around (.refl _)
  · split
    · exact .inl ⟨_, rfl⟩
    · rcases stop_cases state.machine with ⟨_, refused⟩ | ⟨machine, graceful, same, _, stopped⟩
      · rw [refused]
        exact .inl ⟨_, rfl⟩
      · rw [stopped]
        have records : Recorded origin
            ({ state with machine }.publishTransition
              ⟨state.machine.phase, .stopping, [.terminate graceful]⟩) :=
          sound.toRecorded.advance same _ _
        exact .inr
          (.terminate around records.toCustody (.refl state.toLedger) graceful (.reboot ticket))

/-- A call is rejected before anything was done for it, or not at all. -/
theorem serve_rejects (sound : Sound origin state) (alone : state.requests = [])
    (request : Request) :
    (∃ error, state.serve around request = .kept (state.answer request.ticket (.error error))) ∨
      Unrejected state.toLedger (state.serve around request).ledger := by
  have kept : ∀ {after : Instance}, ((∃ error, after = state.answer request.ticket (.error error)) ∨
      Unrejected state.toLedger after.toLedger) →
      (∃ error, Account.kept after = .kept (state.answer request.ticket (.error error))) ∨
        Unrejected state.toLedger (Account.kept after).ledger := by
    rintro after (⟨error, rfl⟩ | unrejected)
    · exact .inl ⟨error, rfl⟩
    · exact .inr unrejected
  obtain ⟨ticket, command⟩ := request
  cases command with
  | start => exact kept (Unrejected.startFor around (.refl _))
  | stop => exact kept (stop_rejects around sound)
  | reboot => exact kept (reboot_rejects around sound)
  | update config =>
    refine kept ?_
    unfold Instance.update
    split
    · exact .inl ⟨_, rfl⟩
    · exact .inr (Unrejected.answer (.refl _) accepts_ok)
  | delete =>
    simp only [Instance.serve, Instance.delete]
    split
    · exact .inl ⟨_, rfl⟩
    · refine .inr ?_
      have told : Unrejected state.toLedger (state.answer ticket (.ok ())).toLedger :=
        .answer (.refl _) accepts_ok
      have answers : (state.answer ticket (.ok ())).remains.answers =
          (state.answer ticket (.ok ())).answers := by
        simp [Instance.remains, Instance.answer, Ledger.answered, alone]
      intro answer member
      exact told answer (answers ▸ member)

variable {keeper asked after : Keeper} {event : Keeper.Event}

theorem call_cases (keeper : Keeper) (id : AccountId) (command : Command) :
    (∃ error, keeper.call id command = (keeper, .error error)) ∨
      ∃ state, keeper.instance? id = some state ∧ keeper.call id command =
        (keeper.put id (.kept (state.take command)), .ok ⟨id, state.calls⟩) := by
  unfold Keeper.call Keeper.find
  cases found : keeper.instance? id with
  | none => exact .inl ⟨_, rfl⟩
  | some state => exact .inr ⟨state, rfl, rfl⟩

/-- An operation refuses its call and changes nothing, or hands it over. -/
theorem asking_cases {result : Except Error Call} (asks : asking keeper event = some (asked, result)) :
    keeper.step? event = some asked ∧ ((∃ error, result = .error error ∧ asked = keeper) ∨
      ∃ id command state, keeper.instance? id = some state ∧ result = .ok ⟨id, state.calls⟩ ∧
        asked = keeper.put id (.kept (state.take command))) := by
  have called : ∀ id command, keeper.call id command = (asked, result) →
      (∃ error, result = .error error ∧ asked = keeper) ∨
        ∃ id command state, keeper.instance? id = some state ∧ result = .ok ⟨id, state.calls⟩ ∧
          asked = keeper.put id (.kept (state.take command)) := by
    intro id command calls
    rcases call_cases keeper id command with ⟨error, refused⟩ | ⟨state, registered, taken⟩
    · cases refused.symm.trans calls
      exact .inl ⟨error, rfl, rfl⟩
    · cases taken.symm.trans calls
      exact .inr ⟨id, command, state, registered, rfl, rfl⟩
  cases event with
  | start id | stop id | reboot id | delete id =>
    have calls := Option.some.inj asks
    exact ⟨by simp only [Keeper.step?, calls], called id _ calls⟩
  | update id config drawn =>
    have updates : keeper.update id config drawn = (asked, result) := Option.some.inj asks
    refine ⟨by simp only [Keeper.step?, updates], ?_⟩
    unfold Keeper.update at updates
    split at updates
    · cases updates
      exact .inl ⟨_, rfl, rfl⟩
    · split at updates
      · cases updates
        exact .inl ⟨_, rfl, rfl⟩
      · exact called id _ updates
  | _ => cases asks

/-- No answer has been given to a call that is yet to come. -/
theorem earlier_of_answer (tally : Tally [] state) {answer : Answer}
    (member : answer ∈ state.answers) : answer.ticket < state.calls := by
  have counted := tally answer.ticket
  have present : 0 < (answered state.toLedger).count answer.ticket :=
    List.count_pos_iff.mpr (List.mem_map.mpr ⟨answer, member, rfl⟩)
  split at counted
  · assumption
  · omega

private theorem add_cases (keeper : Keeper) (config : InstanceConfig) (drawn : DrawnName) :
    (∃ error, keeper.add config drawn = (keeper, .error error)) ∨
      (keeper.add config drawn).2 = .ok () := by
  unfold Keeper.add
  split
  · exact .inl ⟨_, rfl⟩
  · dsimp only
    split
    · exact .inl ⟨_, rfl⟩
    · exact .inr rfl

theorem put_put (keeper : Keeper) (id : AccountId) (first second : Account) :
    (keeper.put id first).put id second = keeper.put id second := by
  simp only [Keeper.put, OrderedMap.insert_insert]

/-- An instance without other calls looks at a call as it was handed over. -/
theorem served_next {id : AccountId} {command : Command} (alone : state.requests = [])
    (serves : (keeper.put id (.kept (state.take command))).move? id .serve = some after) :
    after = keeper.put id
      ({ state with calls := state.calls + 1 }.serve keeper.around ⟨state.calls, command⟩) := by
  obtain ⟨found, account, present, moves, rfl⟩ := moves_of_step serves
  rw [instance?_put] at present
  obtain rfl : state.take command = found := Option.some.inj present
  cases moves with
  | @serve request rest idle requests =>
    obtain ⟨rfl, rfl⟩ : ⟨state.calls, command⟩ = request ∧ [] = rest := by
      simpa [Instance.take, alone] using requests
    have fresh : ({ state.take command with requests := [] } : Instance) =
        { state with calls := state.calls + 1 } := by
      simp [Instance.take, alone]
    rw [put_put, fresh]
    rfl

/-- A call that is rejected when its instance looks at it is only answered. -/
theorem served_rejects (reachable : keeper.Reachable) {id : AccountId} {command : Command}
    (registered : keeper.instance? id = some state) (alone : state.requests = [])
    (served : after = keeper.put id
      ({ state with calls := state.calls + 1 }.serve keeper.around ⟨state.calls, command⟩))
    (later : after.Reachable) {error : Error}
    (answer : after.result? ⟨id, state.calls⟩ = some (.error error))
    (rejected : error.kind ∈ rejections) : OnlyAnswers (.error error) keeper after := by
  have order := reachable_inOrder reachable _ (kept_of_instance? registered)
  have tally := reachable_tallied reachable (kept_of_instance? registered)
  have sound := order.1.requeue state.requests (state.calls + 1)
  rcases serve_rejects keeper.around sound alone ⟨state.calls, command⟩ with
    ⟨refusal, refused⟩ | unrejected
  · have refuses := served.trans (congrArg (keeper.put id) refused)
    have told : ⟨state.calls, .error refusal⟩ ∈ (after.ledger id).answers := by
      rw [refuses, ledger_put]
      simp [Account.ledger, Instance.answer, Ledger.answered]
    cases (result?_of_answer later told).symm.trans answer
    exact ⟨id, state, registered, refuses⟩
  · have given := (result?_iff later).mp answer
    rw [served, ledger_put] at given
    -- The ticket is new, so its answer is none that was given before.
    rcases unrejected _ given with early | accepts
    · exact absurd rfl (Nat.ne_of_lt (earlier_of_answer tally early))
    · exact absurd rejected (accepts error rfl)

/-- An operation that is rejected without having waited has no effect but its answer. -/
theorem rejections_have_no_side_effect (reachable : keeper.Reachable) {error : Error}
    (answered : Answered keeper event after (.error error)) (rejected : error.kind ∈ rejections) :
    after = keeper ∨ OnlyAnswers (.error error) keeper after := by
  generalize given : (.error error : Except Error Unit) = result at answered
  cases answered with
  | added config drawn =>
    rcases add_cases keeper config drawn with ⟨error, refused⟩ | accepted
    · rw [refused]
      exact .inl rfl
    · cases given.trans accepted
  | permitted =>
    rcases beginUpdate_cases keeper with ⟨_, same, _⟩ | ⟨permit, _⟩
    · exact .inl same
    · cases given.trans permit
  | refused asks =>
    obtain ⟨_, ⟨_, _, same⟩ | ⟨_, _, _, _, impossible, _⟩⟩ := asking_cases asks
    · exact .inl same
    · cases impossible
  | @served _ asked _ call state _ asks registered first serves answer =>
    subst given
    obtain ⟨steps, ⟨_, impossible, _⟩ | ⟨id, command, found, present, same, taken⟩⟩ :=
      asking_cases asks
    · cases impossible
    · cases same
      cases registered.symm.trans present
      have next : asked.step? (.move id .serve) = some after := serves
      have later := reachable_of_step (reachable_of_step reachable steps) next
      have served := served_next first (taken ▸ serves)
      exact .inr (served_rejects reachable registered first served later answer rejected)

/-- An instance that is starting is asked for a start. -/
theorem rejected_start_has_no_side_effect : ∃ keeper after : Keeper, keeper.Reachable ∧
    Answered keeper (.start 100001) after (.error (.alreadyRunning 100001 .starting)) ∧
    (after = keeper ∨ OnlyAnswers (.error (.alreadyRunning 100001 .starting)) keeper after) := by
  obtain ⟨keeper, reachable, checked⟩ :=
    rehearsal_reachable [rehearsedConfig 100001 []] [.start 100001, .move 100001 .serve]
      (fun keeper => (keeper.instance? 100001).any (fun state =>
        decide (state.requests = [] ∧ state.calls = 1)) = true ∧
        (((keeper.call 100001 .start).1.move? 100001 .serve).any fun after => decide
          (after.result? ⟨100001, 1⟩ = some (.error (.alreadyRunning 100001 .starting)))) = true)
      (by decide)
  obtain ⟨registered, served⟩ := checked
  obtain ⟨state, present, alone⟩ := (Option.any_eq_true _ _).mp registered
  obtain ⟨first, calls⟩ := of_decide_eq_true alone
  obtain ⟨after, serves, answer⟩ := (Option.any_eq_true _ _).mp served
  have asks : asking keeper (.start 100001) =
      some ((keeper.call 100001 .start).1, .ok ⟨100001, 1⟩) := by
    simp [asking, Keeper.call, Keeper.find, present, calls]
  have answered : Answered keeper (.start 100001) after
      (.error (.alreadyRunning 100001 .starting)) :=
    .served asks present first serves (of_decide_eq_true answer)
  exact ⟨keeper, after, reachable, answered,
    rejections_have_no_side_effect reachable answered (by decide)⟩

end BotKeeper.Proofs
