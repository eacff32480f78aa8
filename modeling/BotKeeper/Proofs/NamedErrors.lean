import BotKeeper.Proofs.Answers
import BotKeeper.Proofs.Independence

/-! Which errors say what instance they are about. A call that is refused at once names the account
that was asked for, and what an instance answers names it too. Only the failed end of a process
names none, and it is answered exactly where an end has failed for the call. -/

namespace BotKeeper.Proofs

/-- The calls for which an event may bring the process of an account to its end. -/
def callsInHand (id : AccountId) (before : Keeper) (event : Keeper.Event) : List Ticket :=
  match before.instance? id, moveOf? id event with
  | some state, some move => inHand state move
  | _, _ => []

/-- An error of an instance names it, unless an end of its process has failed. -/
def Attributed (id : AccountId) (answer : Answer) : Prop :=
  ∀ error, answer.result = .error error →
    error.kind = .updateInProgress ∨ (Names id error ↔ error.kind ≠ .process)

variable {keeper after : Keeper} {id : AccountId} {event : Keeper.Event} {ticket : Ticket}
  {error : Error}

private theorem names_instanceNotFound (id : AccountId) : Names id (.instanceNotFound id) :=
  rfl

private theorem call_refused {command : Command} {asked : Keeper}
    (refused : keeper.call id command = (asked, .error error)) : error = .instanceNotFound id := by
  unfold Keeper.call Keeper.find at refused
  cases found : keeper.instance? id <;> simp only [found] at refused <;> cases refused
  rfl

/-- Whoever is refused at once has brought a wrong config, or there is no instance. -/
theorem asking_names (about : subject? event = some id)
    (asks : asking keeper event = some (after, .error error)) :
    error.kind = .config ∨ Names id error := by
  have called : ∀ command, keeper.call id command = (after, .error error) → Names id error := by
    intro command refused
    rw [call_refused refused]
    exact names_instanceNotFound id
  cases event with
  | start | stop | reboot | delete =>
    cases about
    exact .inr (called _ (Option.some.inj asks))
  | update _ config drawn =>
    cases about
    have updates : keeper.update id config drawn = (after, .error error) := Option.some.inj asks
    unfold Keeper.update at updates
    split at updates
    · cases updates
      exact .inl rfl
    · split at updates
      · cases updates
        exact .inl rfl
      · exact .inr (called _ updates)
  | _ => cases asks

theorem Verdict.attributed {failed : Prop} {answer : Answer}
    (verdict : Verdict id failed answer.result) : Attributed id answer := by
  intro error same
  rw [same] at verdict
  exact verdict.names

private theorem step_attributed (reachable : keeper.Reachable)
    (steps : keeper.step? event = some after)
    (earlier : ∀ answer ∈ (keeper.ledger id).answers, Attributed id answer) :
    ∀ answer ∈ (after.ledger id).answers, Attributed id answer := by
  rcases (step_happens steps id).answers_or_moves with
    ⟨same, _⟩ | ⟨state, move, account, _, present, found, moves⟩
  · have answers : (after.ledger id).answers = (keeper.ledger id).answers := same
    rwa [answers]
  · obtain ⟨sound, own⟩ := reachable_inOrder reachable _ present
    intro answer member
    have told : answer ∈ account.ledger.answers := by simpa [Keeper.ledger, found] using member
    rcases move_judges sound own moves answer told with early | verdict | ⟨_, _, dropped⟩
    · exact earlier answer (by simpa [Keeper.ledger, present, Account.ledger] using early)
    · exact verdict.attributed
    · intro error same
      cases dropped.symm.trans same
      exact .inr (iff_of_true (names_instanceNotFound id) (by simp [Error.kind]))

private theorem reachable_attributed (reachable : keeper.Reachable) :
    ∀ answer ∈ (keeper.ledger id).answers, Attributed id answer := by
  obtain ⟨start, opened, run⟩ := reachable
  induction run with
  | refl => simp [Keeper.ledger, OrderedMap.get?_empty]
  | step run _ happens ih => exact step_attributed ⟨start, opened, run⟩ happens ih

/-- A call that was not answered yet is told of the failed end of a process exactly if it is in
hand when the end fails. -/
theorem told_of_end_iff (reachable : keeper.Reachable) (steps : keeper.step? event = some after)
    (unanswered : keeper.result? ⟨id, ticket⟩ = none) :
    (∃ error, after.result? ⟨id, ticket⟩ = some (.error error) ∧ error.kind = .process) ↔
      Thwarted id keeper event after ∧ ticket ∈ callsInHand id keeper event := by
  have later := reachable_of_step reachable steps
  constructor
  · rintro ⟨error, told, kind⟩
    have member := (result?_iff later).mp told
    have fresh : ⟨ticket, .error error⟩ ∉ (keeper.ledger id).answers := by
      intro early
      cases unanswered.symm.trans ((result?_iff reachable).mpr early)
    rcases (step_happens steps id).answers_or_moves with
      ⟨same, _⟩ | ⟨state, move, account, rfl, present, found, moves⟩
    · have answers : (after.ledger id).answers = (keeper.ledger id).answers := same
      exact absurd (answers ▸ member) fresh
    · obtain ⟨sound, own⟩ := reachable_inOrder reachable _ present
      have given : ⟨ticket, .error error⟩ ∈ account.ledger.answers := by
        simpa [Keeper.ledger, found] using member
      rcases move_judges sound own moves _ given with early | verdict | ⟨_, _, dropped⟩
      · exact absurd (by simpa [Keeper.ledger, present, Account.ledger] using early) fresh
      · obtain ⟨held, next, kept, fails⟩ : Thwarts state move account ticket := by
          cases verdict with
          | thwarted _ thwarts => exact thwarts
          | _ => cases kind
        have registered := instance?_of_kept present
        have moved : moveOf? id (.move id move) = some move := moveOf?_eq_some.mpr rfl
        refine ⟨⟨move, moved, state, registered, next, ?_, fails⟩, ?_⟩
        · rw [Option.mem_def, Keeper.instance?, found]
          exact kept
        · simpa only [callsInHand, registered, moved] using held
      · cases dropped
        cases kind
  · rintro ⟨⟨move, moved, state, registered, next, kept, fails⟩, held⟩
    rw [Option.mem_def] at moved registered kept
    obtain rfl := moveOf?_eq_some.mp moved
    obtain ⟨_, account, present, moves, rfl⟩ := moves_of_step steps
    cases registered.symm.trans present
    have sound := reachable_sound reachable registered
    rw [instance?_put] at kept
    simp only [callsInHand, registered, moved] at held
    obtain ⟨detail, told⟩ := thwarts_told sound moves ⟨held, next, kept, fails⟩
    refine ⟨.process detail, (result?_iff later).mpr ?_, rfl⟩
    rw [ledger_put]
    exact told

/-- An error about an instance names it, also where there is none or it was deleted while the call
was queued. The one exception is the failed end of a process: such an error names none, and a
call is answered with one exactly if it is in hand when an end fails. -/
theorem errors_name_instance_unless_end_failed (reachable : keeper.Reachable) (id : AccountId) :
    (∀ event after error, subject? event = some id →
      asking keeper event = some (after, .error error) →
      error.kind = .config ∨ Names id error) ∧
    (∀ ticket error, keeper.result? ⟨id, ticket⟩ = some (.error error) →
      error.kind = .updateInProgress ∨ (Names id error ↔ error.kind ≠ .process)) ∧
    ∀ event after ticket, keeper.step? event = some after → keeper.result? ⟨id, ticket⟩ = none →
      ((∃ error, after.result? ⟨id, ticket⟩ = some (.error error) ∧ error.kind = .process) ↔
        Thwarted id keeper event after ∧ ticket ∈ callsInHand id keeper event) := by
  refine ⟨fun event after error about asks => asking_names about asks, ?_, ?_⟩
  · intro ticket error told
    exact reachable_attributed reachable _ ((result?_iff reachable).mp told) error rfl
  · intro event after ticket steps unanswered
    exact told_of_end_iff reachable steps unanswered

/-- A reboot was queued behind the deletion of its instance. -/
theorem dropped_reboot_names_instance : ∃ keeper : Keeper, keeper.Reachable ∧
    keeper.instance? 100001 = none ∧
    keeper.result? ⟨100001, 1⟩ = some (.error (.instanceNotFound 100001)) ∧
    Names 100001 (.instanceNotFound 100001) := by
  obtain ⟨keeper, reachable, deleted, told⟩ :=
    rehearsal_reachable [rehearsedConfig 100001 []]
      [.delete 100001, .reboot 100001, .move 100001 .serve]
      (fun keeper => keeper.instance? 100001 = none ∧
        keeper.result? ⟨100001, 1⟩ = some (.error (.instanceNotFound 100001))) (by decide)
  obtain ⟨_, names, _⟩ := errors_name_instance_unless_end_failed reachable 100001
  refine ⟨keeper, reachable, deleted, told, ?_⟩
  rcases names 1 _ told with impossible | named
  · cases impossible
  · exact named.mpr (by decide)

/-- A bot is dead, but what it has started keeps its output open. A stop cannot kill it, and is
answered with an error that names no instance. -/
theorem failed_stop_names_no_instance : ∃ keeper : Keeper, ∃ error, keeper.Reachable ∧
    keeper.result? ⟨100001, 1⟩ = some (.error error) ∧ error.kind = .process ∧
    ¬ Names 100001 error := by
  obtain ⟨keeper, reachable, checked⟩ :=
    rehearsal_reachable [rehearsedConfig 100001 ["--leak"]]
      [.start 100001, .move 100001 .serve, .exit 100001 (some 4), .stop 100001,
        .move 100001 .serve]
      (fun keeper => (keeper.result? ⟨100001, 1⟩).any (fun
        | .error error => error.kind == .process
        | .ok _ => false) = true) (by decide)
  obtain ⟨result, told, fails⟩ := (Option.any_eq_true _ _).mp checked
  cases result with
  | ok => cases fails
  | error error =>
    have kind : error.kind = .process := by simpa using fails
    have attributed := reachable_attributed reachable _ ((result?_iff reachable).mp told) error rfl
    exact ⟨keeper, error, reachable, told, kind, by simpa [kind] using attributed⟩

end BotKeeper.Proofs
