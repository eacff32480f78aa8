import BotKeeper.Proofs.Channel
import BotKeeper.Proofs.NamedErrors

/-! What an error about the end of a process says of the process. Between its death and the report
of its exit a process can no longer be killed, and an end that is begun or runs out in that time
fails. In every other case an end fails only for a process that is alive. -/

namespace BotKeeper.Proofs

def Living (bots : List Bot) : Prop :=
  ∃ bot ∈ bots, bot.isAlive = true

instance (bots : List Bot) : Decidable (Living bots) :=
  inferInstanceAs (Decidable (∃ bot ∈ bots, _))

/-- The process that is held is dead, and its exit has not been reported. -/
def Unreported (state : Instance) : Prop :=
  ∃ bot ∈ state.held?, bot.isAlive = false

instance (state : Instance) : Decidable (Unreported state) :=
  inferInstanceAs (Decidable (∃ bot ∈ state.held?, _))

variable {state : Instance} (around : Surroundings)

theorem Unreported.unkillable (unreported : Unreported state) : Unkillable state := by
  obtain ⟨bot, held, dead⟩ := unreported
  exact ⟨bot, held, .inl dead⟩

/-- As long as a process is held, it is the only one that may be alive. -/
theorem living_iff {bot : Bot} (custody : Custody state state) (held : state.held? = some bot) :
    Living state.bots ↔ ¬ Unreported state := by
  obtain ⟨member, there⟩ := of_held?_some held
  obtain ⟨earlier, bots, _, _, gone⟩ := custody.latest member there
  have only : Living state.bots ↔ bot.isAlive = true := by
    rw [bots]
    constructor
    · rintro ⟨other, inside, alive⟩
      rcases List.mem_cons.mp inside with same | past
      · exact same ▸ alive
      · exact Bool.noConfusion ((not_alive_of_gone (gone other past)).symm.trans alive)
    · exact fun alive => ⟨bot, by simp, alive⟩
  rw [only]
  simp [Unreported, held]

section ends

private theorem ending_complete_iff (pressure : Pressure) (deadline : Nat) :
    (state.ending pressure deadline).2 = .complete ↔
      (state.ending pressure deadline).1.held? = none := by
  unfold Instance.ending
  cases held : state.held? <;> simp [held]

private theorem kill_complete_iff :
    (state.kill around).2 = .complete ↔ (state.kill around).1.held? = none := by
  unfold Instance.kill
  cases held : state.held? with
  | none => simp [held]
  | some bot =>
    cases alive : bot.isAlive with
    | false => simp [alive, held]
    | true => cases kill : bot.conduct.onKill <;> simp [alive, kill, held, ending_complete_iff]

/-- An end is complete at once exactly if the exit of the process has been reported by then. -/
theorem terminate_complete_iff (graceful : Bool) :
    (state.terminate around graceful).2 = .complete ↔
      (state.terminate around graceful).1.held? = none := by
  unfold Instance.terminate
  cases held : state.held? with
  | none => simp [held]
  | some bot =>
    dsimp only
    split
    · exact ending_complete_iff _ _
    · exact kill_complete_iff around

/-- An end fails at once, with no process alive, exactly if the exit of a dead one is unreported. -/
theorem terminate_failed_dead_iff (custody : Custody state state) (graceful : Bool) :
    (∃ error, (state.terminate around graceful).2 = .failed error) ∧
      ¬ Living (state.terminate around graceful).1.bots ↔ Unreported state := by
  rw [terminate_failed_iff]
  constructor
  · rintro ⟨unkillable, dead⟩
    obtain ⟨error, fails⟩ := terminate_unkillable around state unkillable graceful
    obtain ⟨bot, held, _⟩ := unkillable
    rw [fails, living_iff custody held] at dead
    exact Classical.not_not.mp dead
  · intro unreported
    have unkillable := unreported.unkillable
    refine ⟨unkillable, ?_⟩
    obtain ⟨error, fails⟩ := terminate_unkillable around state unkillable graceful
    obtain ⟨bot, held, _⟩ := unkillable
    rw [fails, living_iff custody held]
    exact fun fine => fine unreported

end ends

section moves

variable {around} {move : Move} {after : Instance}

theorem complete_bots (state : Instance) (purpose : Purpose) (result : Except Error Unit) :
    (state.complete purpose result).bots = state.bots :=
  congrArg Channel.bots (channel_complete state [] false purpose result)

theorem perform_unkillable (unkillable : Unkillable state) (graceful : Bool) (rest : List Effect)
    (purpose : Purpose) :
    (state.perform around (.terminate graceful :: rest) purpose).bots = state.bots := by
  obtain ⟨error, fails⟩ := terminate_unkillable around state unkillable graceful
  rw [Instance.perform_terminate, fails]
  exact complete_bots state purpose _

/-- A bot that fails to be ended is not replaced. -/
theorem apply_unkillable {event : LifecycleEvent}
    (unkillable : ∀ message, event = .quickLoginError message → Unkillable state) :
    (state.apply around event).bots = state.bots := by
  have consequence := (handle_leads state.machine event around.uptime).consequence
  unfold Instance.apply
  generalize state.machine.handle event around.uptime = step at consequence
  obtain ⟨machine, ⟨before, last, effects⟩⟩ := step
  dsimp only at consequence ⊢
  generalize state.machine.phase = first at consequence
  generalize machine.phase = phase at consequence
  cases consequence with
  | replaced message | limited message =>
    exact perform_unkillable (by exact unkillable message rfl) _ _ _
  | ignored | offline | code | login | stopped | unstarted | crashed => exact complete_bots _ _ _

private theorem receive_unkillable (unkillable : Unkillable state) (message : Message) :
    (state.receive around message).bots = state.bots := by
  unfold Instance.receive Instance.hear
  dsimp only
  split
  · split
    · split
      · exact apply_unkillable fun _ _ => unkillable
      · rfl
    · exact apply_unkillable fun _ impossible => by cases impossible
  · rfl

private theorem stop_unkillable (unkillable : Unkillable state) (ticket : Ticket) :
    (state.stop around ticket).bots = state.bots := by
  unfold Instance.stop
  split
  · rfl
  · rcases stop_cases state.machine with ⟨_, refused⟩ | ⟨machine, graceful, _, _, stopped⟩
    · rw [refused]
      rfl
    · rw [stopped]
      exact perform_unkillable (by exact unkillable) _ _ _

private theorem scheduledRestart_unkillable (unkillable : Unkillable state) :
    (state.scheduledRestart around).bots = state.bots := by
  unfold Instance.scheduledRestart
  dsimp only
  split
  · rfl
  · rcases stop_cases state.machine with ⟨_, refused⟩ | ⟨machine, graceful, _, _, stopped⟩
    · rw [refused]
    · rw [stopped]
      exact perform_unkillable (by exact unkillable) _ _ _

private theorem serve_unkillable (unkillable : Unkillable state)
    (running : state.machine.phase ≠ .stopped)
    (request : Request) : ∃ after, state.serve around request = .kept after ∧
      after.bots = state.bots := by
  have notStopped : state.machine.phase.isStopped = false := by
    simpa [Phase.isStopped] using running
  obtain ⟨ticket, command⟩ := request
  cases command with
  | start =>
    refine ⟨_, rfl, ?_⟩
    simp only [Instance.startFor, start_running around state running]
    rfl
  | stop => exact ⟨_, rfl, stop_unkillable unkillable ticket⟩
  | reboot =>
    refine ⟨_, rfl, ?_⟩
    unfold Instance.reboot
    rw [notStopped]
    split
    · contradiction
    · split
      · rfl
      · rcases stop_cases state.machine with ⟨_, refused⟩ | ⟨machine, graceful, _, _, stopped⟩
        · rw [refused]
          rfl
        · rw [stopped]
          exact perform_unkillable (by exact unkillable) _ _ _
  | update config =>
    refine ⟨_, rfl, ?_⟩
    unfold Instance.update
    split <;> rfl
  | delete =>
    refine ⟨state.answer ticket (.error (.instanceBusy state.machine.id state.machine.phase)), ?_, rfl⟩
    simp only [Instance.serve, Instance.delete, Machine.checkIdle, notStopped, Bool.false_eq_true, if_false]

private theorem runOut_failed {wait : Wait} (busy : state.busy = some (.wait wait)) (bot : Bot)
    (fails : Unkillable state ∨ isForced state.busy = true) :
    (state.runOut around wait bot).bots = state.bots := by
  unfold Instance.runOut
  cases pressure : wait.pressure with
  | asked =>
    have unkillable : Unkillable state := fails.resolve_right (by simp [isForced, busy, pressure])
    obtain ⟨error, failed⟩ := kill_unkillable around state unkillable
    rw [failed]
    exact complete_bots _ wait.purpose _
  | forced => exact complete_bots _ wait.purpose _

/-- Where an end fails, nothing becomes of the process, and no other takes its place. -/
theorem fails_bots (sound : Sound state state) (moves : Moves around state move (.kept after))
    (fails : Fails state move after) :
    after.bots = state.bots ∧ ∃ bot, state.held? = some bot := by
  have holds : Unkillable state → ∃ bot, state.held? = some bot := fun ⟨bot, held, _⟩ => ⟨bot, held⟩
  have begun : move ≠ .timeout → Unkillable state ∧ Up state.machine.phase := by
    intro other
    rcases fails with ⟨unkillable, begins⟩ | ⟨same, _⟩
    · exact ⟨unkillable, begins.1⟩
    · exact absurd same other
  generalize result : Account.kept after = account at moves
  cases moves with
  | receive idle messages =>
    cases result
    have unkillable := (begun (by decide)).1
    exact ⟨receive_unkillable (by exact unkillable) _, holds unkillable⟩
  | @serve request rest idle requests =>
    obtain ⟨unkillable, up⟩ := begun (by decide)
    obtain ⟨next, served, same⟩ :=
      @serve_unkillable { state with requests := rest } around unkillable up.1 request
    cases result.trans served
    exact ⟨same, holds unkillable⟩
  | restart idle armed due =>
    cases result
    have unkillable := (begun (by decide)).1
    exact ⟨scheduledRestart_unkillable unkillable, holds unkillable⟩
  | conclude halted => exact absurd (sound.halted halted) (begun (by decide)).2.1
  | resume busy ended =>
    obtain ⟨bot, held⟩ := holds (begun (by decide)).1
    cases ended.symm.trans held
  | @timeout wait bot busy held due =>
    cases result
    refine ⟨runOut_failed busy bot ?_, bot, held⟩
    rcases fails with ⟨begins, _⟩ | ⟨_, survives⟩
    · exact .inl begins
    · exact survives
  | giveUp =>
    cases result
    rcases fails with ⟨_, begins⟩ | ⟨same, _⟩
    · exact absurd begins (not_beginsEnd_self _)
    · cases same

end moves

section keeper

variable {keeper after : Keeper} {id : AccountId} {event : Keeper.Event}

/-- An end that fails leaves no process of the account alive exactly if that one is dead already. -/
theorem thwarted_dead_iff (reachable : keeper.Reachable) (steps : keeper.step? event = some after)
    (thwarted : Thwarted id keeper event after) :
    ¬ Living (after.ledger id).bots ↔ ∃ state ∈ keeper.instance? id, Unreported state := by
  obtain ⟨move, moved, state, registered, next, kept, fails⟩ := thwarted
  rw [Option.mem_def] at moved registered kept
  obtain rfl := moveOf?_eq_some.mp moved
  obtain ⟨_, account, present, moves, rfl⟩ := moves_of_step steps
  cases registered.symm.trans present
  have sound := reachable_sound reachable registered
  rw [instance?_put] at kept
  cases account with
  | vacant ledger => cases kept
  | kept last =>
    cases kept
    obtain ⟨bots, bot, held⟩ := fails_bots sound moves fails
    have ledger : ((keeper.put id (.kept next)).ledger id).bots = state.bots := by
      rw [ledger_put]
      exact bots
    rw [ledger, living_iff sound.toCustody held, Classical.not_not]
    simp [registered]

/-- An end is complete when the exit of the process is reported, and fails with no process alive
only for one that is dead but whose exit is not reported. So a stop or a reboot is told of a failed
end while no process of the account is alive exactly if the end of such a process fails for it. -/
theorem end_errors_without_living_process_iff (reachable : keeper.Reachable) (id : AccountId) :
    (∀ around graceful, ∀ state ∈ keeper.instance? id,
      ((state.terminate around graceful).2 = .complete ↔
        (state.terminate around graceful).1.held? = none) ∧
      ((∃ error, (state.terminate around graceful).2 = .failed error) ∧
        ¬ Living (state.terminate around graceful).1.bots ↔ Unreported state)) ∧
    (∀ event after, keeper.step? event = some after → Thwarted id keeper event after →
      (¬ Living (after.ledger id).bots ↔ ∃ state ∈ keeper.instance? id, Unreported state)) ∧
    ∀ event after ticket, keeper.step? event = some after → keeper.result? ⟨id, ticket⟩ = none →
      ((∃ error, after.result? ⟨id, ticket⟩ = some (.error error) ∧ error.kind = .process) ∧
          ¬ Living (after.ledger id).bots ↔
        (Thwarted id keeper event after ∧ ticket ∈ callsInHand id keeper event) ∧
          ∃ state ∈ keeper.instance? id, Unreported state) := by
  refine ⟨?_, ?_, ?_⟩
  · intro around graceful state registered
    have custody := (reachable_sound reachable registered).toCustody
    exact ⟨terminate_complete_iff around graceful,
      terminate_failed_dead_iff around custody graceful⟩
  · exact fun event after steps thwarted => thwarted_dead_iff reachable steps thwarted
  · intro event after ticket steps unanswered
    rw [told_of_end_iff reachable steps unanswered]
    exact and_congr_right fun ⟨thwarted, _⟩ => thwarted_dead_iff reachable steps thwarted

/-- A bot may not be signalled any more, and the stop of its instance fails with the bot alive. -/
theorem refused_stop_leaves_living_process : ∃ keeper after : Keeper, keeper.Reachable ∧
    keeper.step? (.move 100001 .serve) = some after ∧
    keeper.result? ⟨100001, 1⟩ = none ∧
    (∃ error, after.result? ⟨100001, 1⟩ = some (.error error) ∧ error.kind = .process) ∧
    Living (after.ledger 100001).bots := by
  obtain ⟨keeper, reachable, checked⟩ :=
    rehearsal_reachable [rehearsedConfig 100001 []]
      [.start 100001, .move 100001 .serve, .alter 100001 1 { onKill := .refuses }, .stop 100001]
      (fun keeper => (keeper.step? (.move 100001 .serve)).any (fun after => decide
        (keeper.result? ⟨100001, 1⟩ = none ∧ Thwarted 100001 keeper (.move 100001 .serve) after ∧
          1 ∈ callsInHand 100001 keeper (.move 100001 .serve) ∧
          ¬ ∃ state ∈ keeper.instance? 100001, Unreported state)) = true) (by decide)
  obtain ⟨after, steps, checked⟩ := (Option.any_eq_true _ _).mp checked
  obtain ⟨unanswered, thwarted, held, reported⟩ := of_decide_eq_true checked
  have told := (told_of_end_iff reachable steps unanswered).mpr ⟨thwarted, held⟩
  obtain ⟨_, _, dead⟩ := end_errors_without_living_process_iff reachable 100001
  refine ⟨keeper, after, reachable, steps, unanswered, told, Classical.not_not.mp fun gone => ?_⟩
  exact reported ((dead _ after 1 steps unanswered).mp ⟨told, gone⟩).2

/-- A bot has exited, but what it has started keeps its output open. The stop of its instance fails
with no process alive. -/
theorem stop_fails_for_dead_process : ∃ keeper : Keeper, ∃ error, keeper.Reachable ∧
    keeper.result? ⟨100001, 1⟩ = some (.error error) ∧ error.kind = .process ∧
    ¬ Living (keeper.ledger 100001).bots := by
  obtain ⟨keeper, reachable, checked, dead⟩ :=
    rehearsal_reachable [rehearsedConfig 100001 ["--leak"]]
      [.start 100001, .move 100001 .serve, .exit 100001 (some 4), .stop 100001,
        .move 100001 .serve]
      (fun keeper => (keeper.result? ⟨100001, 1⟩).any (fun
        | .error error => error.kind == .process
        | .ok _ => false) = true ∧ ¬ Living (keeper.ledger 100001).bots) (by decide)
  obtain ⟨result, told, fails⟩ := (Option.any_eq_true _ _).mp checked
  cases result with
  | ok => cases fails
  | error error => exact ⟨keeper, error, reachable, told, by simpa using fails, dead⟩

end keeper

end BotKeeper.Proofs
