import BotKeeper.Proofs.Descent
import BotKeeper.Proofs.Failures
import BotKeeper.Proofs.Recast

/-! A reboot of an instance beside a stop. Wherever a reboot has got to, a stop could be in its
place: both wait for the end of the same process, or for its exit to be reported. Each move does the
same to both, apart from the schedule, which a stop disarms at once and a reboot only when it is due.
When the instance has stopped, the stop is answered, and the reboot with the start that follows. -/

namespace BotKeeper.Proofs

variable {origin state : Instance} {ticket : Ticket} (around : Surroundings)

inductive RebootAsked (ticket : Ticket) (state : Instance) : Prop where
  | ending {wait : Wait} (busy : state.busy = some (.wait wait))
      (purpose : wait.purpose = .reboot ticket)
  | pending (start : state.pendingStart = some (.requested ticket))

theorem RebootAsked.congr (asked : RebootAsked ticket state) {after : Instance}
    (busy : after.busy = state.busy) (pending : after.pendingStart = state.pendingStart) :
    RebootAsked ticket after := by
  cases asked with
  | ending waits purpose => exact .ending (busy.trans waits) purpose
  | pending start => exact .pending (pending.trans start)

theorem RebootAsked.owed (asked : RebootAsked ticket state) : ticket ∈ owed state := by
  cases asked with
  | ending busy purpose => simp [Proofs.owed, busy, busyTickets, purpose, purposeTickets]
  | pending start => simp [Proofs.owed, start, pendingTickets]

theorem Sound.awaits_reboot (sound : Sound origin state) {wait : Wait}
    (busy : state.busy = some (.wait wait)) (purpose : wait.purpose = .reboot ticket) :
    state.machine.phase ≠ .stopped ∧ wait.effects = [] ∧ Unawaited state := by
  obtain ⟨plan, unawaited⟩ := sound.waits wait busy
  rw [purpose] at plan
  exact ⟨plan.not_stopped, plan.reboot_effects, unawaited⟩

def stopsFor (ticket : Ticket) : Business → Business
  | .wait wait => .wait { wait with purpose := .stop ticket }
  | .halted => .halted

def asStop (ticket : Ticket) (state : Instance) : Instance :=
  { state with
    busy := state.busy.map (stopsFor ticket)
    pendingStart := none
    stopWaiters := if state.pendingStart.isSome then [ticket] else []
    restartAt := none }

theorem asStop_unseen (ticket : Ticket) : Unseen (asStop ticket) :=
  ⟨fun _ => rfl, fun _ => rfl, fun _ _ => rfl, fun _ _ => rfl⟩

private theorem asStop_of_unawaited (idle : state.busy = none) (unawaited : Unawaited state) :
    asStop ticket state = { state with restartAt := none } := by
  simp only [asStop, idle, unawaited.1, unawaited.2, Option.map_none, Option.isSome_none,
    Bool.false_eq_true, if_false]

theorem held?_asStop (ticket : Ticket) (state : Instance) :
    (asStop ticket state).held? = state.held? :=
  rfl

theorem ending_asStop (ticket : Ticket) (state : Instance) (pressure : Pressure) (deadline : Nat) :
    (asStop ticket state).ending pressure deadline =
      (state.ending pressure deadline).map (asStop ticket) id := by
  unfold Instance.ending
  rw [held?_asStop]
  cases state.held? <;> rfl

private theorem kill_asStop (ticket : Ticket) (state : Instance) :
    (asStop ticket state).kill around = (state.kill around).map (asStop ticket) id := by
  unfold Instance.kill
  rw [held?_asStop]
  cases state.held? with
  | none => rfl
  | some bot =>
    cases alive : bot.isAlive with
    | false =>
      simp only [alive, Bool.false_eq_true, if_false]
      rfl
    | true =>
      simp only [alive, if_true]
      cases bot.conduct.onKill with
      | dies => exact ending_asStop ticket (state.observe (bot.die none around.now)) _ _
      | lasts => exact ending_asStop ticket state _ _
      | refuses => rfl

private theorem terminate_asStop (ticket : Ticket) (state : Instance) (graceful : Bool) :
    (asStop ticket state).terminate around graceful =
      (state.terminate around graceful).map (asStop ticket) id := by
  unfold Instance.terminate
  rw [held?_asStop]
  cases state.held? with
  | none => rfl
  | some bot =>
    dsimp only
    split
    · exact ending_asStop ticket (state.observe (bot.askToEnd around.now)) _ _
    · exact kill_asStop around ticket state

private theorem goOn_asStop {wait : Wait} (running : state.machine.phase ≠ .stopped)
    (effects : wait.effects = []) (purpose : wait.purpose = .reboot ticket)
    (unawaited : Unawaited state) {result : Instance × Ending}
    (same : SameButBots state result.1) :
    Instance.goOn around { wait with purpose := .stop ticket } (result.map (asStop ticket) id) =
      asStop ticket (Instance.goOn around wait result) := by
  have notStopped : state.machine.phase.isStopped = false := by
    simpa [Phase.isStopped] using running
  obtain ⟨bots, messages, ending, rfl⟩ := same.result
  cases ending with
  | complete =>
    simp [Instance.goOn, effects, purpose, Instance.perform_nil, Instance.complete, notStopped,
      asStop, unawaited.1]
  | failed error =>
    simp [Instance.goOn, purpose, Instance.complete, asStop, unawaited.1, Instance.answer]
  | awaited pressure deadline =>
    simp [Instance.goOn, asStop, unawaited.1, stopsFor]

private theorem apply_asStop (state : Instance) (stopping : state.machine.phase = .stopping)
    (event : LifecycleEvent) :
    (asStop ticket state).apply around event = asStop ticket (state.apply around event) := by
  have down : ¬ Up state.machine.phase := fun up => up.2 stopping
  have heard : (∀ code, event ≠ .processExited code) →
      (asStop ticket state).apply around event = asStop ticket (state.apply around event) := by
    intro present
    have ignored := handle_of_not_up down present around.uptime
    rw [apply_ignored around ignored, @apply_ignored (asStop ticket state) around event ignored]
    rfl
  cases event with
  | processExited code =>
    have same : (asStop ticket state).machine = state.machine := rfl
    simp only [Instance.apply, same, handle_exit, Machine.exited, stopping, Machine.transition]
    rfl
  | qrChallenge | quickLoginError | loginSuccess | accountOffline =>
    exact heard fun _ impossible => by cases impossible

private theorem receive_asStop (state : Instance) (stopping : state.machine.phase = .stopping)
    (message : Message) :
    (asStop ticket state).receive around message = asStop ticket (state.receive around message) := by
  have generation : (asStop ticket state).generation = state.generation := rfl
  unfold Instance.receive
  rw [generation]
  by_cases current : message.generation = state.generation
  · simp only [if_pos current]
    cases message.report with
    | line text =>
      unfold Instance.hear
      dsimp only
      cases classify text with
      | none => rfl
      | some event =>
        exact apply_asStop around ((state.remember around text).publish (.output state.id text))
          stopping event
    | exited code => exact apply_asStop around { state with handle := none } stopping _
  · simp only [if_neg current]

private theorem serve_asStop (state : Instance) (stopping : state.machine.phase = .stopping)
    (unscheduled : state.pendingStart ≠ some .scheduled) (request : Request) :
    (asStop ticket state).serve around request =
      recastAccount (asStop ticket) (state.serve around request) := by
  obtain ⟨result, answers⟩ := serve_stopping around stopping request
  rw [answers state rfl fun _ => unscheduled, answers (asStop ticket state) rfl fun _ => by simp [asStop]]
  rfl

/-- How a reboot stands after a move: it goes on, or the end of the process has failed. -/
def Reboots (ticket : Ticket) (state : Instance) : Prop :=
  RebootAsked ticket state ∨
    ∃ error : Error, error.kind = .process ∧ ⟨ticket, .error error⟩ ∈ state.answers

private theorem goOn_reboots {wait : Wait} (effects : wait.effects = [])
    (purpose : wait.purpose = .reboot ticket) {result : Instance × Ending}
    (same : SameButBots state result.1)
    (failed : ∀ error, result.2 = .failed error → error.kind = .process) :
    Reboots ticket (Instance.goOn around wait result) := by
  obtain ⟨bots, messages, ending, rfl⟩ := same.result
  cases ending with
  | complete =>
    simp only [Instance.goOn, effects, purpose, Instance.perform_nil, Instance.complete]
    exact .inl (.pending rfl)
  | failed error =>
    simp only [Instance.goOn, purpose, Instance.complete]
    exact .inr ⟨error, failed error rfl, List.mem_append_right _ (List.mem_singleton.mpr rfl)⟩
  | awaited pressure deadline => exact .inl (.ending rfl purpose)

theorem giveUp_asStop (ticket : Ticket) (state : Instance) (pid : Nat) :
    (asStop ticket state).move? around (.giveUp pid) =
      (state.move? around (.giveUp pid)).map (recastAccount (asStop ticket)) := by
  have found : (asStop ticket state).bot? pid = state.bot? pid := rfl
  simp only [Instance.move?, found]
  cases state.bot? pid with
  | none => rfl
  | some bot =>
    dsimp only
    cases bot.deadline? with
    | none => rfl
    | some deadline =>
      dsimp only
      split <;> rfl

section moves

variable (sound : Sound state state) {move : Move}
include sound

/-- While the end of the process is waited for, it makes no difference for what. -/
theorem ending_asStop_move? {wait : Wait} (busy : state.busy = some (.wait wait))
    (purpose : wait.purpose = .reboot ticket) :
    (asStop ticket state).move? around move =
      (state.move? around move).map (recastAccount (asStop ticket)) := by
  obtain ⟨running, effects, unawaited⟩ := sound.awaits_reboot busy purpose
  have waits : (asStop ticket state).busy = some (.wait { wait with purpose := .stop ticket }) := by
    simp only [asStop, busy, Option.map_some, stopsFor]
  have goesOn (result : Instance × Ending) (same : SameButBots state result.1) :
      Instance.goOn around { wait with purpose := .stop ticket } (result.map (asStop ticket) id) =
        asStop ticket (Instance.goOn around wait result) :=
    goOn_asStop around running effects purpose unawaited same
  cases move with
  | receive | serve | restart | conclude => simp only [Instance.move?, busy, waits, Option.map_none]
  | giveUp pid => exact giveUp_asStop around ticket state pid
  | resume =>
    simp only [Instance.move?, busy, waits, held?_asStop]
    cases state.held? with
    | none => exact congrArg (some ∘ Account.kept) (goesOn (state, .complete) ⟨_, _, rfl⟩)
    | some bot => rfl
  | timeout =>
    simp only [Instance.move?, busy, waits, held?_asStop]
    cases state.held? with
    | none => rfl
    | some bot =>
      have late : Instance.runOut around { wait with purpose := .stop ticket } bot (asStop ticket state) =
          asStop ticket (state.runOut around wait bot) := by
        unfold Instance.runOut
        cases wait.pressure with
        | asked =>
          dsimp only
          rw [kill_asStop]
          exact goesOn _ (kill_same around state)
        | forced => exact goesOn (state, .failed (survivedKill state.id bot.pid)) ⟨_, _, rfl⟩
      dsimp only
      rw [late]
      split <;> rfl

/-- A start that is to follow makes no difference until the instance has stopped. -/
theorem pending_asStop_move? (start : state.pendingStart = some (.requested ticket))
    (unconcluded : move = .conclude → state.busy ≠ some .halted) (undue : move ≠ .restart) :
    (asStop ticket state).move? around move =
      (state.move? around move).map (recastAccount (asStop ticket)) := by
  have pends : state.pendingStart ≠ none := by simp [start]
  have unscheduled : state.pendingStart ≠ some .scheduled := by simp [start]
  have descends := sound.pending pends
  have same : (asStop ticket state).busy = state.busy.map (stopsFor ticket) := rfl
  have messages : (asStop ticket state).messages = state.messages := rfl
  have requests : (asStop ticket state).requests = state.requests := rfl
  cases busy : state.busy with
  | none =>
    have stopping : state.machine.phase = .stopping := descends.resolve_right (by simp [busy])
    have free : (asStop ticket state).busy = none := by simp only [asStop, busy, Option.map_none]
    cases move with
    | receive =>
      cases found : state.messages with
      | nil => simp [Instance.move?, messages, found]
      | cons message rest =>
        rw [(Moves.receive busy found).move?, (Moves.receive free (messages.trans found)).move?]
        exact congrArg (some ∘ Account.kept)
          (receive_asStop around { state with messages := rest } stopping message)
    | serve =>
      cases found : state.requests with
      | nil => simp [Instance.move?, requests, found]
      | cons request rest =>
        rw [(Moves.serve busy found).move?, (Moves.serve free (requests.trans found)).move?]
        exact congrArg some
          (serve_asStop around { state with requests := rest } stopping unscheduled request)
    | restart => exact absurd rfl undue
    | giveUp pid => exact giveUp_asStop around ticket state pid
    | conclude | resume | timeout => simp only [Instance.move?, same, busy, Option.map_none]
  | some business =>
    cases business with
    | wait wait => exact absurd (sound.waits wait busy).2.1 pends
    | halted =>
      cases move with
      | receive | serve | resume | timeout =>
        simp only [Instance.move?, same, busy, Option.map_some, stopsFor, Option.map_none]
      | restart => exact absurd rfl undue
      | conclude => exact absurd busy (unconcluded rfl)
      | giveUp pid => exact giveUp_asStop around ticket state pid

theorem RebootAsked.reboots (asked : RebootAsked ticket state) {account : Account}
    (moves : Moves around state move account)
    (unconcluded : move = .conclude → state.busy ≠ some .halted) :
    ∃ next, account = .kept next ∧ Reboots ticket next := by
  cases asked with
  | @ending wait busy purpose =>
    obtain ⟨_, effects, _⟩ := sound.awaits_reboot busy purpose
    cases sound.awaits busy moves with
    | goesOn brought same =>
      exact ⟨_, rfl, goOn_reboots around effects purpose same brought.failed⟩
    | givesUp => exact ⟨_, rfl, .inl (.ending busy purpose)⟩
  | pending start =>
    have awaited : ¬ Unawaited state := fun unawaited => by simp [unawaited.1] at start
    cases sound.goesDown awaited (by simp [start]) moves with
    | further lowers => exact ⟨_, rfl, .inl (.pending (lowers.pending.trans start))⟩
    | concluded halted => exact absurd halted (unconcluded rfl)

/-- A schedule that is due during a reboot is only disarmed, as a stop has done it before. -/
theorem RebootAsked.restart_asStop (asked : RebootAsked ticket state) {account : Account}
    (moves : Moves around state .restart account) :
    account = .kept { state with restartAt := none } := by
  cases moves with
  | restart idle armed due =>
    cases asked with
    | ending busy => cases idle.symm.trans busy
    | pending start =>
      have stopping := (sound.pending (by simp [start])).resolve_right (by simp [idle])
      rw [scheduledRestart_stopping around state stopping]

end moves

private theorem stop_begins (sound : Sound origin state) (idle : state.busy = none)
    (up : Up state.machine.phase) (ticket : Ticket) :
    ∃ begun graceful, Custody origin begun ∧ begun.machine.phase = .stopping ∧ Unawaited begun ∧
      state.reboot around ticket =
        Instance.goOn around ⟨.asked, 0, [], .reboot ticket⟩ (begun.terminate around graceful) ∧
      state.stop around ticket = Instance.goOn around ⟨.asked, 0, [], .stop ticket⟩
        ((asStop ticket begun).terminate around graceful) := by
  have unawaited := sound.unawaited idle up.2
  have unscheduled : state.pendingStart ≠ some .scheduled := by simp [unawaited.1]
  have notStopped : state.machine.phase.isStopped = false := by simpa [Phase.isStopped] using up.1
  obtain ⟨machine, graceful, same, stopping, stopped⟩ :=
    (stop_cases state.machine).resolve_left fun refused => refused.1 up
  have records : Recorded origin ({ state with machine }.publishTransition
      ⟨state.machine.phase, .stopping, [.terminate graceful]⟩) :=
    sound.toRecorded.advance same _ _
  refine ⟨_, graceful, records.toCustody, stopping, unawaited, ?_, ?_⟩
  · simp only [Instance.reboot, notStopped, Bool.false_eq_true, if_false, Machine.checkReboot, up.2,
      stopped]
    exact perform_terminate_goOn around (by exact idle) graceful [] (.reboot ticket)
  · rw [asStop_of_unawaited (by exact idle) (by exact unawaited)]
    simp only [Instance.stop, unscheduled, if_false, stopped]
    exact perform_terminate_goOn around (by exact idle) graceful [] (.stop ticket)

/-- A stop and a reboot of a bot that is up begin alike. -/
theorem reboot_begins (sound : Sound origin state) (idle : state.busy = none)
    (up : Up state.machine.phase) (ticket : Ticket) :
    state.stop around ticket = asStop ticket (state.reboot around ticket) ∧
      Reboots ticket (state.reboot around ticket) := by
  obtain ⟨begun, graceful, custody, stopping, unawaited, reboots, stops⟩ :=
    stop_begins around sound idle up ticket
  have running : begun.machine.phase ≠ .stopped := by simp [stopping]
  have ends := terminate_same around begun graceful
  have brought := Brought.terminate around graceful custody
  rw [reboots, stops, terminate_asStop]
  constructor
  · exact @goOn_asStop begun ticket around ⟨.asked, 0, [], .reboot ticket⟩ running rfl rfl unawaited
      _ ends
  · exact goOn_reboots around rfl rfl ends brought.failed

section conclusion

theorem releaseStops_of_none (waiters : state.stopWaiters = []) : state.releaseStops = state := by
  simp only [Instance.releaseStops, waiters, List.map_nil, List.append_nil]
  rw [← waiters]

private theorem spawn_beside (state : Instance) (waiters : state.stopWaiters = [])
    (answers : List Answer) (calls : Nat) : { state with answers, calls }.spawn around =
      ({ (state.spawn around).1 with answers, calls }, (state.spawn around).2) := by
  unfold Instance.spawn
  dsimp only
  cases around.host.launch around.files state.config with
  | ok nothing => rfl
  | error reason =>
    unfold Instance.launchFailed
    dsimp only
    rw [releaseStops_of_none (by exact waiters), releaseStops_of_none (by exact waiters)]
    rfl

/-- What a start does does not depend on the calls, if none is to be answered with it. -/
theorem start_beside (state : Instance) (waiters : state.stopWaiters = []) (operator : Bool)
    (answers : List Answer) (calls : Nat) :
    { state with answers, calls }.start around operator =
      ({ (state.start around operator).1 with answers, calls }, (state.start around operator).2) := by
  unfold Instance.start
  split
  · rfl
  · rcases start_cases state.machine with ⟨_, refused⟩ | ⟨_, started⟩
    · simp only [refused]
    · have spawned (machine feed snapshot history) :=
        spawn_beside around { state with machine, feed, snapshot, history } waiters answers calls
      simp only [started, Instance.publishTransition, Instance.publishSnapshot, Instance.id] at spawned ⊢
      rw [spawned]
      generalize Instance.spawn around _ = result
      obtain ⟨after, _ | _⟩ := result <;> rfl

theorem startFor_beside (state : Instance) (waiters : state.stopWaiters = [])
    (answers : List Answer) (calls : Nat) (ticket : Ticket) :
    { state with answers, calls }.startFor around ticket =
      { (state.start around true).1 with
        answers := answers ++ [⟨ticket, (state.start around true).2⟩], calls } := by
  unfold Instance.startFor
  rw [start_beside around state waiters]
  rfl

def released (state : Instance) : Instance :=
  { state with busy := none, pendingStart := none, restartAt := none }

theorem afterStop_reboot (start : state.pendingStart = some (.requested ticket))
    (waiters : state.stopWaiters = []) :
    { state with busy := none }.afterStop around = (released state).startFor around ticket := by
  simp only [Instance.afterStop, start]
  rw [releaseStops_of_none (by exact waiters)]
  rfl

theorem afterStop_asStop (start : state.pendingStart = some (.requested ticket))
    (waiters : state.stopWaiters = []) :
    { asStop ticket state with busy := none }.afterStop around =
      (released state).answer ticket (.ok ()) := by
  have asked : (asStop ticket state).stopWaiters = [ticket] := by
    simp only [asStop, start, Option.isSome_some, if_true]
  have unpending : (asStop ticket state).pendingStart = none := rfl
  simp only [Instance.afterStop, unpending, Instance.releaseStops, asked, List.map_cons, List.map_nil]
  have none : (released state).stopWaiters = [] := waiters
  rw [Instance.answer, ← none]
  rfl

end conclusion

end BotKeeper.Proofs
