import BotKeeper.Proofs.Calls
import BotKeeper.Proofs.Consequences

/-! Where the answers of an instance come from. A call that was looked at is done, or one of the
checks has refused it, or its launch has failed, or the end of a process for which it had to
wait. The last of these happens only to the call that is in hand when the end fails. -/

namespace BotKeeper.Proofs

def Names (id : AccountId) (error : Error) : Prop :=
  error.get? "id" = some (toString id)

inductive Verdict (id : AccountId) (failed : Prop) : Except Error Unit → Prop where
  | done : Verdict id failed (.ok ())
  | closed : Verdict id failed (.error .updateInProgress)
  | running (phase : Phase) : Verdict id failed (.error (.alreadyRunning id phase))
  | disallowed (command : String) (phase : Phase) :
      Verdict id failed (.error (.invalidTransition id command phase))
  | busy (phase : Phase) : Verdict id failed (.error (.instanceBusy id phase))
  | unlaunched (reason : SpawnReason) (detail : String) :
      Verdict id failed (.error (.spawn id reason detail))
  | thwarted (detail : String) (fails : failed) : Verdict id failed (.error (.process detail))

def inHand (state : Instance) : Move → List Ticket
  | .serve => (state.requests.head?.map (·.ticket)).toList
  | .timeout => busyTickets state.busy
  | _ => []

/-- All answers of an instance that are new since an earlier moment come from there. -/
structure Judged (id : AccountId) (failed : Ticket → Prop) (first : Ledger) (state : Instance) :
    Prop where
  own : state.machine.id = id
  verdicts : ∀ answer ∈ state.answers,
    answer ∈ first.answers ∨ Verdict id (failed answer.ticket) answer.result

/-- The end of a process was tried for a call. If it failed, the call is answered with that. -/
inductive Tried (failed : Prop) (ticket : Ticket) (before after : Instance) : Prop where
  | going (fine : ¬ failed) (machine : after.machine = before.machine)
      (answers : after.answers = before.answers)
  | thwarted (fails : failed) (machine : after.machine = before.machine) (detail : String)
      (answers : after.answers = before.answers ++ [⟨ticket, .error (.process detail)⟩])

variable {id : AccountId} {failed : Ticket → Prop} {first : Ledger} {state : Instance}
  {ticket : Ticket} {result : Except Error Unit} (around : Surroundings)

/-- All errors of an instance name its account, but for the failed end of a process. -/
theorem Verdict.names {failed : Prop} {error : Error} (verdict : Verdict id failed (.error error)) :
    error.kind = .updateInProgress ∨ (Names id error ↔ error.kind ≠ .process) := by
  cases verdict with
  | closed => exact .inl rfl
  | running | disallowed | busy | unlaunched => exact .inr (iff_of_true rfl (by simp [Error.kind]))
  | thwarted detail =>
    refine .inr (iff_of_false ?_ (by simp [Error.kind]))
    simp only [Names, Error.get?, Error.payload, Error.detailPayload]
    split <;> exact fun named => by cases named

section ends

private theorem kill_error (state : Instance) {error : Error}
    (fails : (state.kill around).2 = .failed error) : ∃ detail, error = .process detail := by
  unfold Instance.kill at fails
  split at fails
  · cases fails
  · split at fails
    · split at fails
      · exact absurd fails (ending_not_failed _ _ _ _)
      · exact absurd fails (ending_not_failed _ _ _ _)
      · cases fails
        exact ⟨_, rfl⟩
    · cases fails
      exact ⟨_, rfl⟩

private theorem terminate_error (state : Instance) (graceful : Bool) {error : Error}
    (fails : (state.terminate around graceful).2 = .failed error) :
    ∃ detail, error = .process detail := by
  unfold Instance.terminate at fails
  split at fails
  · cases fails
  · dsimp only at fails
    split at fails
    · exact absurd fails (ending_not_failed _ _ _ _)
    · exact kill_error around state fails

theorem Tried.congr {failed other : Prop} {before after : Instance}
    (tried : Tried failed ticket before after) (same : failed ↔ other) :
    Tried other ticket before after :=
  propext same ▸ tried

theorem Tried.told {failed : Prop} {before after : Instance}
    (tried : Tried failed ticket before after) (fails : failed) :
    ∃ detail, ⟨ticket, .error (.process detail)⟩ ∈ after.answers := by
  cases tried with
  | going fine => exact absurd fails fine
  | thwarted _ _ detail answers => exact ⟨detail, by simp [answers]⟩

/-- A call that waits for the end of a process is answered at once if the end fails, and only
then. -/
theorem goOn_tried {wait : Wait} {result : Instance × Ending}
    (asks : purposeTickets wait.purpose = [ticket]) (effects : wait.effects = [])
    (running : state.machine.phase ≠ .stopped) (same : SameButBots state result.1)
    (process : ∀ {error}, result.2 = .failed error → ∃ detail, error = .process detail) :
    Tried (∃ error, result.2 = .failed error) ticket state (Instance.goOn around wait result) := by
  have notStopped : state.machine.phase.isStopped = false := by
    simpa [Phase.isStopped] using running
  obtain ⟨bots, messages, ending, rfl⟩ := same.result
  obtain ⟨pressure, deadline, _, purpose⟩ := wait
  cases effects
  cases ending with
  | complete =>
    rw [Instance.goOn, Instance.perform_nil]
    cases purpose with
    | stop =>
      simp only [Instance.complete, notStopped, Bool.false_eq_true, if_false]
      exact .going (by simp) rfl rfl
    | reboot => exact .going (by simp) rfl rfl
    | scheduledRestart | event => cases asks
  | failed error =>
    obtain ⟨detail, rfl⟩ := process rfl
    cases purpose with
    | stop | reboot =>
      cases asks
      exact .thwarted ⟨_, rfl⟩ rfl detail rfl
    | scheduledRestart | event => cases asks
  | awaited pressure deadline => exact .going (by simp) rfl rfl

/-- An end that is begun for a call fails if the process cannot be killed. -/
theorem terminate_tried (state : Instance) {purpose : Purpose}
    (asks : purposeTickets purpose = [ticket]) (idle : state.busy = none)
    (running : state.machine.phase ≠ .stopped) (graceful : Bool) :
    Tried (Unkillable state) ticket state
      (state.perform around [.terminate graceful] purpose) := by
  rw [perform_terminate_goOn around idle]
  exact (goOn_tried around asks rfl running (terminate_same around state graceful)
    (terminate_error around state graceful)).congr (terminate_failed_iff around state graceful)

end ends

namespace Judged

theorem refl (own : state.machine.id = id) : Judged id failed state.toLedger state :=
  ⟨own, fun _ => .inl⟩

theorem beside (judged : Judged id failed first state) {after : Instance}
    (own : after.machine.id = state.machine.id) (same : after.answers = state.answers) :
    Judged id failed first after :=
  ⟨own.trans judged.own, fun answer member => judged.verdicts answer (same ▸ member)⟩

theorem answer (judged : Judged id failed first state)
    (verdict : Verdict id (failed ticket) result) :
    Judged id failed first (state.answer ticket result) := by
  refine ⟨judged.own, fun answer member => ?_⟩
  rcases List.mem_append.mp member with early | late
  · exact judged.verdicts answer early
  · obtain rfl := List.mem_singleton.mp late
    exact .inr verdict

theorem releaseStops (judged : Judged id failed first state) :
    Judged id failed first state.releaseStops := by
  refine ⟨judged.own, fun answer member => ?_⟩
  rcases List.mem_append.mp member with early | late
  · exact judged.verdicts answer early
  · obtain ⟨ticket, _, rfl⟩ := List.mem_map.mp late
    exact .inr .done

theorem tried (judged : Judged id failed first state) {fails : Prop} {after : Instance}
    (tried : Tried fails ticket state after) (implies : fails → failed ticket) :
    Judged id failed first after := by
  cases tried with
  | going _ machine answers => exact judged.beside (congrArg Machine.id machine) answers
  | thwarted fails machine detail answers =>
    exact (judged.answer (.thwarted detail (implies fails))).beside (congrArg Machine.id machine)
      answers

theorem spawn (judged : Judged id failed first state) :
    Judged id failed first (state.spawn around).1 ∧
      ∀ fails, Verdict id fails (state.spawn around).2 := by
  unfold Instance.spawn
  dsimp only
  split
  · exact ⟨judged.beside rfl rfl, fun _ => .done⟩
  · have own : state.id = id := judged.own
    have machine : state.machine.spawnFailed.1.id = state.machine.id := by
      unfold Machine.spawnFailed
      split <;> rfl
    have told : Judged id failed first { state with machine := state.machine.spawnFailed.1 } :=
      judged.beside machine rfl
    refine ⟨told.releaseStops.beside rfl rfl, fun _ => ?_⟩
    exact own ▸ .unlaunched _ _

theorem start (judged : Judged id failed first state) (operator : Bool) :
    Judged id failed first (state.start around operator).1 ∧
      ∀ fails, Verdict id fails (state.start around operator).2 := by
  have own := judged.own
  unfold Instance.start
  split
  · exact ⟨judged, fun _ => .closed⟩
  · rcases start_cases state.machine with ⟨_, refused⟩ | ⟨_, started⟩
    · rw [refused]
      exact ⟨judged, fun _ => own ▸ .running _⟩
    · rw [started]
      dsimp only
      generalize begun : Instance.publishTransition _ _ = between
      have spawned : Judged id failed first (between.spawn around).1 ∧
          ∀ fails, Verdict id fails (between.spawn around).2 := by
        subst between
        exact spawn around (judged.beside rfl rfl)
      generalize between.spawn around = result at spawned
      obtain ⟨after, _ | _⟩ := result
      · exact spawned
      · exact ⟨spawned.1.beside rfl rfl, spawned.2⟩

theorem startFor (judged : Judged id failed first state) :
    Judged id failed first (state.startFor around ticket) :=
  (judged.start around true).1.answer ((judged.start around true).2 _)

/-- What is not done for a call answers none. -/
theorem complete (judged : Judged id failed first state) {purpose : Purpose}
    (unasked : purposeTickets purpose = []) (result : Except Error Unit) :
    Judged id failed first (state.complete purpose result) := by
  cases purpose with
  | stop | reboot => cases unasked
  | scheduledRestart => cases result <;> exact judged.beside rfl rfl
  | event stopped => cases stopped <;> exact judged.beside rfl rfl

theorem perform (judged : Judged id failed first state) (effects : List Effect) {purpose : Purpose}
    (unasked : purposeTickets purpose = []) :
    Judged id failed first (state.perform around effects purpose) := by
  induction effects generalizing state with
  | nil => exact judged.complete unasked _
  | cons effect rest ih =>
    cases effect with
    | notify notice =>
      apply ih
      exact judged.beside rfl rfl
    | spawn =>
      have spawned := judged.spawn around
      rw [Instance.perform_spawn]
      generalize state.spawn around = result at spawned
      obtain ⟨after, _ | nothing⟩ := result
      · exact spawned.1.complete unasked _
      · exact ih spawned.1
    | terminate graceful =>
      obtain ⟨bots, messages, ending, ends⟩ := (terminate_same around state graceful).result
      rw [Instance.perform_terminate, ends]
      have here : Judged id failed first { state with bots, messages } := judged.beside rfl rfl
      cases ending with
      | complete => exact ih here
      | failed error => exact here.complete unasked _
      | awaited pressure deadline => exact here.beside rfl rfl

theorem goOn (judged : Judged id failed first state) {wait : Wait}
    (unasked : purposeTickets wait.purpose = []) {result : Instance × Ending}
    (same : SameButBots state result.1) :
    Judged id failed first (Instance.goOn around wait result) := by
  obtain ⟨bots, messages, ending, rfl⟩ := same.result
  have freed : Judged id failed first { state with bots, messages, busy := none } :=
    judged.beside rfl rfl
  cases ending with
  | complete => exact freed.perform around wait.effects unasked
  | failed error => exact freed.complete unasked _
  | awaited pressure deadline => exact judged.beside rfl rfl

theorem afterStop (judged : Judged id failed first state) :
    Judged id failed first (state.afterStop around) := by
  unfold Instance.afterStop
  dsimp only
  have released : Judged id failed first
      ({ state with restartAt := none, pendingStart := none } : Instance).releaseStops :=
    releaseStops (judged.beside rfl rfl)
  cases state.pendingStart with
  | none => exact released
  | some start =>
    cases start with
    | requested ticket => exact released.startFor around
    | scheduled => exact (released.start around false).1

theorem scheduledRestart (judged : Judged id failed first state) :
    Judged id failed first (state.scheduledRestart around) := by
  unfold Instance.scheduledRestart
  dsimp only
  split
  · exact judged.beside rfl rfl
  · rcases stop_cases state.machine with ⟨_, refused⟩ | ⟨machine, graceful, same, _, stopped⟩
    · rw [refused]
      exact judged.beside rfl rfl
    · rw [stopped]
      apply perform
      · exact judged.beside same.id rfl
      · rfl

theorem update (judged : Judged id failed first state) (config : InstanceConfig) :
    Judged id failed first (state.update ticket config) := by
  have own := judged.own
  unfold Instance.update Machine.checkIdle
  cases state.machine.phase.isStopped with
  | true => exact answer (judged.beside rfl rfl) .done
  | false => exact judged.answer (own ▸ .busy _)

theorem apply (judged : Judged id failed first state) (event : LifecycleEvent) :
    Judged id failed first (state.apply around event) := by
  have same := (handle_leads state.machine event around.uptime).id
  apply perform
  · exact judged.beside same rfl
  · rfl

theorem hear (judged : Judged id failed first state) (line : String) :
    Judged id failed first (state.hear around line) := by
  unfold Instance.hear
  dsimp only
  have kept : Judged id failed first
      ((state.remember around line).publish (.output state.id line)) := judged.beside rfl rfl
  split
  · exact kept.apply around _
  · exact kept

theorem receive (judged : Judged id failed first state) (message : Message) :
    Judged id failed first (state.receive around message) := by
  unfold Instance.receive
  split
  · split
    · exact judged.hear around _
    · have released : Judged id failed first { state with handle := none } := judged.beside rfl rfl
      exact released.apply around _
  · exact judged

end Judged

section stops

def Stops (ticket : Ticket) (before after : Instance) : Prop :=
  ∃ begun, Tried (Unkillable before) ticket begun after ∧ begun.answers = before.answers ∧
    begun.machine.id = before.machine.id ∧ begun.machine.phase = .stopping

theorem stop_stops (sound : Sound state state) (idle : state.busy = none)
    (up : Up state.machine.phase) : Stops ticket state (state.stop around ticket) := by
  have unpending := (sound.unawaited idle up.2).1
  rcases stop_cases state.machine with ⟨down, _⟩ | ⟨machine, graceful, same, stopping, stopped⟩
  · exact absurd up down
  · rw [Instance.stop, if_neg (by simp [unpending]), stopped]
    have tried := terminate_tried around
      (({ state with machine, restartAt := none } : Instance).publishTransition
        ⟨state.machine.phase, .stopping, [.terminate graceful]⟩)
      (rfl : purposeTickets (.stop ticket) = [ticket]) idle same.still graceful
    exact ⟨_, tried.congr .rfl, rfl, same.id, stopping⟩

theorem reboot_stops (idle : state.busy = none) (up : Up state.machine.phase) :
    Stops ticket state (state.reboot around ticket) := by
  have running : state.machine.phase.isStopped = false := by simpa [Phase.isStopped] using up.1
  rcases stop_cases state.machine with ⟨down, _⟩ | ⟨machine, graceful, same, stopping, stopped⟩
  · exact absurd up down
  · simp only [Instance.reboot, running, Machine.checkReboot, up.2, stopped]
    have tried := terminate_tried around
      (({ state with machine } : Instance).publishTransition
        ⟨state.machine.phase, .stopping, [.terminate graceful]⟩)
      (rfl : purposeTickets (.reboot ticket) = [ticket]) idle same.still graceful
    exact ⟨_, tried.congr .rfl, rfl, same.id, stopping⟩

theorem Stops.phase {after : Instance} (stops : Stops ticket state after) :
    after.machine.phase = .stopping := by
  obtain ⟨begun, tried, _, _, stopping⟩ := stops
  cases tried with
  | going _ machine | thwarted _ machine => rw [machine, stopping]

theorem Stops.judged {after : Instance} (stops : Stops ticket state after)
    (judged : Judged id failed first state) (implies : Unkillable state → failed ticket) :
    Judged id failed first after := by
  obtain ⟨begun, tried, answers, own, _⟩ := stops
  exact (judged.beside own answers).tried tried implies

theorem Stops.told {after : Instance} (stops : Stops ticket state after)
    (fails : Unkillable state) : ∃ detail, ⟨ticket, .error (.process detail)⟩ ∈ after.answers := by
  obtain ⟨begun, tried, _⟩ := stops
  exact tried.told fails

/-- Where an instance is up, a call either begins the end of its process or is only answered. -/
theorem serve_up (sound : Sound state state) (idle : state.busy = none)
    (up : Up state.machine.phase) (request : Request) :
    (∃ after, state.serve around request = .kept after ∧ Stops request.ticket state after) ∨
      ∃ result, state.serve around request = .kept (state.answer request.ticket result) := by
  have running : state.machine.phase.isStopped = false := by simpa [Phase.isStopped] using up.1
  obtain ⟨ticket, command⟩ := request
  cases command with
  | start =>
    rcases start_cases state.machine with ⟨_, refused⟩ | ⟨stopped, _⟩
    · simp only [Instance.serve, Instance.startFor, Instance.start, refused]
      split
      · exact .inr ⟨_, rfl⟩
      · exact .inr ⟨_, rfl⟩
    · exact absurd stopped up.1
  | stop => exact .inl ⟨_, rfl, stop_stops around sound idle up⟩
  | reboot => exact .inl ⟨_, rfl, reboot_stops around idle up⟩
  | update config =>
    simp only [Instance.serve, Instance.update, Machine.checkIdle, running]
    exact .inr ⟨_, rfl⟩
  | delete =>
    simp only [Instance.serve, Instance.delete, Machine.checkIdle, running]
    exact .inr ⟨_, rfl⟩

end stops

section moves

variable {move : Move} {account : Account}

def Thwarts (state : Instance) (move : Move) (account : Account) (ticket : Ticket) : Prop :=
  ticket ∈ inHand state move ∧ ∃ after ∈ account.instance?, Fails state move after

def Judges (id : AccountId) (failed : Ticket → Prop) (state : Instance) (account : Account) :
    Prop :=
  ∀ answer ∈ account.ledger.answers, answer ∈ state.answers ∨
    Verdict id (failed answer.ticket) answer.result ∨
    account.instance? = none ∧ answer.ticket ∈ state.requests.map (·.ticket) ∧
      answer.result = .error (.instanceNotFound id)

theorem Judged.judges {after : Instance} (judged : Judged id failed state.toLedger after) :
    Judges id failed state (.kept after) :=
  fun answer member => (judged.verdicts answer member).imp_right .inl

private theorem stop_judged (sound : Sound state state) (idle : state.busy = none)
    (judged : Judged id failed first state)
    (implies : Up state.machine.phase → Unkillable state → failed ticket) :
    Judged id failed first (state.stop around ticket) := by
  by_cases up : Up state.machine.phase
  · exact (stop_stops around sound idle up).judged judged (implies up)
  · unfold Instance.stop
    split
    · exact judged.beside rfl rfl
    · rw [stop_refused up]
      exact judged.answer (judged.own ▸ .disallowed _ _)

private theorem reboot_judged (idle : state.busy = none) (judged : Judged id failed first state)
    (implies : Up state.machine.phase → Unkillable state → failed ticket) :
    Judged id failed first (state.reboot around ticket) := by
  by_cases up : Up state.machine.phase
  · exact (reboot_stops around idle up).judged judged (implies up)
  · unfold Instance.reboot Machine.checkReboot
    split
    · exact judged.startFor around
    · split
      · rename_i error refused
        split at refused <;> cases refused
        exact judged.answer (judged.own ▸ .disallowed _ _)
      · rw [stop_refused up]
        exact judged.answer (judged.own ▸ .disallowed _ _)

private theorem delete_judges (judged : Judged id failed state.toLedger state) :
    Judges id failed state (state.delete ticket) := by
  have own := judged.own
  unfold Instance.delete Machine.checkIdle
  cases state.machine.phase.isStopped with
  | false => exact (judged.answer (own ▸ .busy _)).judges
  | true =>
    intro answer member
    rcases List.mem_append.mp member with early | dropped
    · exact ((judged.answer .done).verdicts answer early).imp_right .inl
    · obtain ⟨request, inside, rfl⟩ := List.mem_map.mp dropped
      refine .inr (.inr ⟨rfl, List.mem_map.mpr ⟨request, inside, rfl⟩, ?_⟩)
      exact congrArg (fun id => Except.error (Error.instanceNotFound id)) own

private theorem serve_judges (sound : Sound state state) (idle : state.busy = none)
    (own : state.machine.id = id) (request : Request)
    (implies : ∀ after, state.serve around request = .kept after → Up state.machine.phase →
      Stops request.ticket state after → Unkillable state → failed request.ticket) :
    Judges id failed state (state.serve around request) := by
  have judged : Judged id failed state.toLedger state := .refl own
  obtain ⟨ticket, command⟩ := request
  cases command with
  | start => exact (judged.startFor around).judges
  | stop =>
    exact (stop_judged around sound idle judged fun up =>
      implies _ rfl up (stop_stops around sound idle up)).judges
  | reboot =>
    exact (reboot_judged around idle judged fun up =>
      implies _ rfl up (reboot_stops around idle up)).judges
  | update config => exact (judged.update config).judges
  | delete => exact delete_judges judged

variable {around}

theorem Plan.of_asked {phase : Phase} {effects : List Effect} {purpose : Purpose}
    (plan : Plan phase effects purpose) (asks : purposeTickets purpose = [ticket]) :
    effects = [] := by
  cases plan with
  | stop | reboot => rfl
  | scheduledRestart | giveUp | replace => cases asks

private theorem runOut_tried (sound : Sound state state) {wait : Wait} (bot : Bot)
    (busy : state.busy = some (.wait wait)) (asks : purposeTickets wait.purpose = [ticket]) :
    Tried (Unkillable state ∨ isForced state.busy = true) ticket state
      (state.runOut around wait bot) := by
  obtain ⟨plan, _⟩ := sound.waits wait busy
  have effects := plan.of_asked asks
  unfold Instance.runOut
  cases pressure : wait.pressure with
  | asked =>
    refine (goOn_tried around asks effects plan.not_stopped (kill_same around state)
      (kill_error around state)).congr ?_
    simp [kill_failed_iff, isForced, busy, pressure]
  | forced =>
    refine (goOn_tried around asks effects plan.not_stopped ⟨_, _, rfl⟩ fun fails => ?_).congr ?_
    · cases fails
      exact ⟨_, rfl⟩
    · simp [isForced, busy, pressure]

theorem purposeTickets_cases (purpose : Purpose) :
    purposeTickets purpose = [] ∨ ∃ ticket, purposeTickets purpose = [ticket] := by
  cases purpose with
  | stop ticket | reboot ticket => exact .inr ⟨ticket, rfl⟩
  | scheduledRestart | event => exact .inl rfl

private theorem serve_move_judges (sound : Sound state state) (own : state.machine.id = id)
    {request : Request} {rest : List Request} (idle : state.busy = none)
    (requests : state.requests = request :: rest) {account : Account}
    (served : { state with requests := rest }.serve around request = account) :
    Judges id (Thwarts state .serve account) state account := by
  have judges :
      Judges id (Thwarts state .serve account) { state with requests := rest } account := by
    rw [← served]
    refine serve_judges around (sound.requeue rest state.calls) idle own request ?_
    intro after kept up stops unkillable
    refine ⟨by simp [inHand, requests], after, by rw [kept]; rfl, .inl ⟨unkillable, up, ?_⟩⟩
    exact .inl stops.phase
  intro answer member
  rcases judges answer member with early | verdict | ⟨gone, queued, dropped⟩
  · exact .inl early
  · exact .inr (.inl verdict)
  · refine .inr (.inr ⟨gone, ?_, dropped⟩)
    rw [requests, List.map_cons]
    exact List.mem_cons_of_mem _ queued

/-- All answers of a move come from there. -/
theorem move_judges (sound : Sound state state) (own : state.machine.id = id)
    (moves : Moves around state move account) :
    Judges id (Thwarts state move account) state account := by
  have judged : ∀ {failed}, Judged id failed state.toLedger state := .refl own
  cases moves with
  | @receive message rest idle messages =>
    have dropped : ∀ {failed}, Judged id failed state.toLedger { state with messages := rest } :=
      judged.beside rfl rfl
    exact (dropped.receive around message).judges
  | serve idle requests => exact serve_move_judges sound own idle requests rfl
  | restart => exact (judged.scheduledRestart around).judges
  | conclude =>
    have freed : ∀ {failed}, Judged id failed state.toLedger { state with busy := none } :=
      judged.beside rfl rfl
    exact (freed.afterStop around).judges
  | @resume wait busy ended =>
    rcases purposeTickets_cases wait.purpose with unasked | ⟨ticket, asks⟩
    · exact (judged.goOn around unasked ⟨_, _, rfl⟩).judges
    · obtain ⟨plan, _⟩ := sound.waits wait busy
      refine (judged.tried (goOn_tried around asks (plan.of_asked asks) plan.not_stopped ⟨_, _, rfl⟩
        fun impossible => by cases impossible) fun fails => ?_).judges
      obtain ⟨error, impossible⟩ := fails
      cases impossible
  | @timeout wait bot busy held due =>
    rcases purposeTickets_cases wait.purpose with unasked | ⟨ticket, asks⟩
    · refine Judged.judges ?_
      unfold Instance.runOut
      split
      · exact judged.goOn around unasked (kill_same around state)
      · exact judged.goOn around unasked ⟨_, _, rfl⟩
    · refine (judged.tried (runOut_tried sound bot busy asks) fun fails => ?_).judges
      exact ⟨by simp [inHand, busyTickets, busy, asks], _, rfl, .inr ⟨rfl, fails⟩⟩
  | @giveUp pid deadline bot =>
    have seen : ∀ {failed}, Judged id failed state.toLedger (state.observe bot.giveUp) :=
      judged.beside rfl rfl
    exact seen.judges

theorem not_beginsEnd_self (phase : Phase) : ¬ BeginsEnd phase phase := by
  rintro ⟨up, stopping | ⟨starting, other⟩⟩
  · exact up.2 stopping
  · exact other starting

/-- A call for which the end of a process has failed is told so. -/
theorem thwarts_told (sound : Sound state state) (moves : Moves around state move account)
    (thwarts : Thwarts state move account ticket) :
    ∃ detail, ⟨ticket, .error (.process detail)⟩ ∈ account.ledger.answers := by
  obtain ⟨held, after, kept, fails⟩ := thwarts
  cases moves with
  | @serve request rest idle requests =>
    obtain rfl : request.ticket = ticket := by simpa [inHand, requests, eq_comm] using held
    obtain ⟨unkillable, begins⟩ : Unkillable state ∧
        BeginsEnd state.machine.phase after.machine.phase := by simpa [Fails] using fails
    rcases serve_up around (sound.requeue rest state.calls) idle begins.1 request with
      ⟨stopped, served, stops⟩ | ⟨result, served⟩
    · rw [served]
      exact stops.told unkillable
    · rw [served] at kept
      cases kept
      exact absurd begins (not_beginsEnd_self _)
  | @timeout wait bot busy bound due =>
    have waits : ticket ∈ purposeTickets wait.purpose := by
      simpa [inHand, busyTickets, busy] using held
    rcases purposeTickets_cases wait.purpose with unasked | ⟨other, asks⟩
    · simp [unasked] at waits
    · obtain rfl : ticket = other := by simpa [asks] using waits
      refine (runOut_tried sound bot busy asks).told ?_
      rcases fails with ⟨unkillable, _⟩ | ⟨_, fails⟩
      · exact .inl unkillable
      · exact fails
  | receive | restart | conclude | resume | giveUp => cases held

end moves

end BotKeeper.Proofs
