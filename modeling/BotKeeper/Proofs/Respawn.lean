import BotKeeper.Proofs.Restarts
import BotKeeper.Proofs.ScheduledRestart
import BotKeeper.Proofs.Unmoved

/-! A bot whose quick login has failed is replaced once. The end of its process comes first and may
have to be waited for, and the instance does nothing else meanwhile. After it one launch is tried.
If that fails the instance has stopped, and nothing is left to do. -/

namespace BotKeeper.Proofs

/-- The bot has been replaced: the processes that were there before are all gone. -/
structure Launched (before after : Instance) : Prop where
  phase : after.machine.phase = .starting
  code : after.machine.lastQrPayload = none
  schedule : after.restartAt = before.restartAt
  process : ∃ bot earlier, after.bots = bot :: earlier ∧ bot.isAlive = true ∧
    after.handle = some bot.pid ∧ earlier.length = before.bots.length ∧ AllGone earlier

/-- No bot could take the place of the one that was there before. -/
structure Unlaunched (before after : Instance) : Prop where
  phase : after.machine.phase = .stopped
  handle : after.handle = none
  disarmed : after.restartAt = none
  bots : after.bots.length = before.bots.length
  gone : AllGone after.bots

/-- What an instance is after the replacement of a bot that has said a line. -/
structure Respawned (around : Surroundings) (line : String) (before after : Instance) : Prop where
  restarts : after.machine.restartCount = before.machine.restartCount + 1
  tried : after.generation = before.generation + 1
  history : after.history = (before.remember around line).history
  unawaited : Unawaited after
  outcome : Launched before after ∨ Unlaunched before after

structure Replaces (around : Surroundings) (line : String) (before begun : Instance) : Prop where
  phase : begun.machine.phase = .starting
  code : begun.machine.lastQrPayload = none
  restarts : begun.machine.restartCount = before.machine.restartCount + 1
  generation : begun.generation = before.generation
  history : begun.history = (before.remember around line).history
  schedule : begun.restartAt = before.restartAt
  unawaited : Unawaited begun
  bots : begun.bots.length = before.bots.length

/-- How the replacement of a bot stands, unless the end of its process has failed. -/
inductive Succession (around : Surroundings) (line : String) (before after : Instance) : Prop where
  | awaited (replaces : Replaces around line before after) {wait : Wait} {notice : Notice}
      (busy : after.busy = some (.wait wait)) (effects : wait.effects = [.spawn, .notify notice])
      (purpose : wait.purpose = .event false)
  | done (idle : after.busy = none) (respawned : Respawned around line before after)

/-- From the failed quick login on, as long as the instance waits for the end of the process. It
is known whether that end has failed. -/
inductive Replacing (id : AccountId) (start : Keeper) : Prop → Keeper → Prop where
  | heard {after : Keeper} (happens : start.step? (.move id .receive) = some after) :
      Replacing id start (Thwarted id start (.move id .receive) after) after
  | goesOn {failed : Prop} {before after : Keeper} {event : Keeper.Event}
      (replacing : Replacing id start failed before)
      (waits : ∀ state ∈ before.instance? id, state.busy ≠ none)
      (happens : before.step? event = some after) :
      Replacing id start (failed ∨ Thwarted id before event after) after

variable {around : Surroundings} {line : String} {before state : Instance} (meanwhile : Surroundings)

private theorem autoRestart_of_room {machine : Machine} {reason : String} {now : Nat}
    (room : (recalled machine now).length < machine.policy.maxRestarts.toNat) :
    machine.autoRestart reason now =
      { machine with
        recentRestarts := recalled machine now ++ [now]
        restartCount := machine.restartCount + 1 }.transition .starting
          [.terminate false, .spawn, .notify (.autoRestarting (machine.restartCount + 1) reason)] := by
  have inside : ¬ machine.policy.maxRestarts.toNat ≤ (recalled machine now).length :=
    Nat.not_le.mpr room
  exact if_neg inside

/-- The launch at the end of a replacement. -/
theorem Replaces.spawned (replaces : Replaces around line before state) (idle : state.busy = none)
    (notice : Notice) {origin : Instance}
    (sound : Sound origin (state.perform meanwhile [.spawn, .notify notice] (.event false))) :
    Succession around line before
      (state.perform meanwhile [.spawn, .notify notice] (.event false)) := by
  obtain ⟨phase, code, restarts, generation, history, schedule, unawaited, bots⟩ := replaces
  rw [Instance.perform_spawn] at sound ⊢
  unfold Instance.spawn at sound ⊢
  cases launch : meanwhile.host.launch meanwhile.files state.config with
  | ok nothing =>
    simp only [launch] at sound ⊢
    have gone := sound.toCustody.past_gone
    refine .done idle ⟨restarts, congrArg (· + 1) generation, history, unawaited, .inl ?_⟩
    exact ⟨phase, code, schedule, _, state.bots, rfl, rfl, rfl, bots, gone⟩
  | error reason =>
    have failed : state.machine.spawnFailed =
        (state.machine.enter .stopped, ⟨.starting, .stopped, []⟩) := by
      simp [Machine.spawnFailed, Machine.transition, Phase.isStopped, phase]
    simp only [launch, Instance.launchFailed, failed] at sound ⊢
    have gone := sound.gone rfl
    refine .done idle ⟨restarts, congrArg (· + 1) generation, history, ⟨unawaited.1, rfl⟩, .inr ?_⟩
    exact ⟨rfl, rfl, rfl, bots, gone⟩

/-- The wait goes on, or the end of the process has come and the launch follows. -/
theorem Replaces.goOn (replaces : Replaces around line before state) {wait : Wait} {notice : Notice}
    (effects : wait.effects = [.spawn, .notify notice]) (purpose : wait.purpose = .event false)
    {result : Instance × Ending} (same : SameButBots state result.1)
    (length : result.1.bots.length = state.bots.length)
    (fine : ¬ ∃ error, result.2 = .failed error) {origin : Instance}
    (sound : Sound origin (Instance.goOn meanwhile wait result)) :
    Succession around line before (Instance.goOn meanwhile wait result) := by
  obtain ⟨bots, messages, ending, rfl⟩ := same.result
  have still : ∀ busy, Replaces around line before { state with bots, messages, busy } :=
    fun _ => { replaces with bots := length.trans replaces.bots }
  cases ending with
  | complete =>
    simp only [Instance.goOn, effects, purpose] at sound ⊢
    exact (still none).spawned meanwhile rfl notice sound
  | failed error => exact absurd ⟨error, rfl⟩ fine
  | awaited pressure deadline => exact .awaited (still _) rfl effects purpose

theorem Replaces.unmoved (replaces : Replaces around line before state) {event : Keeper.Event}
    {next : Instance} (unmoved : Unmoved event state next) : Replaces around line before next := by
  have length := unmoved.bots
  obtain ⟨_, _, _, _, rfl⟩ := unmoved.same
  exact { replaces with bots := length.trans replaces.bots }

section moves

variable {meanwhile} {move : Move} {account : Account}

/-- What the instance does while it waits for the end of the process. -/
theorem awaited_succession (sound : Sound state state) (replaces : Replaces around line before state)
    {wait : Wait} {notice : Notice} (busy : state.busy = some (.wait wait))
    (effects : wait.effects = [.spawn, .notify notice]) (purpose : wait.purpose = .event false)
    (moves : Moves meanwhile state move account)
    (fine : ∀ next, account = .kept next → ¬ Fails state move next) :
    ∃ next, account = .kept next ∧ Succession around line before next := by
  have left := sound.move meanwhile moves
  cases sound.awaits busy moves with
  | goesOn brought same length failed =>
    refine ⟨_, rfl, replaces.goOn meanwhile effects purpose same length ?_ left⟩
    exact fun fails => fine _ rfl (.inr (failed.mp fails))
  | givesUp bot =>
    have still : Replaces around line before (state.observe bot.giveUp) :=
      { replaces with bots := (observe_length state bot.giveUp).trans replaces.bots }
    exact ⟨_, rfl, .awaited still busy effects purpose⟩

private theorem apply_restarts {reason : String} (reported : Reported state.machine.phase)
    (room : (recalled state.machine around.uptime).length < state.machine.policy.maxRestarts.toNat) :
    ∃ machine feed notice, machine.phase = .starting ∧ machine.lastQrPayload = none ∧
      machine.restartCount = state.machine.restartCount + 1 ∧
      state.apply around (.quickLoginError reason) =
        ({ state with machine, feed, snapshot := machine.snapshot state.config.name } :
          Instance).perform around [.terminate false, .spawn, .notify notice] (.event false) := by
  have handled := (handle_reported reported reason around.uptime).trans (autoRestart_of_room room)
  have running : Phase.starting.isStopped = false := rfl
  unfold Instance.apply
  rw [handled]
  simp only [Machine.transition, running, Bool.and_false]
  exact ⟨_, _, _, rfl, rfl, rfl, rfl⟩

private theorem hear_replaces {reason : String}
    (means : classify line = some (.quickLoginError reason))
    (idle : state.busy = none) (unawaited : Unawaited state) (reported : Reported state.machine.phase)
    (room : (recalled state.machine around.uptime).length < state.machine.policy.maxRestarts.toNat) :
    ∃ begun notice, Replaces around line state begun ∧ begun.busy = none ∧
      (Unkillable begun ↔ Unkillable state) ∧ state.hear around line =
        begun.perform around [.terminate false, .spawn, .notify notice] (.event false) := by
  obtain ⟨machine, feed, notice, starting, code, restarts, applied⟩ :=
    @apply_restarts around ((state.remember around line).publish (.output state.id line)) reason
      reported room
  have heard : state.hear around line =
      ((state.remember around line).publish (.output state.id line)).apply around
        (.quickLoginError reason) := by
    simp only [Instance.hear, means]
  refine ⟨_, notice, ?_, ?_, ?_, heard.trans applied⟩
  · exact ⟨starting, code, restarts, rfl, rfl, rfl, unawaited, rfl⟩
  · exact idle
  · exact .rfl

/-- A failed quick login of a bot that has reported something begins its replacement, as long as
there is room for a restart. -/
theorem heard_succession (sound : Sound state state) (idle : state.busy = none)
    {rest : List Message} (messages : state.messages = ⟨state.generation, .line line⟩ :: rest)
    {reason : String} (means : classify line = some (.quickLoginError reason))
    (reported : Reported state.machine.phase)
    (room : (recalled state.machine around.uptime).length < state.machine.policy.maxRestarts.toNat)
    (moves : Moves around state .receive account)
    (fine : ∀ next, account = .kept next → ¬ Fails state .receive next) :
    ∃ next, account = .kept next ∧ Succession around line state next := by
  have left := sound.move around moves
  have unawaited := sound.unawaited idle reported.up.1.2
  cases moves with
  | @receive message others _ same =>
    obtain ⟨rfl, rfl⟩ := List.cons.inj (messages.symm.trans same)
    obtain ⟨begun, notice, replaces, free, killable, heard⟩ :=
      @hear_replaces around line { state with messages := rest } reason means idle unawaited reported room
    have received : ({ state with messages := rest }).receive around ⟨state.generation, .line line⟩ =
        begun.perform around [.terminate false, .spawn, .notify notice] (.event false) := by
      rw [← heard]
      exact if_pos rfl
    refine ⟨_, rfl, ?_⟩
    have fails := fine _ rfl
    rw [received, perform_terminate_goOn around free] at left fails ⊢
    have begins : Replaces around line state begun := { replaces with }
    refine begins.goOn around rfl rfl (terminate_same around begun false)
      (terminate_length around begun false) ?_ left
    rw [terminate_failed_iff, killable]
    intro unkillable
    refine fails (.inl ⟨unkillable, reported.up.1, .inr ⟨?_, reported.up.2⟩⟩)
    obtain ⟨error, failed⟩ := terminate_unkillable around begun (killable.mpr unkillable) false
    rw [failed]
    exact (congrArg _ (complete_machine _ _ _)).trans begins.phase

/-- In any other phase, or from an earlier process, a failed quick login is only taken note of. -/
theorem receive_ignored (sound : Sound state state) {message : Message} {rest : List Message}
    {reason : String} (speaks : message.report = .line line)
    (means : classify line = some (.quickLoginError reason))
    (other : message.generation = state.generation → ¬ Reported state.machine.phase) :
    ∃ history feed, ({ state with messages := rest }).receive around message =
        { state with messages := rest, history, feed } ∧
      (message.generation = state.generation → history = (state.remember around line).history ∧
        feed = state.feed ++
          [.output state.id line, .lifecycle state.id (.quickLoginError reason)]) := by
  by_cases current : message.generation = state.generation
  · have ignored : state.machine.handle (.quickLoginError reason) around.uptime =
        state.machine.stay [] := by
      have unreported := other current
      unfold Machine.handle
      cases phase : state.machine.phase <;> simp [Reported, phase] at unreported <;> simp only
    have heard : ({ state with messages := rest }).receive around message =
        ((({ state with messages := rest }).remember around line).publish
          (.output state.id line)).apply around (.quickLoginError reason) := by
      simp only [Instance.receive, current, if_true, speaks, Instance.hear, means]
      rfl
    refine ⟨(state.remember around line).history, state.feed ++ [.output state.id line] ++
      [.lifecycle state.id (.quickLoginError reason)], ?_, fun _ => ⟨rfl, by simp⟩⟩
    rw [heard, apply_ignored around (by exact ignored)]
    show ({ state with
      messages := rest
      history := _
      feed := _
      snapshot := state.machine.snapshot state.config.name } : Instance) = _
    rw [← sound.seen]
    rfl
  · exact ⟨state.history, state.feed, by simp only [Instance.receive, current, if_false],
      fun same => absurd same current⟩

end moves

/-- An instance whose bot has reported something waits for nothing. -/
theorem idle_of_reported (sound : Sound state state) (reported : Reported state.machine.phase) :
    state.busy = none := by
  cases busy : state.busy with
  | none => rfl
  | some business =>
    cases business with
    | halted =>
      have stopped := sound.halted busy
      exact absurd stopped reported.up.1.1
    | wait wait =>
      obtain ⟨plan, _⟩ := sound.waits wait busy
      generalize state.machine.phase = phase at plan reported
      generalize wait.effects = effects at plan
      generalize wait.purpose = purpose at plan
      cases plan with
      | stop | reboot | scheduledRestart | giveUp => exact absurd rfl reported.up.1.2
      | replace => exact absurd rfl reported.up.2

section keeper

variable {id : AccountId} {failed : Prop} {start keeper : Keeper}

theorem Replacing.reachable (reachable : start.Reachable) (replacing : Replacing id start failed keeper) :
    keeper.Reachable := by
  induction replacing with
  | heard happens => exact reachable_of_step reachable happens
  | goesOn _ _ happens ih => exact reachable_of_step ih happens

/-- A replacement goes on to its end, unless the end of the process fails. -/
theorem replacing_succession (reachable : start.Reachable)
    (registered : start.instance? id = some state) {rest : List Message}
    (messages : state.messages = ⟨state.generation, .line line⟩ :: rest) {reason : String}
    (means : classify line = some (.quickLoginError reason))
    (reported : Reported state.machine.phase)
    (room : (recalled state.machine start.around.uptime).length <
      state.machine.policy.maxRestarts.toNat)
    (replacing : Replacing id start failed keeper) (fine : ¬ failed) :
    ∃ after, keeper.instance? id = some after ∧ Succession start.around line state after := by
  induction replacing with
  | @heard after happens =>
    have sound := reachable_sound reachable registered
    have idle := idle_of_reported sound reported
    obtain ⟨_, account, present, moves, rfl⟩ := moves_of_step happens
    cases registered.symm.trans present
    have killable : ∀ next, account = .kept next → ¬ Fails state .receive next := by
      rintro next rfl fails
      exact fine ((thwarted_move_iff registered (instance?_put start id _)).mpr fails)
    obtain ⟨next, rfl, succession⟩ :=
      heard_succession sound idle messages means reported room moves killable
    exact ⟨next, instance?_put start id _, succession⟩
  | @goesOn failed before after event replacing waits happens ih =>
    obtain ⟨held, present, succession⟩ := ih fun fails => fine (.inl fails)
    have earlier := replacing.reachable reachable
    cases succession with
    | done idle => exact absurd idle (waits held present)
    | awaited replaces busy effects purpose =>
      rcases step_turns happens present with ⟨next, kept, unmoved⟩ | ⟨move, account, rfl, found, moves⟩
      · have still := replaces.unmoved unmoved
        obtain ⟨_, _, _, _, rfl⟩ := unmoved.same
        exact ⟨_, kept, .awaited still busy effects purpose⟩
      · have killable : ∀ next, account = .kept next → ¬ Fails held move next := by
          rintro next rfl fails
          exact fine (.inr ((thwarted_move_iff present (instance?_of_kept found)).mpr fails))
        obtain ⟨next, rfl, succession⟩ := awaited_succession (reachable_sound earlier present)
          replaces busy effects purpose moves killable
        exact ⟨next, instance?_of_kept found, succession⟩

/-- A failed quick login of a bot that has reported something, for which there is room, replaces
the bot once. Unless the end of the process fails, the restart is counted, one launch is tried when
the process is gone, and the schedule and the history are kept; if the launch fails, the instance
has stopped with nothing left to do. In any other phase, and from any other process, a failed quick
login is only taken note of. -/
theorem auto_restart_respawns_once (reachable : start.Reachable)
    (registered : start.instance? id = some state) {message : Message} {rest : List Message}
    (messages : state.messages = message :: rest) {reason : String}
    (speaks : message.report = .line line) (means : classify line = some (.quickLoginError reason)) :
    (message.generation = state.generation → Reported state.machine.phase →
      (recalled state.machine start.around.uptime).length <
        state.machine.policy.maxRestarts.toNat →
      ∀ failed keeper, Replacing id start failed keeper → ¬ failed →
        ∃ after, keeper.instance? id = some after ∧
          (after.busy = none → Respawned start.around line state after)) ∧
    ((message.generation = state.generation → ¬ Reported state.machine.phase) →
      ∀ keeper, start.step? (.move id .receive) = some keeper → ∃ history feed,
        keeper = start.put id (.kept { state with messages := rest, history, feed }) ∧
        (message.generation = state.generation →
          history = (state.remember start.around line).history ∧ feed = state.feed ++
            [.output state.id line, .lifecycle state.id (.quickLoginError reason)])) := by
  constructor
  · intro current reported room failed keeper replacing fine
    obtain ⟨generation, report⟩ := message
    cases current
    cases speaks
    obtain ⟨after, kept, succession⟩ := replacing_succession reachable registered messages means
      reported room replacing fine
    refine ⟨after, kept, fun idle => ?_⟩
    cases succession with
    | awaited replaces busy => cases idle.symm.trans busy
    | done idle respawned => exact respawned
  · intro other keeper happens
    obtain ⟨_, account, present, moves, rfl⟩ := moves_of_step happens
    cases registered.symm.trans present
    have sound := reachable_sound reachable registered
    cases moves with
    | receive idle same =>
      obtain ⟨rfl, rfl⟩ := List.cons.inj (messages.symm.trans same)
      obtain ⟨history, feed, received, noted⟩ :=
        @receive_ignored start.around line state sound message rest reason speaks means other
      exact ⟨history, feed, by rw [received], noted⟩

def replacingSteps? (id : AccountId) (keeper : Keeper) : List Keeper.Event → Option Keeper
  | [] => some keeper
  | event :: rest =>
    if (keeper.instance? id).any (·.busy.isSome) = true then
      (keeper.step? event).bind fun after =>
        if Thwarted id keeper event after then none else replacingSteps? id after rest
    else none

private theorem replacing_of_steps {between : Keeper} (replacing : Replacing id start failed between)
    (fine : ¬ failed) (events : List Keeper.Event)
    (steps : replacingSteps? id between events = some keeper) :
    ∃ failed, Replacing id start failed keeper ∧ ¬ failed := by
  induction events generalizing between failed with
  | nil => exact ⟨failed, Option.some.inj steps ▸ replacing, fine⟩
  | cons event rest ih =>
    unfold replacingSteps? at steps
    split at steps
    · rename_i waits
      obtain ⟨after, happens, steps⟩ := Option.bind_eq_some_iff.mp steps
      split at steps
      · cases steps
      · rename_i ends
        refine ih (replacing.goesOn (fun state present idle => ?_) happens) ?_ steps
        · rw [Option.mem_def.mp present] at waits
          simp [idle] at waits
        · simp [fine, ends]
    · cases steps

/-- What the bot has started keeps its output open, so its end is waited for. -/
theorem auto_restart_respawns_after_wait : ∃ (start keeper : Keeper) (before after : Instance),
    start.Reachable ∧ start.instance? 100001 = some before ∧
    keeper.instance? 100001 = some after ∧ before.machine.phase = .running ∧
    Respawned start.around "quick login error: x" before after ∧ Launched before after := by
  obtain ⟨start, reachable, checked⟩ := rehearsal_reachable [rehearsedConfig 100001 ["--leak"]]
    [.start 100001, .move 100001 .serve, .print 100001 "login success 100001\n".toUTF8.toList,
      .move 100001 .receive, .print 100001 "quick login error: x\n".toUTF8.toList]
    (fun start => (start.instance? 100001).any (fun before =>
      (start.step? (.move 100001 .receive)).any fun heard =>
        (replacingSteps? 100001 heard [.advance 2000 2000, .move 100001 (.giveUp 1),
          .move 100001 .resume]).any fun keeper => decide (
            before.messages = [⟨1, .line "quick login error: x"⟩] ∧ before.generation = 1 ∧
            before.machine.phase = .running ∧
            (recalled before.machine start.around.uptime).length <
              before.machine.policy.maxRestarts.toNat ∧
            ¬ Thwarted 100001 start (.move 100001 .receive) heard ∧
            (keeper.instance? 100001).any (fun after => after.busy.isNone &&
              after.handle.isSome) = true)) = true) (by decide +kernel)
  obtain ⟨before, registered, checked⟩ := (Option.any_eq_true _ _).mp checked
  obtain ⟨heard, happens, checked⟩ := (Option.any_eq_true _ _).mp checked
  obtain ⟨keeper, steps, checked⟩ := (Option.any_eq_true _ _).mp checked
  obtain ⟨messages, generation, running, room, begins, checked⟩ := of_decide_eq_true checked
  obtain ⟨last, kept, checked⟩ := (Option.any_eq_true _ _).mp checked
  obtain ⟨idle, held⟩ : last.busy = none ∧ last.handle.isSome = true := by simpa using checked
  have means : classify "quick login error: x" = some (.quickLoginError "x") := by decide +kernel
  obtain ⟨failed, replacing, fine⟩ := replacing_of_steps (.heard happens) begins _ steps
  obtain ⟨replaced, _⟩ := auto_restart_respawns_once reachable registered messages rfl means
  obtain ⟨after, same, respawned⟩ := replaced generation.symm (.inr running) room _ _ replacing fine
  cases kept.symm.trans same
  have ended := respawned idle
  refine ⟨start, keeper, before, last, reachable, registered, kept, running, ended, ?_⟩
  rcases ended.outcome with launched | unlaunched
  · exact launched
  · simp [unlaunched.handle] at held

end keeper

end BotKeeper.Proofs
