import Mathlib.Logic.Relation
import BotKeeper.Proofs.Consequences
import BotKeeper.Proofs.Runs

/-! What is told of an account. Its feed grows by a few kinds of steps only, each of which
goes with a phase and with the effects that are still to be carried out. Every move of an
instance is a tale of such steps, so what holds of the feed is shown by induction over them. -/

namespace BotKeeper.Proofs

/-- What has been published of an account, its phase, the effects that are still to be carried
out and how many processes it has had. -/
structure Telling where
  feed : List FeedEvent
  phase : Phase
  effects : List Effect
  launched : Nat

def changed (id : AccountId) (before after : Phase) : List FeedEvent :=
  if before = after then [] else [.phaseChanged id before after]

/-- One step of what is told of an account. Only where the end of a process fails are effects
given up, and only the schedule has its notice published. -/
inductive Tells (id : AccountId) (thwarted scheduled : Prop) : Telling → Telling → Prop where
  | heard {feed : List FeedEvent} {phase : Phase} {launched : Nat} (line : String) :
      Tells id thwarted scheduled ⟨feed, phase, [], launched⟩
        ⟨feed ++ [.output id line], phase, [], launched⟩
  | meant {feed : List FeedEvent} {before after : Phase} {effects : List Effect} {launched : Nat}
      {event : LifecycleEvent} (consequence : Consequence event before after effects) :
      Tells id thwarted scheduled ⟨feed, before, [], launched⟩
        ⟨feed ++ .lifecycle id event :: changed id before after, after, effects, launched⟩
  | begun {feed : List FeedEvent} {launched : Nat} :
      Tells id thwarted scheduled ⟨feed, .stopped, [], launched⟩
        ⟨feed ++ [.phaseChanged id .stopped .starting], .starting, [.spawn], launched⟩
  | stopped {feed : List FeedEvent} {before : Phase} {launched : Nat} (up : Up before)
      (graceful : Bool) :
      Tells id thwarted scheduled ⟨feed, before, [], launched⟩
        ⟨feed ++ [.phaseChanged id before .stopping], .stopping, [.terminate graceful], launched⟩
  | due {feed : List FeedEvent} {before : Phase} {launched : Nat} (schedule : scheduled)
      (up : Up before) (graceful : Bool) :
      Tells id thwarted scheduled ⟨feed, before, [], launched⟩
        ⟨feed ++ [.notice id .scheduledRestart, .phaseChanged id before .stopping], .stopping,
          [.terminate graceful], launched⟩
  | notified {feed : List FeedEvent} {phase : Phase} {rest : List Effect} {launched : Nat}
      (notice : Notice) :
      Tells id thwarted scheduled ⟨feed, phase, .notify notice :: rest, launched⟩
        ⟨feed ++ [.notice id notice], phase, rest, launched⟩
  | ended {feed : List FeedEvent} {phase : Phase} {rest : List Effect} {launched : Nat}
      {graceful : Bool} :
      Tells id thwarted scheduled ⟨feed, phase, .terminate graceful :: rest, launched⟩
        ⟨feed, phase, rest, launched⟩
  | spawned {feed : List FeedEvent} {rest : List Effect} {launched : Nat} :
      Tells id thwarted scheduled ⟨feed, .starting, .spawn :: rest, launched⟩
        ⟨feed, .starting, rest, launched + 1⟩
  | unspawned {feed : List FeedEvent} {rest : List Effect} {launched : Nat} :
      Tells id thwarted scheduled ⟨feed, .starting, .spawn :: rest, launched⟩
        ⟨feed ++ [.phaseChanged id .starting .stopped, .notice id (.startFailed none)], .stopped,
          [], launched⟩
  | abandoned {feed : List FeedEvent} {phase : Phase} {effects : List Effect} {launched : Nat}
      (failed : thwarted) :
      Tells id thwarted scheduled ⟨feed, phase, effects, launched⟩ ⟨feed, phase, [], launched⟩

abbrev Tale (id : AccountId) (thwarted scheduled : Prop) : Telling → Telling → Prop :=
  Relation.ReflTransGen (Tells id thwarted scheduled)

def remaining : Option Business → List Effect
  | some (.wait wait) => wait.effects
  | some .halted | none => []

def facing (state : Instance) (effects : List Effect) : Telling :=
  ⟨state.feed, state.machine.phase, effects, state.bots.length⟩

def telling (state : Instance) : Telling :=
  facing state (remaining state.busy)

variable {id : AccountId} {thwarted scheduled : Prop} (around : Surroundings) {state : Instance}

theorem telling_idle (idle : state.busy = none) : telling state = facing state [] := by
  rw [telling, idle, remaining]

theorem telling_complete (idle : state.busy = none) (purpose : Purpose)
    (result : Except Error Unit) : telling (state.complete purpose result) = facing state [] := by
  cases purpose with
  | stop ticket =>
    cases result with
    | error error => exact telling_idle idle
    | ok nothing =>
      simp only [Instance.complete]
      split
      · exact telling_idle idle
      · exact telling_idle idle
  | reboot ticket | scheduledRestart => cases result <;> exact telling_idle idle
  | event stopped =>
    cases stopped with
    | false => exact telling_idle idle
    | true => rfl

theorem complete_machine (state : Instance) (purpose : Purpose) (result : Except Error Unit) :
    (state.complete purpose result).machine = state.machine := by
  unfold Instance.complete
  split <;> first | rfl | (split <;> rfl)

/-- A launch is told of only if it fails. -/
theorem spawn_tells (named : state.machine.id = id) (idle : state.busy = none)
    (starting : state.machine.phase = .starting) (rest : List Effect) :
    (∃ after, state.spawn around = (after, .ok ()) ∧ after.machine.id = id ∧ after.busy = none ∧
      after.machine.phase = .starting ∧
      Tells id thwarted scheduled (facing state (.spawn :: rest)) (facing after rest)) ∨
    (∃ after error, state.spawn around = (after, .error error) ∧ after.busy = none ∧
      Tells id thwarted scheduled (facing state (.spawn :: rest)) (facing after [])) := by
  unfold Instance.spawn
  dsimp only
  cases around.host.launch around.files state.config with
  | ok nothing =>
    refine .inl ⟨_, rfl, named, idle, starting, ?_⟩
    have before : facing state (.spawn :: rest) =
        ⟨state.feed, .starting, .spawn :: rest, state.bots.length⟩ := by
      rw [facing, starting]
    have after : facing ({ state with generation := state.generation + 1 }.launched around) rest =
        ⟨state.feed, .starting, rest, state.bots.length + 1⟩ := by
      rw [← starting]
      rfl
    rw [before, after]
    exact .spawned
  | error reason =>
    refine .inr ⟨_, _, rfl, idle, ?_⟩
    have failed : state.machine.spawnFailed =
        (state.machine.enter .stopped, ⟨.starting, .stopped, []⟩) := by
      simp [Machine.spawnFailed, Machine.transition, Phase.isStopped, starting]
    have unspawned : Tells id thwarted scheduled
        ⟨state.feed, .starting, .spawn :: rest, state.bots.length⟩
        ⟨state.feed ++ [.phaseChanged id .starting .stopped, .notice id (.startFailed none)],
          .stopped, [], state.bots.length⟩ := .unspawned
    simp only [facing, starting, Instance.launchFailed, failed]
    subst named
    rw [List.append_cons] at unspawned
    exact unspawned

variable (state)

/-- Effects other than the end of a process are told of one after the other. -/
theorem perform_tale (named : state.machine.id = id) (idle : state.busy = none)
    {effects : List Effect} (launches : .spawn ∈ effects → state.machine.phase = .starting)
    (free : ∀ graceful, .terminate graceful ∉ effects) (purpose : Purpose) :
    Tale id thwarted scheduled (facing state effects)
      (telling (state.perform around effects purpose)) := by
  induction effects generalizing state with
  | nil =>
    rw [Instance.perform_nil, telling_complete idle]
  | cons effect rest ih =>
    have later : ∀ graceful, .terminate graceful ∉ rest := fun graceful member =>
      free graceful (List.mem_cons_of_mem _ member)
    cases effect with
    | terminate graceful => exact absurd List.mem_cons_self (free graceful)
    | notify notice =>
      rw [Instance.perform_notify]
      have notified : Tells id thwarted scheduled (facing state (.notify notice :: rest))
          (facing (state.publishNotice notice) rest) := by
        subst named
        exact .notified notice
      have starting : .spawn ∈ rest → state.machine.phase = .starting := fun member =>
        launches (List.mem_cons_of_mem _ member)
      exact .head notified (ih _ named idle starting later)
    | spawn =>
      rw [Instance.perform_spawn]
      rcases spawn_tells around named idle (launches List.mem_cons_self) rest with
        ⟨after, spawned, sameId, stillIdle, starting, tells⟩ | ⟨after, error, failed, stillIdle, tells⟩
      · rw [spawned]
        exact .head tells (ih _ sameId stillIdle (fun _ => starting) later)
      -- A launch that fails gives up what remains, so nothing is left for the induction.
      · rw [failed]
        dsimp only
        rw [telling_complete stillIdle]
        exact .single tells

private theorem observe_telling (state : Instance) (change : Bot × List Report) :
    telling (state.observe change) = telling state := by
  rw [telling, facing, observe_length]
  rfl

/-- The rest of the effects is told of when the process has ended, and given up if its end fails. -/
theorem goOn_tale (named : state.machine.id = id) (wait : Wait) {result : Instance × Ending}
    (same : SameButBots state result.1) (length : result.1.bots.length = state.bots.length)
    (launches : .spawn ∈ wait.effects → state.machine.phase = .starting)
    (free : ∀ graceful, .terminate graceful ∉ wait.effects)
    (failed : ∀ error, result.2 = .failed error → thwarted) :
    Tale id thwarted scheduled (facing state wait.effects)
      (telling (Instance.goOn around wait result)) := by
  obtain ⟨bots, messages, ending, rfl⟩ := same.result
  dsimp only at length failed
  have begins : facing state wait.effects =
      facing { state with bots, messages, busy := none } wait.effects := by
    simp only [facing, length]
  rw [begins]
  cases ending with
  | complete =>
    exact perform_tale around { state with bots, messages, busy := none } named rfl
      launches free wait.purpose
  | failed error =>
    simp only [Instance.goOn]
    rw [telling_complete rfl]
    exact .single (.abandoned (failed error rfl))
  | awaited pressure deadline => exact .refl

private theorem terminate_tale (named : state.machine.id = id) (idle : state.busy = none)
    (graceful : Bool)
    {rest : List Effect} (launches : .spawn ∈ rest → state.machine.phase = .starting)
    (free : ∀ graceful, .terminate graceful ∉ rest) (purpose : Purpose)
    (thwarts : Unkillable state →
      (state.perform around (.terminate graceful :: rest) purpose).machine.phase =
        state.machine.phase → thwarted) :
    Tale id thwarted scheduled (facing state (.terminate graceful :: rest))
      (telling (state.perform around (.terminate graceful :: rest) purpose)) := by
  have failing := terminate_failed_iff around state graceful
  have same := terminate_same around state graceful
  have length := terminate_length around state graceful
  rw [perform_terminate_goOn around idle] at thwarts ⊢
  refine .head .ended (goOn_tale around state named ⟨.asked, 0, rest, purpose⟩ same length
    launches free fun error failed => ?_)
  refine thwarts (failing.mp ⟨error, failed⟩) ?_
  -- An end that fails leaves the phase as the step has made it.
  obtain ⟨bots, messages, ending, ends⟩ := same.result
  rw [ends] at failed ⊢
  obtain rfl : ending = .failed error := failed
  simp only [Instance.goOn]
  rw [complete_machine]

/-- What is published of a step is the change of its phase. -/
theorem published_changed (outcome : Outcome) :
    outcome.published id = changed id outcome.before outcome.after := by
  simp [Outcome.published, Outcome.changed, changed]

theorem start_tale (named : state.machine.id = id) (idle : state.busy = none) (operator : Bool) :
    Tale id thwarted scheduled (telling state) (telling (state.start around operator).1) := by
  rw [telling_idle idle]
  unfold Instance.start
  split
  · rw [telling_idle idle]
  · rcases start_cases state.machine with ⟨_, refused⟩ | ⟨stopped, begun⟩
    · rw [refused]
      dsimp only
      rw [telling_idle idle]
    · rw [begun]
      dsimp only
      have begins : facing state [] = ⟨state.feed, .stopped, [], state.bots.length⟩ := by
        rw [facing, stopped]
      rw [begins]
      refine .head .begun ?_
      generalize start : ({ state with
        machine := { state.machine with recentRestarts := [] }.enter .starting
        history := if operator then [] else state.history }.publishTransition
          ⟨.stopped, .starting, [.spawn]⟩ : Instance) = begun
      have facts : begun.machine.id = id ∧ begun.busy = none ∧ begun.machine.phase = .starting ∧
          facing begun [.spawn] =
            ⟨state.feed ++ [.phaseChanged id .stopped .starting], .starting, [.spawn],
              state.bots.length⟩ := by
        subst named start
        exact ⟨rfl, idle, rfl, rfl⟩
      obtain ⟨sameId, stillIdle, starting, faces⟩ := facts
      rw [← faces]
      rcases spawn_tells around sameId stillIdle starting [] with
        ⟨after, spawned, _, free, _, tells⟩ | ⟨after, error, failed, free, tells⟩
      · rw [spawned]
        rw [← telling_idle free] at tells
        exact .single tells
      · rw [failed]
        rw [← telling_idle free] at tells
        exact .single tells

private theorem afterStop_tale (named : state.machine.id = id) (idle : state.busy = none) :
    Tale id thwarted scheduled (telling state) (telling (state.afterStop around)) := by
  unfold Instance.afterStop
  dsimp only
  split
  · exact .refl
  · exact start_tale around
      { state with restartAt := none, pendingStart := none }.releaseStops named idle true
  · exact start_tale around
      { state with restartAt := none, pendingStart := none }.releaseStops named idle false

/-- The end of a process for good is told of when it begins. -/
theorem stopping_tale (idle : state.busy = none) {machine : Machine} (named : machine.id = id)
    (up : Up state.machine.phase) (stopping : machine.phase = .stopping) (graceful : Bool)
    {feed : List FeedEvent} (restartAt : Option Nat) (purpose : Purpose)
    (begins : Tells id thwarted scheduled (facing state [])
      ⟨feed, .stopping, [.terminate graceful], state.bots.length⟩)
    {after : Instance}
    (performs : after = { state with
      machine, restartAt, feed, snapshot := machine.snapshot state.config.name }.perform around
        [.terminate graceful] purpose)
    (thwarts : Unkillable state → BeginsEnd state.machine.phase after.machine.phase → thwarted) :
    Tale id thwarted scheduled (telling state) (telling after) := by
  subst after
  rw [telling_idle idle]
  refine .head begins ?_
  rw [← stopping]
  exact terminate_tale around { state with
    machine, restartAt, feed, snapshot := machine.snapshot state.config.name } named idle graceful
      (by simp) (by simp) purpose fun unkillable same =>
        thwarts unkillable ⟨up, .inl (same.trans stopping)⟩

private theorem stop_tale (named : state.machine.id = id) (idle : state.busy = none) (ticket : Ticket)
    (thwarts : Unkillable state →
      BeginsEnd state.machine.phase (state.stop around ticket).machine.phase → thwarted) :
    Tale id thwarted scheduled (telling state) (telling (state.stop around ticket)) := by
  generalize stops : state.stop around ticket = after at thwarts ⊢
  unfold Instance.stop at stops
  split at stops
  · subst stops
    exact .refl
  · rcases stop_cases state.machine with ⟨_, refused⟩ | ⟨machine, graceful, same, stopping, stopped⟩
    · rw [refused] at stops
      subst stops
      exact .refl
    · rw [stopped] at stops
      refine stopping_tale around state idle (same.id.trans named) same.up stopping graceful none
        (.stop ticket) (.stopped same.up graceful) ?_ thwarts
      rw [← stops]
      simp only [Instance.publishTransition, published_changed, changed, same.up.2, if_false,
        Instance.publishSnapshot, Instance.id, same.id, named]

private theorem reboot_tale (named : state.machine.id = id) (idle : state.busy = none)
    (ticket : Ticket) (thwarts : Unkillable state →
      BeginsEnd state.machine.phase (state.reboot around ticket).machine.phase → thwarted) :
    Tale id thwarted scheduled (telling state) (telling (state.reboot around ticket)) := by
  generalize reboots : state.reboot around ticket = after at thwarts ⊢
  unfold Instance.reboot at reboots
  split at reboots
  · subst reboots
    exact start_tale around state named idle true
  · split at reboots
    · subst reboots
      exact .refl
    · rcases stop_cases state.machine with
        ⟨_, refused⟩ | ⟨machine, graceful, same, stopping, stopped⟩
      · rw [refused] at reboots
        subst reboots
        exact .refl
      · rw [stopped] at reboots
        refine stopping_tale around state idle (same.id.trans named) same.up stopping graceful
          state.restartAt (.reboot ticket) (.stopped same.up graceful) ?_ thwarts
        rw [← reboots]
        simp only [Instance.publishTransition, published_changed, changed, same.up.2, if_false,
          Instance.publishSnapshot, Instance.id, same.id, named]

private theorem scheduledRestart_tale (named : state.machine.id = id) (idle : state.busy = none)
    (schedule : scheduled)
    (thwarts : Unkillable state →
      BeginsEnd state.machine.phase (state.scheduledRestart around).machine.phase → thwarted) :
    Tale id thwarted scheduled (telling state) (telling (state.scheduledRestart around)) := by
  generalize restarts : state.scheduledRestart around = after at thwarts ⊢
  unfold Instance.scheduledRestart at restarts
  dsimp only at restarts
  split at restarts
  · subst restarts
    exact .refl
  · rcases stop_cases state.machine with ⟨_, refused⟩ | ⟨machine, graceful, same, stopping, stopped⟩
    · rw [refused] at restarts
      subst restarts
      exact .refl
    · rw [stopped] at restarts
      refine stopping_tale around state idle (same.id.trans named) same.up stopping graceful none
        .scheduledRestart (.due schedule same.up graceful) ?_ thwarts
      rw [← restarts]
      simp only [Instance.publishTransition, published_changed, changed, same.up.2, if_false,
        Instance.publishSnapshot, Instance.publishNotice, Instance.publish, Instance.id, same.id,
        named, List.append_assoc, List.singleton_append]

private theorem update_telling (state : Instance) (ticket : Ticket) (config : InstanceConfig) :
    telling (state.update ticket config) = telling state := by
  unfold Instance.update
  split <;> rfl

/-- An event of a bot is told of, and then what it leads to. -/
theorem apply_tale (named : state.machine.id = id) (idle : state.busy = none)
    (event : LifecycleEvent)
    (thwarts : Unkillable state →
      BeginsEnd state.machine.phase (state.apply around event).machine.phase → thwarted) :
    Tale id thwarted scheduled (telling state) (telling (state.apply around event)) := by
  have leads := handle_leads state.machine event around.uptime
  generalize applied : state.apply around event = result at thwarts ⊢
  unfold Instance.apply at applied
  generalize state.machine.handle event around.uptime = step at leads applied
  obtain ⟨machine, ⟨before, after, effects⟩⟩ := step
  obtain ⟨first, last, same, consequence⟩ := leads
  dsimp only at first last same consequence applied
  subst before after
  generalize told : (({ state with machine }.publish (.lifecycle state.id event)).publishTransition
    ⟨state.machine.phase, machine.phase, effects⟩ : Instance) = between at applied
  have facts : between.machine = machine ∧ between.busy = none ∧
      (Unkillable between ↔ Unkillable state) ∧
      facing between effects = ⟨state.feed ++ .lifecycle id event ::
        changed id state.machine.phase machine.phase, machine.phase, effects, state.bots.length⟩ := by
    subst told
    refine ⟨rfl, idle, .rfl, ?_⟩
    simp only [facing, Instance.publishTransition, published_changed, Instance.publishSnapshot,
      Instance.publish, Instance.id, same, named, List.append_assoc, List.singleton_append]
  obtain ⟨stepped, stillIdle, sameBots, faces⟩ := facts
  rw [telling_idle idle]
  refine .head (.meant consequence) ?_
  rw [← faces]
  subst applied stepped
  -- Only the first effect can wait, so the others are carried out at once or after one wait.
  rcases consequence.free with ⟨launches, free⟩ | ⟨up, ends, graceful, rest, rfl, launches, free⟩
  · exact perform_tale around between (same.trans named) stillIdle launches free _
  · refine terminate_tale around between (same.trans named) stillIdle graceful launches free _ ?_
    intro unkillable phase
    rw [← phase] at ends
    exact thwarts (sameBots.mp unkillable) ends

private theorem hear_tale (named : state.machine.id = id) (idle : state.busy = none) (line : String)
    (thwarts : Unkillable state →
      BeginsEnd state.machine.phase (state.hear around line).machine.phase → thwarted) :
    Tale id thwarted scheduled (telling state) (telling (state.hear around line)) := by
  unfold Instance.hear at thwarts ⊢
  dsimp only at thwarts ⊢
  have heard : Tells id thwarted scheduled (telling state)
      (telling ((state.remember around line).publish (.output state.id line))) := by
    rw [telling_idle idle, telling_idle (by exact idle)]
    subst named
    exact .heard line
  refine .head heard ?_
  cases means : classify line with
  | none => exact .refl
  | some event =>
    rw [means] at thwarts
    exact apply_tale around
      ((state.remember around line).publish (.output state.id line)) named idle event thwarts

/-- A report is told of, and dropped if it is of an earlier process. -/
theorem receive_tale (named : state.machine.id = id) (idle : state.busy = none) (message : Message)
    (thwarts : Unkillable state →
      BeginsEnd state.machine.phase (state.receive around message).machine.phase → thwarted) :
    Tale id thwarted scheduled (telling state) (telling (state.receive around message)) := by
  unfold Instance.receive at thwarts ⊢
  split at thwarts <;> rename_i current
  · rw [if_pos current]
    obtain ⟨generation, report⟩ := message
    cases report with
    | line text => exact hear_tale around state named idle text thwarts
    | exited code =>
      refine apply_tale around { state with handle := none } named idle _ ?_
      intro unkillable
      simp [Unkillable, Instance.held?] at unkillable
  · rw [if_neg current]

def tellingOf : Option Account → Telling
  | some (.kept state) => telling state
  | some (.vacant ledger) => ⟨ledger.feed, .stopped, [], ledger.bots.length⟩
  | none => ⟨[], .stopped, [], 0⟩

private theorem serve_tale (named : state.machine.id = id) (idle : state.busy = none)
    (request : Request)
    (thwarts : ∀ after, state.serve around request = .kept after → Unkillable state →
      BeginsEnd state.machine.phase after.machine.phase → thwarted) :
    Tale id thwarted scheduled (telling state) (tellingOf (some (state.serve around request))) := by
  obtain ⟨ticket, command⟩ := request
  cases command with
  | start => exact start_tale around state named idle true
  | stop => exact stop_tale around state named idle ticket (thwarts _ rfl)
  | reboot => exact reboot_tale around state named idle ticket (thwarts _ rfl)
  | update config =>
    rw [Instance.serve, tellingOf, update_telling]
  | delete =>
    simp only [Instance.serve, Instance.delete, Machine.checkIdle]
    cases stopped : state.machine.phase.isStopped with
    | false => exact .refl
    | true =>
      have phase : state.machine.phase = .stopped := by simpa [Phase.isStopped] using stopped
      rw [telling_idle idle, facing, phase]
      exact .refl

theorem Plan.launches {phase : Phase} {effects : List Effect} {purpose : Purpose}
    (plan : Plan phase effects purpose) : .spawn ∈ effects → phase = .starting := by
  cases plan <;> simp

theorem Plan.free {phase : Phase} {effects : List Effect} {purpose : Purpose}
    (plan : Plan phase effects purpose) (graceful : Bool) : .terminate graceful ∉ effects := by
  cases plan <;> simp

variable {around} {state}

theorem telling_waiting {wait : Wait} (busy : state.busy = some (.wait wait)) :
    telling state = facing state wait.effects := by
  rw [telling, busy, remaining]

/-- What a move makes of an instance is told of. -/
theorem move_tale (sound : Sound state state) (named : state.machine.id = id) {move : Move}
    {account : Account} (moves : Moves around state move account)
    (thwarts : ∀ after, account = .kept after → Fails state move after → thwarted)
    (restarts : move = .restart → scheduled) :
    Tale id thwarted scheduled (telling state) (tellingOf (some account)) := by
  cases moves with
  | @receive message rest idle messages =>
    exact receive_tale around { state with messages := rest } named idle message
      fun unkillable ends => thwarts _ rfl (.inl ⟨unkillable, ends⟩)
  | @serve request rest idle requests =>
    exact serve_tale around { state with requests := rest } named idle request
      fun after serves unkillable ends => thwarts after serves (.inl ⟨unkillable, ends⟩)
  | restart idle =>
    exact scheduledRestart_tale around state named idle (restarts rfl)
      fun unkillable ends => thwarts _ rfl (.inl ⟨unkillable, ends⟩)
  | conclude halted =>
    have same : telling state = telling { state with busy := none } := by
      rw [telling, halted]
      rfl
    rw [same]
    exact afterStop_tale around { state with busy := none } named rfl
  | @resume wait busy ended =>
    obtain ⟨plan, _⟩ := sound.waits wait busy
    rw [telling_waiting busy]
    exact goOn_tale around state named wait ⟨_, _, rfl⟩ rfl plan.launches plan.free (by simp)
  | @timeout wait bot busy held due =>
    obtain ⟨plan, _⟩ := sound.waits wait busy
    rw [telling_waiting busy]
    simp only [tellingOf]
    unfold Instance.runOut
    cases pressure : wait.pressure with
    | asked =>
      refine goOn_tale around state named wait (kill_same around state) (kill_length around state)
        plan.launches plan.free fun error failed => ?_
      exact thwarts _ rfl (.inr ⟨rfl, .inl ((kill_failed_iff around state).mp ⟨error, failed⟩)⟩)
    | forced =>
      refine goOn_tale around state named wait ⟨_, _, rfl⟩ rfl plan.launches plan.free
        fun error failed => ?_
      refine thwarts _ rfl (.inr ⟨rfl, .inr ?_⟩)
      simp [isForced, busy, pressure]
  | giveUp found =>
    rw [tellingOf, observe_telling]

private theorem happens_tale {event : Keeper.Event} {before after : Option Account}
    (order : ∀ account, before = some account → InOrder id account)
    (happens : Happens around id event before after)
    (thwarts : ∀ state move next, before = some (.kept state) → event = .move id move →
      after = some (.kept next) → Fails state move next → thwarted)
    (restarts : event = .move id .restart → scheduled) :
    Tale id thwarted scheduled (tellingOf before) (tellingOf after) := by
  cases happens with
  | nothing => exact .refl
  | registered policy config free same =>
    cases before with
    | none => exact .refl
    | some account =>
      cases account with
      | vacant ledger => exact .refl
      | kept state => cases free
  | called account commands brought =>
    cases before with
    | none => exact .refl
    | some account =>
      cases account with
      | vacant ledger => exact .refl
      | kept state =>
        obtain ⟨more, calls, same, _⟩ := asked_kept state commands
        rw [Option.map_some, same]
        exact .refl
  | @moved state move account same moves =>
    obtain ⟨sound, named⟩ := order _ rfl
    refine move_tale sound named moves (fun next kept => ?_) fun restart => restarts (restart ▸ same)
    exact thwarts state move next rfl same (kept ▸ rfl)
  | @observed account bot change member changes =>
    cases account with
    | vacant ledger =>
      have same : tellingOf (some ((Account.vacant ledger).observe change)) =
          tellingOf (some (.vacant ledger)) := by
        simp [Account.observe, tellingOf, Ledger.replace]
      rw [same]
    | kept state =>
      rw [Account.observe, tellingOf, tellingOf, observe_telling]

/-- What a step of a keeper makes of an account is told of. -/
theorem step_tale {keeper after : Keeper} {event : Keeper.Event} (reachable : keeper.Reachable)
    (steps : keeper.step? event = some after) (thwarts : Thwarted id keeper event after → thwarted)
    (restarts : event = .move id .restart → scheduled) :
    Tale id thwarted scheduled (tellingOf (keeper.accounts.get? id))
      (tellingOf (after.accounts.get? id)) := by
  refine happens_tale (reachable_inOrder reachable) (step_happens steps id) ?_ restarts
  intro state move next before same kept fails
  refine thwarts ⟨move, ?_, state, instance?_of_kept before, next, instance?_of_kept kept, fails⟩
  simp [same, moveOf?]

/-- All that is told of an account from the first moment of a keeper. -/
theorem reachable_tale {keeper : Keeper} (reachable : keeper.Reachable) :
    Tale id True True ⟨[], .stopped, [], 0⟩ (tellingOf (keeper.accounts.get? id)) := by
  obtain ⟨around, opened, run⟩ := reachable
  induction run with
  | refl =>
    rw [OrderedMap.get?_empty]
    exact .refl
  | step run _ happens ih =>
    exact ih.trans (step_tale ⟨around, opened, run⟩ happens (fun _ => trivial) fun _ => trivial)

theorem tellingOf_feed (keeper : Keeper) (id : AccountId) :
    (tellingOf (keeper.accounts.get? id)).feed = (keeper.ledger id).feed := by
  unfold Keeper.ledger
  rcases keeper.accounts.get? id with _ | _ | _ <;> rfl

theorem Tale.grows {told later : Telling} (tale : Tale id thwarted scheduled told later) :
    told.feed <+: later.feed := by
  induction tale with
  | refl => exact List.prefix_rfl
  | tail _ tells ih =>
    refine ih.trans ?_
    cases tells <;> first | exact List.prefix_append _ _ | exact List.prefix_rfl

/-- Whatever happens to an account, what was published of it stays published. -/
theorem step_feed {keeper after : Keeper} {event : Keeper.Event} (reachable : keeper.Reachable)
    (steps : keeper.step? event = some after) (id : AccountId) :
    (keeper.ledger id).feed <+: (after.ledger id).feed := by
  have tale : Tale id True True _ _ := step_tale reachable steps (fun _ => trivial) fun _ => trivial
  rw [← tellingOf_feed, ← tellingOf_feed]
  exact tale.grows

theorem tellingOf_launched (keeper : Keeper) (id : AccountId) :
    (tellingOf (keeper.accounts.get? id)).launched = (keeper.ledger id).bots.length := by
  unfold Keeper.ledger
  rcases keeper.accounts.get? id with _ | _ | _ <;> rfl

end BotKeeper.Proofs
