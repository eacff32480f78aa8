import BotKeeper.Proofs.Channel
import BotKeeper.Proofs.ScheduledRestart

/-! When the schedule of an instance restarts it. A deadline is set by a start that succeeds and
stays where it is for as long as the bot is up, however often the bot is replaced. Once the bot is
not up any more, nothing is due until the next start. -/

namespace BotKeeper.Proofs

def StartsUp (id : AccountId) (before after : Keeper) : Prop :=
  ∃ state ∈ before.instance? id, ∃ next ∈ after.instance? id,
    state.machine.phase = .stopped ∧ Up next.machine.phase

instance (id : AccountId) (before after : Keeper) : Decidable (StartsUp id before after) :=
  inferInstanceAs (Decidable (∃ state ∈ before.instance? id, ∃ next ∈ after.instance? id,
    state.machine.phase = .stopped ∧ (_ ∧ _)))

/-- The last start of an instance that has succeeded is the one after which the keeper was
`launch`. -/
inductive SinceStart (id : AccountId) (launch : Keeper) : Keeper → Prop where
  | started {before : Keeper} {event : Keeper.Event} (reachable : before.Reachable)
      (happens : before.step? event = some launch) (starts : StartsUp id before launch) :
      SinceStart id launch launch
  | goesOn {before after : Keeper} {event : Keeper.Event} (since : SinceStart id launch before)
      (happens : before.step? event = some after) (other : ¬ StartsUp id before after) :
      SinceStart id launch after

def HeedsEnd (id : AccountId) (before : Keeper) (event : Keeper.Event) : Prop :=
  ∃ move ∈ moveOf? id event, move = .serve ∧ ∃ state ∈ before.instance? id,
    ∃ request ∈ state.requests.head?, request.command = .stop ∨ request.command = .reboot

/-- No start of an instance has succeeded since it looked at a stop or a reboot of an operator, or
since it was stopped for whatever reason. -/
inductive Dismissed (id : AccountId) : Keeper → Prop where
  | begins {before after : Keeper} {event : Keeper.Event} (reachable : before.Reachable)
      (happens : before.step? event = some after)
      (ends : HeedsEnd id before event ∨
        ∃ state ∈ after.instance? id, state.machine.phase = .stopped)
      (other : ¬ StartsUp id before after) : Dismissed id after
  | goesOn {before after : Keeper} {event : Keeper.Event} (dismissed : Dismissed id before)
      (happens : before.step? event = some after) (other : ¬ StartsUp id before after) :
      Dismissed id after

/-- The schedule of the config that was started with is enabled, and its interval is over. -/
def InTime (id : AccountId) (launch keeper : Keeper) : Prop :=
  ∃ first ∈ launch.instance? id, first.config.autoRestart.enable = true ∧
    launch.around.now + first.config.autoRestart.interval.seconds * 1000 ≤ keeper.around.now

def Unannounced (id : AccountId) (launch keeper : Keeper) : Prop :=
  ∃ said, (keeper.ledger id).feed = (launch.ledger id).feed ++ said ∧
    .notice id .scheduledRestart ∉ said

/-- As long as the bot is up, the deadline is the one that was set when it was started. -/
def DeadlineKept (id : AccountId) (launch keeper : Keeper) : Prop :=
  ∀ first ∈ launch.instance? id, ∀ state ∈ keeper.instance? id,
    Up state.machine.phase → state.restartAt = first.restartAt

/-- A restart is announced while the bot is up, and its end begins at once. -/
def AnnouncedInPhase (id : AccountId) (before after : Keeper) : Prop :=
  ∃ state ∈ before.instance? id, Up state.machine.phase ∧
    (after.ledger id).feed = (before.ledger id).feed ++
      [.notice id .scheduledRestart, .phaseChanged id state.machine.phase .stopping]

def Abides (before after : Instance) : Prop :=
  Up after.machine.phase → Up before.machine.phase ∧ after.restartAt = before.restartAt

/-- A stopped instance was started, and its schedule was set by the config that it has. -/
structure Arms (around : Surroundings) (before after : Instance) : Prop where
  stopped : before.machine.phase = .stopped
  deadline : ∃ draw, after.restartAt =
    (after.config.autoRestart.nextDelay? draw).map fun seconds => around.now + seconds * 1000

def Fares (around : Surroundings) (before after : Instance) : Prop :=
  Abides before after ∨ Arms around before after

namespace Abides

variable {first second third : Instance}

theorem refl (state : Instance) : Abides state state :=
  fun up => ⟨up, rfl⟩

theorem of_same (phase : second.machine.phase = first.machine.phase)
    (deadline : second.restartAt = first.restartAt) : Abides first second :=
  fun up => ⟨phase ▸ up, deadline⟩

theorem of_down (down : ¬ Up second.machine.phase) : Abides first second :=
  fun up => absurd up down

theorem trans (one : Abides first second) (other : Abides second third) : Abides first third := by
  intro up
  obtain ⟨between, later⟩ := other up
  obtain ⟨before, earlier⟩ := one between
  exact ⟨before, later.trans earlier⟩

end Abides

theorem Fares.frame {around : Surroundings} {first second third : Instance}
    (fares : Fares around second third) (phase : second.machine.phase = first.machine.phase)
    (deadline : second.restartAt = first.restartAt) : Fares around first third := by
  rcases fares with abides | arms
  · exact .inl ((Abides.of_same phase deadline).trans abides)
  · exact .inr ⟨phase.symm.trans arms.stopped, arms.deadline⟩

theorem not_up_stopped {phase : Phase} (stopped : phase = .stopped) : ¬ Up phase :=
  fun up => up.1 stopped

theorem not_up_stopping {phase : Phase} (stopping : phase = .stopping) : ¬ Up phase :=
  fun up => up.2 stopping

section moves

variable (around : Surroundings) (state : Instance)

private theorem complete_abides (purpose : Purpose) (result : Except Error Unit) :
    Abides state (state.complete purpose result) := by
  refine .of_same (congrArg Machine.phase (complete_machine state purpose result)) ?_
  unfold Instance.complete
  split <;> first | rfl | (split <;> rfl)

private theorem perform_terminate_feed (graceful : Bool) (purpose : Purpose) :
    (state.perform around [.terminate graceful] purpose).feed = state.feed := by
  obtain ⟨bots, messages, ending, ends⟩ := (terminate_same around state graceful).result
  rw [Instance.perform_terminate, ends]
  cases ending with
  | complete => exact congrArg Channel.feed (channel_complete _ [] false purpose _)
  | failed error => exact congrArg Channel.feed (channel_complete _ [] false purpose _)
  | awaited pressure deadline => rfl

private theorem spawnFailed_stopped (machine : Machine) : machine.spawnFailed.1.phase = .stopped := by
  unfold Machine.spawnFailed
  split
  · rename_i stopped
    exact beq_iff_eq.mp stopped
  · rfl

private theorem spawn_abides : Abides state (state.spawn around).1 := by
  unfold Instance.spawn
  dsimp only
  split
  · exact .of_same rfl rfl
  · exact .of_down (not_up_stopped (spawnFailed_stopped state.machine))

private theorem brought_abides {result : Instance × Ending} (same : SameButBots state result.1) :
    Abides state result.1 := by
  obtain ⟨bots, messages, same⟩ := same
  rw [same]
  exact .of_same rfl rfl

/-- A bot that takes the place of another one has the deadline of that one. -/
theorem abides_carries : Carries around Abides where
  trans := Abides.trans
  notice := fun _ _ => .of_same rfl rfl
  spawn := spawn_abides around
  terminate := fun state graceful => brought_abides state (terminate_same around state graceful)
  busy := fun _ _ => .of_same rfl rfl
  complete := complete_abides

/-- A start that succeeds sets the deadline. -/
theorem start_fares (operator : Bool) : Fares around state (state.start around operator).1 := by
  unfold Instance.start
  split
  · exact .inl (.refl state)
  · rcases start_cases state.machine with ⟨_, refused⟩ | ⟨stopped, started⟩
    · rw [refused]
      exact .inl (.refl state)
    · rw [started]
      dsimp only
      generalize Instance.publishTransition _ _ = between
      unfold Instance.spawn
      dsimp only
      cases around.host.launch around.files between.config with
      | ok nothing => exact .inr ⟨stopped, _, rfl⟩
      | error reason => exact .inl (.of_down (not_up_stopped (spawnFailed_stopped between.machine)))

private theorem startFor_fares (ticket : Ticket) :
    Fares around state (state.startFor around ticket) := by
  rcases start_fares around state true with abides | arms
  · exact .inl (abides.trans (.of_same rfl rfl))
  · exact .inr ⟨arms.stopped, arms.deadline⟩

/-- An instance that goes over to being stopped is not up after it. -/
theorem stopping_down {between : Instance} (stopping : between.machine.phase = .stopping)
    (effects : List Effect) (purpose : Purpose) :
    ¬ Up (between.perform around effects purpose).machine.phase :=
  fun up => not_up_stopping stopping ((abides_carries around).perform between effects purpose up).1

variable {state}

/-- A stop leaves no bot that is up, also where it is refused. -/
theorem stop_down (sound : Sound state state) (idle : state.busy = none) (ticket : Ticket) :
    ¬ Up (state.stop around ticket).machine.phase := by
  unfold Instance.stop
  split
  · rename_i scheduled
    have pending : state.pendingStart ≠ none := by simp [scheduled]
    exact not_up_stopping ((sound.pending pending).resolve_right (by simp [idle]))
  · rcases stop_cases state.machine with
      ⟨down, refused⟩ | ⟨machine, graceful, same, stopping, stopped⟩
    · rw [refused]
      exact down
    · rw [stopped]
      exact stopping_down around (by exact stopping) _ _

private theorem reboot_fares (ticket : Ticket) :
    ¬ Up (state.reboot around ticket).machine.phase ∨
      Arms around state (state.reboot around ticket) := by
  unfold Instance.reboot
  split
  · rename_i stopped
    have down : ¬ Up state.machine.phase :=
      not_up_stopped (by simpa [Phase.isStopped] using stopped)
    rcases startFor_fares around state ticket with abides | arms
    · exact .inl fun up => down (abides up).1
    · exact .inr arms
  · rename_i running
    refine .inl ?_
    split
    · rename_i error refused
      unfold Machine.checkReboot at refused
      split at refused
      · rename_i stopping
        exact not_up_stopping stopping
      · cases refused
    · rcases stop_cases state.machine with
        ⟨down, refused⟩ | ⟨machine, graceful, same, stopping, stopped⟩
      · rw [refused]
        exact down
      · rw [stopped]
        exact stopping_down around (by exact stopping) _ _

private theorem scheduledRestart_down (sound : Sound state state) (idle : state.busy = none) :
    ¬ Up (state.scheduledRestart around).machine.phase := by
  unfold Instance.scheduledRestart
  dsimp only
  split
  · rename_i refuses
    simp only [Bool.or_eq_true] at refuses
    rcases refuses with stopped | pending
    · exact not_up_stopped (by simpa [Phase.isStopped] using stopped)
    · have some : state.pendingStart ≠ none := Option.isSome_iff_ne_none.mp pending
      exact not_up_stopping ((sound.pending some).resolve_right (by simp [idle]))
  · rcases stop_cases state.machine with
      ⟨down, refused⟩ | ⟨machine, graceful, same, stopping, stopped⟩
    · rw [refused]
      exact down
    · rw [stopped]
      exact stopping_down around (by exact stopping) _ _

theorem Consequence.up {event : LifecycleEvent} {before after : Phase} {effects : List Effect}
    (consequence : Consequence event before after effects) (up : Up after) : Up before := by
  cases consequence with
  | ignored | offline => exact up
  | code => simp [Up]
  | login account expected => rcases expected with rfl | rfl <;> simp [Up]
  | replaced message attempt reported => exact reported.up.1
  | limited => exact absurd rfl up.2
  | stopped | unstarted | crashed => exact absurd rfl up.1

variable (state)

private theorem apply_abides (event : LifecycleEvent) : Abides state (state.apply around event) := by
  have leads := handle_leads state.machine event around.uptime
  unfold Instance.apply
  generalize state.machine.handle event around.uptime = step at leads
  obtain ⟨machine, outcome⟩ := step
  have reacts : Abides state
      (({ state with machine }.publish (.lifecycle state.id event)).publishTransition outcome) :=
    fun up => ⟨leads.consequence.up up, rfl⟩
  exact reacts.trans ((abides_carries around).perform _ outcome.effects _)

private theorem receive_abides (message : Message) : Abides state (state.receive around message) := by
  unfold Instance.receive
  split
  · cases message.report with
    | exited code => exact apply_abides around { state with handle := none } _
    | line text =>
      simp only [Instance.hear]
      cases classify text with
      | none => exact .of_same rfl rfl
      | some event =>
        exact apply_abides around ((state.remember around text).publish (.output state.id text))
          event
  · exact .refl state

variable {around} {state}

private theorem move_fares (sound : Sound state state) {move : Move} {next : Instance}
    (moves : Moves around state move (.kept next)) : Fares around state next := by
  generalize kept : Account.kept next = account at moves
  cases moves with
  | @receive message rest idle messages =>
    cases kept
    exact .inl (receive_abides around { state with messages := rest } message)
  | @serve request rest idle requests =>
    have queued := sound.requeue rest state.calls
    obtain ⟨ticket, command⟩ := request
    cases command with
    | start =>
      cases kept
      exact (startFor_fares around { state with requests := rest } ticket).frame rfl rfl
    | stop =>
      cases kept
      exact .inl (.of_down (stop_down around queued idle ticket))
    | reboot =>
      cases kept
      rcases @reboot_fares around { state with requests := rest } ticket with down | arms
      · exact .inl (.of_down down)
      · exact .inr ⟨arms.stopped, arms.deadline⟩
    | update config =>
      cases kept
      refine .inl ?_
      unfold Instance.update
      split <;> exact .of_same rfl rfl
    | delete =>
      simp only [Instance.serve, Instance.delete] at kept
      split at kept <;> cases kept
      exact .inl (.of_same rfl rfl)
  | restart idle =>
    cases kept
    exact .inl (.of_down (scheduledRestart_down around sound idle))
  | conclude halted =>
    cases kept
    have stopped := sound.halted halted
    unfold Instance.afterStop
    dsimp only
    generalize free : Instance.releaseStops _ = released
    have down : ¬ Up released.machine.phase := free ▸ not_up_stopped stopped
    have begins (operator : Bool) : Fares around state (released.start around operator).1 := by
      rcases start_fares around released operator with abides | arms
      · exact .inl (.of_down fun up => down (abides up).1)
      · exact .inr ⟨stopped, arms.deadline⟩
    cases state.pendingStart with
    | none => exact .inl (.of_down down)
    | some pending =>
      cases pending with
      | scheduled => exact begins false
      | requested ticket =>
        rcases begins true with abides | arms
        · exact .inl (abides.trans (.of_same rfl rfl))
        · exact .inr ⟨arms.stopped, arms.deadline⟩
  | resume busy ended =>
    cases kept
    exact .inl ((abides_carries around).goOn state _ (.refl state))
  | @timeout wait bot busy held due =>
    cases kept
    unfold Instance.runOut
    cases wait.pressure with
    | asked =>
      have killed := brought_abides state (kill_same around state)
      exact .inl ((abides_carries around).goOn state wait killed)
    | forced => exact .inl ((abides_carries around).goOn state wait (.refl state))
  | giveUp =>
    cases kept
    exact .inl (.of_same rfl rfl)

/-- An announcement comes first, and then the end of the bot that was up. -/
theorem scheduledRestart_told (around : Surroundings) (state : Instance)
    (told : (state.scheduledRestart around).feed ≠ state.feed) :
    Up state.machine.phase ∧ (state.scheduledRestart around).feed = state.feed ++
      [.notice state.id .scheduledRestart,
        .phaseChanged state.id state.machine.phase .stopping] := by
  generalize restarts : state.scheduledRestart around = after at told ⊢
  unfold Instance.scheduledRestart at restarts
  dsimp only at restarts
  split at restarts
  · exact absurd (restarts ▸ rfl) told
  · rcases stop_cases state.machine with ⟨_, refused⟩ | ⟨machine, graceful, same, stopping, stopped⟩
    · rw [refused] at restarts
      exact absurd (restarts ▸ rfl) told
    · rw [stopped] at restarts
      subst restarts
      refine ⟨same.up, ?_⟩
      rw [perform_terminate_feed]
      simp only [Instance.publishTransition, published_changed, changed, same.up.2, if_false,
        Instance.publishSnapshot, Instance.publishNotice, Instance.publish, Instance.id, same.id,
        List.append_assoc, List.singleton_append]

end moves

section steps

variable {id : AccountId} {launch before after keeper : Keeper} {event : Keeper.Event}
  {state next : Instance}

/-- A restart is due no sooner than the interval says, and only if the schedule is enabled. -/
theorem nextDelay?_some {schedule : AutoRestartSchedule} {draw seconds : Nat}
    (delay : schedule.nextDelay? draw = some seconds) :
    schedule.enable = true ∧ schedule.interval.seconds ≤ seconds := by
  unfold AutoRestartSchedule.nextDelay? at delay
  dsimp only at delay
  split at delay
  · rename_i enabled
    split at delay <;> cases delay
    exact ⟨enabled, Nat.le_add_right _ _⟩
  · cases delay

private theorem step_fares (reachable : before.Reachable) (happens : before.step? event = some after)
    (registered : before.instance? id = some state) (present : after.instance? id = some next) :
    Fares before.around state next := by
  rcases step_turns happens registered with ⟨_, kept, unmoved⟩ | ⟨move, account, rfl, found, moves⟩
  · cases present.symm.trans kept
    obtain ⟨_, _, _, _, rfl⟩ := unmoved.same
    exact .inl (.of_same rfl rfl)
  · cases found.symm.trans (kept_of_instance? present)
    exact move_fares (reachable_sound reachable registered) moves

/-- Where no start succeeds, a bot that is up was so before, with the same deadline. -/
theorem step_up (reachable : before.Reachable) (happens : before.step? event = some after)
    (other : ¬ StartsUp id before after) (present : after.instance? id = some next)
    (up : Up next.machine.phase) :
    ∃ state, before.instance? id = some state ∧ Up state.machine.phase ∧
      next.restartAt = state.restartAt := by
  cases registered : before.instance? id with
  | none =>
    obtain ⟨policy, config, rfl⟩ := step_registered happens registered present
    exact absurd rfl up.1
  | some state =>
    rcases step_fares reachable happens registered present with abides | arms
    · exact ⟨state, rfl, abides up⟩
    · exact absurd ⟨state, registered, next, present, arms.stopped, up⟩ other

theorem SinceStart.reachable (since : SinceStart id launch keeper) : keeper.Reachable := by
  induction since with
  | started reachable happens => exact reachable_of_step reachable happens
  | goesOn _ happens _ ih => exact reachable_of_step ih happens

/-- Every bot that is up was started at some time. -/
theorem exists_sinceStart (reachable : keeper.Reachable)
    (registered : keeper.instance? id = some state) (up : Up state.machine.phase) :
    ∃ launch, SinceStart id launch keeper := by
  obtain ⟨around, opened, run⟩ := reachable
  induction run generalizing state with
  | refl => cases registered
  | @step before after event run _ happens ih =>
    have earlier : before.Reachable := ⟨around, opened, run⟩
    by_cases starts : StartsUp id before after
    · exact ⟨after, .started earlier happens starts⟩
    · obtain ⟨was, there, wasUp, _⟩ := step_up earlier happens starts registered up
      obtain ⟨launch, since⟩ := ih there wasUp
      exact ⟨launch, since.goesOn happens starts⟩

theorem SinceStart.deadlineKept (since : SinceStart id launch keeper) :
    DeadlineKept id launch keeper := by
  induction since with
  | started =>
    intro first launched state registered _
    cases Option.mem_unique launched registered
    rfl
  | goesOn since happens other ih =>
    intro first launched next present up
    obtain ⟨state, registered, wasUp, same⟩ := step_up since.reachable happens other present up
    exact same.trans (ih first launched state registered wasUp)

/-- The deadline that a start sets is as far away as the interval of the config. -/
theorem SinceStart.armed (since : SinceStart id launch keeper) :
    ∃ first ∈ launch.instance? id, ∀ deadline, first.restartAt = some deadline →
      first.config.autoRestart.enable = true ∧
        launch.around.now + first.config.autoRestart.interval.seconds * 1000 ≤ deadline := by
  induction since with
  | goesOn _ _ _ ih => exact ih
  | @started before event reachable happens starts =>
    obtain ⟨state, registered, next, present, stopped, up⟩ := starts
    refine ⟨next, present, fun deadline due => ?_⟩
    have same : launch.around = before.around := by
      rcases step_turns happens registered with ⟨_, kept, unmoved⟩ | ⟨move, _, rfl, _, _⟩
      · cases present.symm.trans kept
        obtain ⟨_, _, _, _, rfl⟩ := unmoved.same
        exact absurd stopped up.1
      · obtain ⟨_, _, _, _, rfl⟩ := moves_of_step happens
        rfl
    rcases step_fares reachable happens registered present with abides | arms
    · exact absurd stopped (abides up).1.1
    · obtain ⟨draw, sets⟩ := arms.deadline
      rw [sets] at due
      obtain ⟨seconds, delay, rfl⟩ := Option.map_eq_some_iff.mp due
      obtain ⟨enabled, enough⟩ := nextDelay?_some delay
      refine ⟨enabled, ?_⟩
      rw [same]
      exact Nat.add_le_add_left (Nat.mul_le_mul_right 1000 enough) _

/-- What an announcement finds: a bot that is up, and a deadline that is over. -/
theorem announces_due (reachable : before.Reachable) (happens : before.step? event = some after)
    (announces : Announces id before after) :
    AnnouncedInPhase id before after ∧
      (∃ state, before.instance? id = some state ∧ Up state.machine.phase ∧
        ∃ deadline, state.restartAt = some deadline ∧ deadline ≤ before.around.now) ∧
      ∀ next ∈ after.instance? id, ¬ Up next.machine.phase := by
  obtain rfl := announces_restart reachable happens announces
  obtain ⟨state, account, registered, moves, rfl⟩ := moves_of_step happens
  obtain ⟨sound, named⟩ := reachable_inOrder reachable _ (kept_of_instance? registered)
  obtain ⟨said, published, announced⟩ := announces
  cases moves with
  | @restart deadline idle armed due =>
    rw [ledger_put, ledger_of_instance? registered] at published
    have told : (state.scheduledRestart before.around).feed ≠ state.feed := by
      intro same
      rw [List.append_right_eq_self.mp (published.symm.trans same)] at announced
      cases announced
    obtain ⟨up, feed⟩ := scheduledRestart_told before.around state told
    refine ⟨⟨state, registered, up, ?_⟩, ⟨state, registered, up, deadline, armed, due⟩, ?_⟩
    · rw [ledger_put, ledger_of_instance? registered, ← named]
      exact feed
    · intro next present
      rw [Option.mem_def, instance?_put] at present
      cases present
      exact scheduledRestart_down before.around sound idle

/-- The bot of an announced restart is not up until the next start, so it is announced once. -/
theorem SinceStart.unannounced (since : SinceStart id launch keeper)
    (registered : keeper.instance? id = some state) (up : Up state.machine.phase) :
    Unannounced id launch keeper := by
  induction since generalizing state with
  | started => exact ⟨[], (List.append_nil _).symm, by simp⟩
  | @goesOn before after event since happens other ih =>
    obtain ⟨was, there, wasUp, _⟩ := step_up since.reachable happens other registered up
    obtain ⟨said, published, silent⟩ := ih there wasUp
    obtain ⟨more, continued⟩ := step_feed since.reachable happens id
    have quiet : .notice id .scheduledRestart ∉ more := fun announced =>
      (announces_due since.reachable happens ⟨more, continued.symm, announced⟩).2.2 state
        registered up
    refine ⟨said ++ more, ?_, by simp [silent, quiet]⟩
    rw [← continued, published, List.append_assoc]

/-- After an instance has looked at a stop or a reboot, its bot is not up, or it was just
started. -/
theorem heeded_down (reachable : before.Reachable) (happens : before.step? event = some after)
    (heeds : HeedsEnd id before event) (other : ¬ StartsUp id before after)
    (present : after.instance? id = some next) : ¬ Up next.machine.phase := by
  obtain ⟨move, moved, rfl, state, registered, request, head, ends⟩ := heeds
  obtain rfl := moveOf?_eq_some.mp moved
  obtain ⟨_, account, found, moves, rfl⟩ := moves_of_step happens
  cases found.symm.trans registered
  have sound := reachable_sound reachable registered
  cases moves with
  | @serve front rest idle requests =>
    obtain rfl : front = request := by simpa [requests] using head
    have queued := sound.requeue rest state.calls
    obtain ⟨ticket, command⟩ := front
    rw [instance?_put] at present
    rcases ends with rfl | rfl
    · cases present
      exact stop_down before.around queued idle ticket
    · cases present
      rcases @reboot_fares before.around { state with requests := rest } ticket with down | arms
      · exact down
      · intro up
        refine other ⟨state, registered, _, ?_, arms.stopped, up⟩
        exact instance?_put _ _ _

theorem Dismissed.reachable (dismissed : Dismissed id keeper) : keeper.Reachable := by
  induction dismissed with
  | begins reachable happens => exact reachable_of_step reachable happens
  | goesOn _ happens _ ih => exact reachable_of_step ih happens

theorem Dismissed.down (dismissed : Dismissed id keeper)
    (registered : keeper.instance? id = some state) : ¬ Up state.machine.phase := by
  induction dismissed generalizing state with
  | begins reachable happens ends other =>
    rcases ends with heeds | ⟨next, present, stopped⟩
    · exact heeded_down reachable happens heeds other registered
    · cases Option.mem_unique present registered
      exact not_up_stopped stopped
  | goesOn dismissed happens other ih =>
    intro up
    obtain ⟨was, there, wasUp, _⟩ := step_up dismissed.reachable happens other registered up
    exact ih there wasUp

/-- A scheduled restart is announced only while the bot is up, only if the config that it was
started with asks for it, not before its interval is over, and once for each start. It is never
announced between the end that an operator has asked for, or any stop, and the next start, and
the deadline stays where the start has set it while the bot is up. -/
theorem schedule_discipline (reachable : before.Reachable)
    (happens : before.step? event = some after) :
    (Announces id before after → AnnouncedInPhase id before after ∧ ¬ Dismissed id before ∧
      ∃ launch, SinceStart id launch before) ∧
    ∀ launch, SinceStart id launch before →
      DeadlineKept id launch before ∧
      (Announces id before after → InTime id launch before ∧ Unannounced id launch before) := by
  constructor
  · intro announces
    obtain ⟨inPhase, ⟨state, registered, up, _⟩, _⟩ := announces_due reachable happens announces
    exact ⟨inPhase, fun dismissed => dismissed.down registered up,
      exists_sinceStart reachable registered up⟩
  · intro launch since
    refine ⟨since.deadlineKept, fun announces => ?_⟩
    obtain ⟨_, ⟨state, registered, up, deadline, armed, due⟩, _⟩ :=
      announces_due reachable happens announces
    obtain ⟨first, launched, sets⟩ := since.armed
    have same := since.deadlineKept first launched state registered up
    obtain ⟨enabled, enough⟩ := sets deadline (same ▸ armed)
    exact ⟨⟨first, launched, enabled, Nat.le_trans enough due⟩, since.unannounced registered up⟩

end steps

/-- Ten seconds after its start a bot is restarted by a schedule of ten seconds. -/
theorem schedule_discipline_after_ten_seconds : ∃ launch before after : Keeper,
    before.Reachable ∧ before.step? (.move 100001 .restart) = some after ∧
      SinceStart 100001 launch before ∧ Announces 100001 before after ∧
      AnnouncedInPhase 100001 before after ∧ ¬ Dismissed 100001 before ∧
      InTime 100001 launch before ∧ Unannounced 100001 launch before := by
  obtain ⟨stopped, reachable, checked⟩ := rehearsal_reachable [restartedConfig 100001 []]
    [.start 100001]
    (fun stopped => (stopped.step? (.move 100001 .serve)).any (fun launch =>
      (launch.step? (.advance 10000 0)).any fun before =>
      (before.step? (.move 100001 .restart)).any fun after => decide (
        StartsUp 100001 stopped launch ∧ ¬ StartsUp 100001 launch before ∧
        (after.ledger 100001).feed = (before.ledger 100001).feed ++ announcement 100001)) = true)
    (by decide)
  obtain ⟨launch, first, checked⟩ := (Option.any_eq_true _ _).mp checked
  obtain ⟨before, second, checked⟩ := (Option.any_eq_true _ _).mp checked
  obtain ⟨after, third, checked⟩ := (Option.any_eq_true _ _).mp checked
  obtain ⟨starts, other, published⟩ := of_decide_eq_true checked
  have since := (SinceStart.started reachable first starts).goesOn second other
  have announces : Announces 100001 before after := ⟨_, published, by simp [announcement]⟩
  obtain ⟨disciplined, timely⟩ := @schedule_discipline 100001 _ _ _ since.reachable third
  obtain ⟨inPhase, undismissed, _⟩ := disciplined announces
  obtain ⟨inTime, unannounced⟩ := (timely launch since).2 announces
  exact ⟨launch, before, after, since.reachable, third, since, announces, inPhase, undismissed,
    inTime, unannounced⟩

end BotKeeper.Proofs
