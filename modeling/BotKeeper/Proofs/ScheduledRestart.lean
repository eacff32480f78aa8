import BotKeeper.Proofs.Descent
import BotKeeper.Proofs.Down
import BotKeeper.Proofs.Telling
import BotKeeper.Proofs.Unmoved

/-! Whether a scheduled restart brings the bot back. From the notice on, the end of the process
is followed until the instance has stopped: as long as it does not fail, a start is pending by
then, and it is made at once. Where an end fails, the restart is lost. -/

namespace BotKeeper.Proofs

def Announces (id : AccountId) (before after : Keeper) : Prop :=
  ∃ said, (after.ledger id).feed = (before.ledger id).feed ++ said ∧
    .notice id .scheduledRestart ∈ said

def HeedsStop (id : AccountId) (before : Keeper) (event : Keeper.Event) : Prop :=
  ∃ move ∈ moveOf? id event, move = .serve ∧ ∃ state ∈ before.instance? id,
    ∃ request ∈ state.requests.head?, request.command = .stop

/-- From the notice of a scheduled restart on, until the instance has stopped. No stop of an
operator is looked at meanwhile, and it is known whether an end of the process has failed. -/
inductive Restarting (id : AccountId) : Prop → Keeper → Prop where
  | announced {before after : Keeper} {event : Keeper.Event} (reachable : before.Reachable)
      (happens : before.step? event = some after) (announces : Announces id before after) :
      Restarting id (Thwarted id before event after) after
  | goesOn {failed : Prop} {before after : Keeper} {event : Keeper.Event}
      (restarting : Restarting id failed before)
      (running : ∀ state ∈ before.instance? id, state.machine.phase ≠ .stopped)
      (happens : before.step? event = some after) (unheeded : ¬ HeedsStop id before event) :
      Restarting id (failed ∨ Thwarted id before event after) after

/-- An instance comes back at once: whatever happens around it, the next thing that it does is
to publish its start, or nothing if the gate is closed by then. -/
def ComesBack (id : AccountId) (keeper : Keeper) : Prop :=
  ∀ later, Keeper.Run (fun event => moveOf? id event = none) keeper later →
    (∃ move after, later.move? id move = some after) ∧
    ∀ move after, later.move? id move = some after →
      if later.around.gate then (after.ledger id).feed = (later.ledger id).feed
      else ∃ said, (after.ledger id).feed =
        (later.ledger id).feed ++ .phaseChanged id .stopped .starting :: said

inductive Outlook (failed : Prop) (state : Instance) : Prop where
  | ending {wait : Wait} (busy : state.busy = some (.wait wait))
      (purpose : wait.purpose = .scheduledRestart) (fine : ¬ failed)
  | coming (descends : Descends state) (pending : state.pendingStart = some .scheduled)
      (fine : ¬ failed)
  | lost (descends : Descends state) (unpending : state.pendingStart = none) (fails : failed)

section announcement

variable {id : AccountId} {thwarted scheduled : Prop} {told later : Telling}

/-- No effect is to give the notice of a scheduled restart. -/
theorem Tells.unannounced (tells : Tells id thwarted scheduled told later)
    (none : .notify .scheduledRestart ∉ told.effects) :
    .notify .scheduledRestart ∉ later.effects := by
  cases tells with
  | meant consequence => cases consequence <;> simp
  | notified | ended | spawned => exact fun member => none (List.mem_cons_of_mem _ member)
  | heard | begun | stopped | due | unspawned | abandoned => simp

theorem Tells.silent (tells : Tells id thwarted False told later)
    (none : .notify .scheduledRestart ∉ told.effects) :
    ∃ said, later.feed = told.feed ++ said ∧ .notice id .scheduledRestart ∉ said := by
  cases tells with
  | heard line => exact ⟨_, rfl, by simp⟩
  | meant consequence =>
    refine ⟨_, rfl, ?_⟩
    unfold changed
    split <;> simp
  | begun => exact ⟨_, rfl, by simp⟩
  | stopped => exact ⟨_, rfl, by simp⟩
  | due schedule => exact schedule.elim
  | notified notice =>
    refine ⟨_, rfl, ?_⟩
    simp at none ⊢
    exact none.1
  | unspawned => exact ⟨_, rfl, by simp⟩
  | ended | spawned | abandoned => exact ⟨[], (List.append_nil _).symm, by simp⟩

theorem Tale.unannounced (tale : Tale id thwarted scheduled told later)
    (none : .notify .scheduledRestart ∉ told.effects) :
    .notify .scheduledRestart ∉ later.effects := by
  induction tale with
  | refl => exact none
  | tail _ tells ih => exact tells.unannounced ih

theorem Tale.silent (tale : Tale id thwarted False told later)
    (none : .notify .scheduledRestart ∉ told.effects) :
    ∃ said, later.feed = told.feed ++ said ∧ .notice id .scheduledRestart ∉ said := by
  induction tale with
  | refl => exact ⟨[], (List.append_nil _).symm, by simp⟩
  | tail before tells ih =>
    obtain ⟨early, published, first⟩ := ih
    obtain ⟨late, continued, last⟩ := tells.silent (Tale.unannounced before none)
    refine ⟨early ++ late, ?_, by simp [first, last]⟩
    rw [continued, published, List.append_assoc]

/-- Only a schedule that is due announces a restart. -/
theorem announces_restart {before after : Keeper} {event : Keeper.Event}
    (reachable : before.Reachable) (happens : before.step? event = some after)
    (announces : Announces id before after) : event = .move id .restart := by
  refine Classical.byContradiction fun other => ?_
  have tale : Tale id True False (tellingOf (before.accounts.get? id))
      (tellingOf (after.accounts.get? id)) :=
    step_tale reachable happens (fun _ => trivial) other
  have past : Tale id True True ⟨[], .stopped, [], 0⟩ (tellingOf (before.accounts.get? id)) :=
    reachable_tale reachable
  obtain ⟨said, published, silent⟩ := tale.silent (past.unannounced (by simp))
  rw [tellingOf_feed, tellingOf_feed] at published
  obtain ⟨more, feed, announced⟩ := announces
  exact silent (List.append_cancel_left (published.symm.trans feed) ▸ announced)

end announcement

section moves

variable (around : Surroundings) {state : Instance} {move : Move} {account : Account}
  {failed : Prop}

theorem Outlook.congr (outlook : Outlook failed state) {other : Prop} (same : failed ↔ other) :
    Outlook other state :=
  propext same ▸ outlook

theorem Plan.of_scheduledRestart {phase : Phase} {effects : List Effect}
    (plan : Plan phase effects .scheduledRestart) : phase = .stopping ∧ effects = [] := by
  cases plan
  exact ⟨rfl, rfl⟩

private theorem goOn_outlook (wait : Wait) (result : Instance × Ending)
    (stopping : state.machine.phase = .stopping) (unpending : state.pendingStart = none)
    (effects : wait.effects = []) (purpose : wait.purpose = .scheduledRestart)
    (same : SameButBots state result.1) :
    Outlook (∃ error, result.2 = .failed error) (Instance.goOn around wait result) ∧
      (Instance.goOn around wait result).machine = state.machine := by
  obtain ⟨bots, messages, ending, rfl⟩ := same.result
  cases ending with
  | complete =>
    simp only [Instance.goOn, effects, purpose, Instance.perform_nil, Instance.complete]
    exact ⟨.coming (.inl ⟨rfl, stopping⟩) rfl (by simp), trivial⟩
  | failed error =>
    simp only [Instance.goOn, purpose, Instance.complete]
    exact ⟨.lost (.inl ⟨rfl, stopping⟩) unpending ⟨error, rfl⟩, trivial⟩
  | awaited pressure deadline => exact ⟨.ending rfl purpose (by simp), rfl⟩

/-- While an instance is being stopped, only a wait that has run out can fail. -/
theorem fails_iff_of_stopping (stopping : state.machine.phase = .stopping) (move : Move)
    (after : Instance) :
    Fails state move after ↔
      move = .timeout ∧ (Unkillable state ∨ isForced state.busy = true) := by
  simp [Fails, BeginsEnd, Up, stopping]

/-- What an announced restart has begun. -/
theorem restart_outlook (sound : Sound state state) (idle : state.busy = none)
    (announced : (state.scheduledRestart around).feed ≠ state.feed) :
    Outlook (Fails state .restart (state.scheduledRestart around))
      (state.scheduledRestart around) := by
  generalize restarts : state.scheduledRestart around = after at announced ⊢
  unfold Instance.scheduledRestart at restarts
  dsimp only at restarts
  split at restarts
  · exact absurd (restarts ▸ rfl) announced
  · rcases stop_cases state.machine with ⟨_, refused⟩ | ⟨machine, graceful, same, stopping, stopped⟩
    · rw [refused] at restarts
      exact absurd (restarts ▸ rfl) announced
    · rw [stopped] at restarts
      dsimp only at restarts
      generalize told : Instance.publishTransition _ _ = begun at restarts
      have facts : begun.machine = machine ∧ begun.busy = none ∧
          begun.pendingStart = state.pendingStart ∧ (Unkillable begun ↔ Unkillable state) := by
        subst told
        exact ⟨rfl, idle, rfl, .rfl⟩
      obtain ⟨stepped, free, pending, sameBots⟩ := facts
      have unpending := (sound.unawaited idle same.up.2).1
      -- The end goes on like a wait that nothing is left to do after, and may fail at once.
      rw [perform_terminate_goOn around free] at restarts
      obtain ⟨outlook, kept⟩ := goOn_outlook around ⟨.asked, 0, [], .scheduledRestart⟩ _
        (stepped ▸ stopping) (pending.trans unpending) rfl rfl (terminate_same around begun graceful)
      rw [restarts] at outlook kept
      refine outlook.congr ?_
      rw [terminate_failed_iff, sameBots]
      simp [Fails, BeginsEnd, same.up, kept, stepped, stopping]

variable {around}

/-- The wait for the end of the process goes on, ends or fails. -/
theorem ending_outlook (sound : Sound state state) {wait : Wait}
    (busy : state.busy = some (.wait wait)) (purpose : wait.purpose = .scheduledRestart)
    (moves : Moves around state move account) :
    ∃ after, account = .kept after ∧ Outlook (Fails state move after) after := by
  obtain ⟨plan, unpending, _⟩ := sound.waits wait busy
  obtain ⟨stopping, effects⟩ := (purpose ▸ plan).of_scheduledRestart
  have fails := fails_iff_of_stopping stopping move
  cases sound.awaits busy moves with
  | goesOn brought same length failed =>
    obtain ⟨outlook, _⟩ := goOn_outlook around wait _ stopping unpending effects purpose same
    exact ⟨_, rfl, outlook.congr (by rw [fails, failed])⟩
  | givesUp bot other => exact ⟨_, rfl, .ending busy purpose (by simp [fails, other])⟩

private theorem move_outlook (sound : Sound state state) (outlook : Outlook failed state)
    (running : state.machine.phase ≠ .stopped)
    (unheeded : ∀ request ∈ state.requests.head?, move = .serve → request.command ≠ .stop)
    (moves : Moves around state move account) :
    ∃ after, account = .kept after ∧ Outlook (failed ∨ Fails state move after) after := by
  have lowers : Descends state → ∃ after, account = .kept after ∧ Lowers state after ∧
      ¬ Fails state move after := by
    rintro (⟨idle, stopping⟩ | ⟨_, stopped⟩)
    · obtain ⟨after, kept, lowers⟩ := move_lowers moves idle stopping
        fun request head serves stops => absurd stops (unheeded request head serves)
      refine ⟨after, kept, lowers, ?_⟩
      rw [fails_iff_of_stopping stopping]
      rintro ⟨rfl, _⟩
      cases moves with
      | timeout busy => cases idle.symm.trans busy
    · exact absurd stopped running
  cases outlook with
  | ending busy purpose fine =>
    obtain ⟨after, kept, outlook⟩ := ending_outlook sound busy purpose moves
    exact ⟨after, kept, outlook.congr (by simp [fine])⟩
  | coming descends pending fine =>
    obtain ⟨after, kept, lowers, fails⟩ := lowers descends
    exact ⟨after, kept, .coming lowers.descends (lowers.pending.trans pending) (by simp [fine, fails])⟩
  | lost descends unpending fails =>
    obtain ⟨after, kept, lowers, _⟩ := lowers descends
    exact ⟨after, kept, .lost lowers.descends (lowers.pending.trans unpending) (.inl fails)⟩

end moves

section restarting

variable {id : AccountId} {failed : Prop} {before after keeper : Keeper} {event : Keeper.Event}
  {state : Instance}

theorem thwarted_move_iff {move : Move} {next : Instance}
    (registered : before.instance? id = some state) (kept : after.instance? id = some next) :
    Thwarted id before (.move id move) after ↔ Fails state move next := by
  simp [Thwarted, moveOf?, registered, kept]

private theorem not_thwarted (other : moveOf? id event = none) : ¬ Thwarted id before event after := by
  simp [Thwarted, other]

theorem Outlook.beside (outlook : Outlook failed state) {next : Instance}
    (busy : next.busy = state.busy) (phase : next.machine = state.machine)
    (pending : next.pendingStart = state.pendingStart) : Outlook failed next := by
  cases outlook with
  | ending waits purpose fine => exact .ending (busy.trans waits) purpose fine
  | coming descends pends fine =>
    exact .coming (by rwa [Descends, busy, phase]) (pending.trans pends) fine
  | lost descends unpending fails =>
    exact .lost (by rwa [Descends, busy, phase]) (pending.trans unpending) fails

/-- What happens to an account by other events than its moves leaves its instance as it is busy
with the same. -/
theorem step_beside (happens : before.step? event = some after) (other : moveOf? id event = none)
    (registered : before.instance? id = some state) :
    ∃ next, after.instance? id = some next ∧ next.busy = state.busy ∧
      next.machine = state.machine ∧ next.pendingStart = state.pendingStart ∧
      next.feed = state.feed := by
  obtain ⟨next, kept, unmoved⟩ := step_unmoved happens (fun move same => by
    simp [moveOf?_eq_some.mpr same] at other) registered
  obtain ⟨_, _, _, _, rfl⟩ := unmoved.same
  exact ⟨_, kept, rfl, rfl, rfl, rfl⟩

/-- What happens to a restarting instance leaves it there, with the outlook that it then has. -/
theorem step_outlook (reachable : before.Reachable) (happens : before.step? event = some after)
    (registered : before.instance? id = some state) (outlook : Outlook failed state)
    (running : state.machine.phase ≠ .stopped) (unheeded : ¬ HeedsStop id before event) :
    ∃ next, after.instance? id = some next ∧
      Outlook (failed ∨ Thwarted id before event after) next := by
  cases moved : moveOf? id event with
  | none =>
    obtain ⟨next, kept, busy, machine, pending, _⟩ := step_beside happens moved registered
    have fine : ¬ Thwarted id before event after := not_thwarted moved
    exact ⟨next, kept, (outlook.beside busy machine pending).congr (by simp [fine])⟩
  | some move =>
    obtain rfl := moveOf?_eq_some.mp moved
    obtain ⟨_, account, present, moves, same⟩ := moves_of_step happens
    cases registered.symm.trans present
    have sound := reachable_sound reachable registered
    have other : ∀ request ∈ state.requests.head?, move = .serve → request.command ≠ .stop := by
      intro request head serves stops
      exact unheeded ⟨move, moved, serves, state, registered, request, head, stops⟩
    obtain ⟨next, rfl, outlook⟩ := move_outlook sound outlook running other moves
    have kept : after.instance? id = some next := same ▸ instance?_put before id (.kept next)
    exact ⟨next, kept, outlook.congr (by rw [thwarted_move_iff registered kept])⟩

theorem Restarting.reachable (restarting : Restarting id failed keeper) : keeper.Reachable := by
  induction restarting with
  | announced reachable happens => exact reachable_of_step reachable happens
  | goesOn _ _ happens _ ih => exact reachable_of_step ih happens

private theorem announced_outlook (reachable : before.Reachable)
    (happens : before.step? event = some after) (announces : Announces id before after) :
    ∃ state, after.instance? id = some state ∧ Outlook (Thwarted id before event after) state := by
  obtain rfl := announces_restart reachable happens announces
  obtain ⟨state, account, registered, moves, rfl⟩ := moves_of_step happens
  obtain ⟨said, published, announced⟩ := announces
  cases moves with
  | restart idle armed due =>
    have kept := instance?_put before id (.kept (state.scheduledRestart before.around))
    rw [ledger_put, ledger_of_instance? registered] at published
    have changes : (state.scheduledRestart before.around).feed ≠ state.feed := by
      intro same
      rw [List.append_right_eq_self.mp (published.symm.trans same)] at announced
      cases announced
    have sound := reachable_sound reachable registered
    refine ⟨_, kept, (restart_outlook before.around sound idle changes).congr ?_⟩
    rw [thwarted_move_iff registered kept]

/-- A restart that was announced stands as well as the ends of the process have gone. -/
theorem restarting_outlook (restarting : Restarting id failed keeper) :
    ∃ state, keeper.instance? id = some state ∧ Outlook failed state := by
  induction restarting with
  | announced reachable happens announces => exact announced_outlook reachable happens announces
  | goesOn restarting running happens unheeded ih =>
    obtain ⟨state, registered, outlook⟩ := ih
    exact step_outlook restarting.reachable happens registered outlook (running state registered)
      unheeded

end restarting

section coming

variable {id : AccountId} {keeper : Keeper} {state : Instance} {around : Surroundings}

private theorem deadline?_of_gone {bot : Bot} (gone : bot.isGone = true) : bot.deadline? = none := by
  have vitality : bot.vitality = .gone := by simpa [Bot.isGone] using gone
  simp [Bot.deadline?, vitality]

/-- An instance that has just stopped can only do what follows from that. -/
theorem halted_moves (sound : Sound state state) (halted : state.busy = some .halted) {move : Move}
    {account : Account} (moves : Moves around state move account) :
    move = .conclude ∧ account = .kept ({ state with busy := none }.afterStop around) := by
  cases moves with
  | conclude => exact ⟨rfl, rfl⟩
  | receive idle => cases idle.symm.trans halted
  | serve idle => cases idle.symm.trans halted
  | restart idle => cases idle.symm.trans halted
  | resume busy => cases busy.symm.trans halted
  | timeout busy => cases busy.symm.trans halted
  | giveUp found lingers due =>
    have gone := sound.gone (sound.halted halted) _ (List.mem_of_find?_eq_some found)
    rw [deadline?_of_gone gone] at lingers
    cases lingers

private theorem afterStop_unpending (around : Surroundings) (state : Instance)
    (unpending : state.pendingStart = none) :
    (state.afterStop around).feed = state.feed := by
  simp only [Instance.afterStop, unpending]
  rfl

/-- A scheduled start that is pending is made when the instance has stopped. -/
theorem afterStop_scheduled (around : Surroundings) (state : Instance)
    (named : state.machine.id = id)
    (stopped : state.machine.phase = .stopped) (pending : state.pendingStart = some .scheduled) :
    if around.gate then (state.afterStop around).feed = state.feed
    else ∃ said, (state.afterStop around).feed =
      state.feed ++ .phaseChanged id .stopped .starting :: said := by
  simp only [Instance.afterStop, pending]
  split
  · rename_i closed
    simp only [Instance.start, closed, if_true]
    rfl
  · rename_i opened
    obtain ⟨said, published⟩ := start_published (by simpa using opened)
      { state with restartAt := none, pendingStart := none }.releaseStops stopped false
    subst named
    exact ⟨said, published⟩

/-- As long as an instance makes no move, it is busy with the same and publishes nothing. -/
theorem run_beside {later : Keeper} (registered : keeper.instance? id = some state)
    (run : Keeper.Run (fun event => moveOf? id event = none) keeper later) :
    ∃ next, later.instance? id = some next ∧ next.busy = state.busy ∧
      next.machine = state.machine ∧ next.pendingStart = state.pendingStart ∧
      next.feed = state.feed := by
  induction run with
  | refl => exact ⟨state, registered, rfl, rfl, rfl, rfl⟩
  | step _ other happens ih =>
    obtain ⟨between, present, busy, machine, pending, feed⟩ := ih
    obtain ⟨next, kept, sameBusy, sameMachine, samePending, sameFeed⟩ :=
      step_beside happens other present
    exact ⟨next, kept, sameBusy.trans busy, sameMachine.trans machine, samePending.trans pending,
      sameFeed.trans feed⟩

private theorem comesBack_of_pending (reachable : keeper.Reachable)
    (registered : keeper.instance? id = some state) (halted : state.busy = some .halted)
    (pending : state.pendingStart = some .scheduled) : ComesBack id keeper := by
  intro later run
  obtain ⟨next, kept, busy, _, pends, _⟩ := run_beside registered run
  have after := reachable_of_run reachable run
  obtain ⟨sound, named⟩ := reachable_inOrder after _ (kept_of_instance? kept)
  have waits := busy.trans halted
  refine ⟨⟨.conclude, _, step_of_moves kept (.conclude waits)⟩, ?_⟩
  intro move last moved
  obtain ⟨_, account, present, moves, rfl⟩ := moves_of_step moved
  cases kept.symm.trans present
  obtain ⟨_, rfl⟩ := halted_moves sound waits moves
  rw [ledger_put, ledger_of_instance? kept]
  exact afterStop_scheduled later.around { next with busy := none } named (sound.halted waits)
    (pends.trans pending)

private theorem not_comesBack_of_lost (reachable : keeper.Reachable)
    (registered : keeper.instance? id = some state) (halted : state.busy = some .halted)
    (unpending : state.pendingStart = none) : ¬ ComesBack id keeper := by
  intro comes
  -- With the gate open, coming back would mean that a start is published.
  obtain ⟨freed, run, opened, accounts⟩ :=
    run_opened (fun event => moveOf? id event = none) rfl reachable
  have present : freed.instance? id = some state := by
    simpa only [Keeper.instance?, accounts] using registered
  have sound := reachable_sound reachable registered
  have concludes : Moves freed.around state .conclude _ := .conclude halted
  obtain ⟨_, starts⟩ := comes freed run
  have published := starts .conclude _ (step_of_moves present concludes)
  rw [opened] at published
  obtain ⟨said, feed⟩ := published
  rw [ledger_put, ledger_of_instance? present] at feed
  have silent : ({ state with busy := none }.afterStop freed.around).feed = state.feed :=
    afterStop_unpending freed.around { state with busy := none } unpending
  exact absurd (silent.symm.trans feed) (by simp)

/-- A scheduled restart brings the bot back at once when its instance has stopped, exactly if
no end of the process has failed since the notice. -/
theorem scheduled_restart_comes_back_iff {failed : Prop} (restarting : Restarting id failed keeper)
    (registered : keeper.instance? id = some state) (stopped : state.machine.phase = .stopped) :
    ComesBack id keeper ↔ ¬ failed := by
  have reachable := restarting.reachable
  have sound := reachable_sound reachable registered
  have halts : Descends state → state.busy = some .halted := by
    rintro (⟨_, stopping⟩ | ⟨halted, _⟩)
    · cases stopped.symm.trans stopping
    · exact halted
  obtain ⟨_, present, outlook⟩ := restarting_outlook restarting
  cases registered.symm.trans present
  cases outlook with
  | ending busy => exact absurd stopped (sound.waits _ busy).1.not_stopped
  | coming descends pending fine =>
    exact ⟨fun _ => fine, fun _ => comesBack_of_pending reachable registered (halts descends) pending⟩
  | lost descends unpending fails =>
    have stays := not_comesBack_of_lost reachable registered (halts descends) unpending
    exact ⟨fun comes => absurd comes stays, fun fine => absurd fails fine⟩

end coming

def restartedConfig (id : AccountId) (args : List String) : InstanceConfig :=
  { rehearsedConfig id args with autoRestart := { enable := true, interval := { seconds := 10 } } }

def announcement (id : AccountId) : List FeedEvent :=
  [.notice id .scheduledRestart, .phaseChanged id .starting .stopping]

theorem running_of_stopping {id : AccountId} {keeper : Keeper}
    (stopping : (keeper.instance? id).map (·.machine.phase) = some .stopping) :
    ∀ state ∈ keeper.instance? id, state.machine.phase ≠ .stopped := by
  intro state present
  rw [Option.mem_def.mp present] at stopping
  simp [Option.some.inj stopping]

/-- The bot of a restart has been killed, and its exit is known. -/
theorem scheduled_restart_comes_back_after_kill : ∃ (failed : Prop) (keeper : Keeper)
    (state : Instance), Restarting 100001 failed keeper ∧
      keeper.instance? 100001 = some state ∧ state.machine.phase = .stopped ∧ ¬ failed ∧
      ComesBack 100001 keeper := by
  obtain ⟨before, reachable, checked⟩ := rehearsal_reachable [restartedConfig 100001 []]
    [.start 100001, .move 100001 .serve, .advance 10000 0]
    (fun before => (before.step? (.move 100001 .restart)).any (fun between =>
      (between.step? (.move 100001 .receive)).any fun keeper => decide (
        (between.ledger 100001).feed = (before.ledger 100001).feed ++ announcement 100001 ∧
        (between.instance? 100001).map (·.machine.phase) = some .stopping ∧
        (keeper.instance? 100001).map (·.machine.phase) = some .stopped ∧
        ¬ (Thwarted 100001 before (.move 100001 .restart) between ∨
          Thwarted 100001 between (.move 100001 .receive) keeper))) = true) (by decide)
  obtain ⟨between, first, checked⟩ := (Option.any_eq_true _ _).mp checked
  obtain ⟨keeper, second, checked⟩ := (Option.any_eq_true _ _).mp checked
  obtain ⟨published, stopping, stopped, fine⟩ := of_decide_eq_true checked
  obtain ⟨state, registered, phase⟩ := Option.map_eq_some_iff.mp stopped
  have announced := Restarting.announced reachable first ⟨_, published, by simp [announcement]⟩
  have restarting := announced.goesOn (running_of_stopping stopping) second
    (by simp [HeedsStop, moveOf?])
  exact ⟨_, keeper, state, restarting, registered, phase, fine,
    (scheduled_restart_comes_back_iff restarting registered phase).mpr fine⟩

/-- What the bot has started keeps its output open. It dies shortly before its restart is due,
cannot be killed for it, and is not started again when its exit is known. -/
theorem scheduled_restart_is_lost : ∃ (failed : Prop) (keeper : Keeper) (state : Instance),
    Restarting 100001 failed keeper ∧ keeper.instance? 100001 = some state ∧
      state.machine.phase = .stopped ∧ keeper.around.gate = false ∧
      ¬ ComesBack 100001 keeper ∧ StaysStopped 100001 keeper := by
  obtain ⟨before, reachable, checked⟩ := rehearsal_reachable [restartedConfig 100001 ["--leak"]]
    [.start 100001, .move 100001 .serve, .advance 8000 0, .exit 100001 none, .advance 2000 0]
    (fun before => (before.step? (.move 100001 .restart)).any (fun announced =>
      (announced.step? (.move 100001 (.giveUp 1))).any fun between =>
      (between.step? (.move 100001 .receive)).any fun keeper => decide (
        (announced.ledger 100001).feed = (before.ledger 100001).feed ++ announcement 100001 ∧
        (announced.instance? 100001).map (·.machine.phase) = some .stopping ∧
        (between.instance? 100001).map (·.machine.phase) = some .stopping ∧
        keeper.around.gate = false ∧
        (keeper.instance? 100001).any (fun state => decide (state.machine.phase = .stopped ∧
          state.busy = some .halted ∧ state.pendingStart = none ∧ state.requests = []))
          = true)) = true) (by decide)
  obtain ⟨announced, first, checked⟩ := (Option.any_eq_true _ _).mp checked
  obtain ⟨between, second, checked⟩ := (Option.any_eq_true _ _).mp checked
  obtain ⟨keeper, third, checked⟩ := (Option.any_eq_true _ _).mp checked
  obtain ⟨published, stopping, still, opened, checked⟩ := of_decide_eq_true checked
  obtain ⟨state, registered, checked⟩ := (Option.any_eq_true _ _).mp checked
  obtain ⟨stopped, halted, unpending, unasked⟩ := of_decide_eq_true checked
  have noticed := Restarting.announced reachable first ⟨_, published, by simp [announcement]⟩
  have restarting := (noticed.goesOn (running_of_stopping stopping) second
    (by simp [HeedsStop, moveOf?])).goesOn (running_of_stopping still) third
    (by simp [HeedsStop, moveOf?])
  refine ⟨_, keeper, state, restarting, registered, stopped, opened,
    not_comesBack_of_lost restarting.reachable registered halted unpending, ?_⟩
  refine staysStopped_of_down restarting.reachable fun account found => ?_
  cases (kept_of_instance? registered).symm.trans found
  exact ⟨stopped, unpending, by rw [unasked]; rfl⟩

end BotKeeper.Proofs
