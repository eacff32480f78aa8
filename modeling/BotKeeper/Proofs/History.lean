import Mathlib.Data.List.DropRight
import BotKeeper.Proofs.Down
import BotKeeper.Proofs.Independence
import BotKeeper.Proofs.Telling
import BotKeeper.Proofs.Unmoved

/-! What an instance remembers of its output. It keeps as many lines as the keeper is set to, and
they are the last ones that were published since an operator started it. A bot that is replaced or
restarted by its schedule goes on with what is there, and so does one that ends or fails. -/

namespace BotKeeper.Proofs

def lineOf? (id : AccountId) : FeedEvent → Option String
  | .output other line => if other = id then some line else none
  | _ => none

def linesOn (id : AccountId) (events : List FeedEvent) : List String :=
  events.filterMap (lineOf? id)

/-- A start that an operator asked for is accepted, whatever becomes of its launch: that of a call
which a stopped instance looks at, or the one that a reboot has left for after the stop. -/
inductive AcceptsStart (around : Surroundings) (state : Instance) : Move → Prop where
  | asked {request : Request} (idle : state.busy = none)
      (head : state.requests.head? = some request)
      (start : starts request.command = true) (stopped : state.machine.phase = .stopped)
      (opened : around.gate = false) : AcceptsStart around state .serve
  | pending {ticket : Ticket} (halted : state.busy = some .halted)
      (pending : state.pendingStart = some (.requested ticket)) (opened : around.gate = false) :
      AcceptsStart around state .conclude

def StartAccepted (id : AccountId) (before : Keeper) (event : Keeper.Event) : Prop :=
  ∃ move ∈ moveOf? id event, ∃ state ∈ before.instance? id, AcceptsStart before.around state move

/-- The lines that were published for an instance since it was registered or, if that was later,
since it last accepted the start of an operator. -/
inductive Listened (id : AccountId) : Keeper → List String → Prop where
  | begins {before after : Keeper} {event : Keeper.Event} {said : List FeedEvent}
      (reachable : before.Reachable) (happens : before.step? event = some after)
      (begins : before.instance? id = none ∨ StartAccepted id before event)
      (present : (after.instance? id).isSome)
      (published : (after.ledger id).feed = (before.ledger id).feed ++ said) :
      Listened id after (linesOn id said)
  | goesOn {before after : Keeper} {event : Keeper.Event} {lines : List String}
      {said : List FeedEvent} (listened : Listened id before lines)
      (happens : before.step? event = some after) (other : ¬ StartAccepted id before event)
      (present : (after.instance? id).isSome)
      (published : (after.ledger id).feed = (before.ledger id).feed ++ said) :
      Listened id after (lines ++ linesOn id said)

/-- Neither is a line published nor anything of the history changed. -/
structure Unheard (before after : Instance) : Prop where
  history : after.history = before.history
  feed : ∃ said, after.feed = before.feed ++ said ∧ ∀ id, linesOn id said = []

/-- The history goes on with the lines that are published, and has as many as there is space for. -/
def Recalls (id : AccountId) (capacity : Nat) (before after : Instance) : Prop :=
  ∃ said, after.feed = before.feed ++ said ∧
    ∀ lines : List String, before.history = lines.rtake capacity →
      after.history = (lines ++ linesOn id said).rtake capacity

def Forgets (before after : Instance) : Prop :=
  after.history = [] ∧ ∃ said, after.feed = before.feed ++ said ∧ ∀ id, linesOn id said = []

variable {id : AccountId}

theorem linesOn_append (first second : List FeedEvent) :
    linesOn id (first ++ second) = linesOn id first ++ linesOn id second :=
  List.filterMap_append

theorem linesOn_published (outcome : Outcome) (named other : AccountId) :
    linesOn other (outcome.published named) = [] := by
  unfold Outcome.published
  split <;> rfl

/-- The end of a list is kept when one more is added to the end that was kept before. -/
theorem rtake_append_singleton (capacity : Nat) (lines : List String) (line : String) :
    (lines.rtake capacity ++ [line]).rtake capacity = (lines ++ [line]).rtake capacity := by
  cases capacity with
  | zero => simp only [List.rtake_zero]
  | succ capacity =>
    rw [List.rtake_concat_succ, List.rtake_concat_succ]
    simp only [List.rtake, List.drop_drop, List.length_drop]
    congr 2
    omega

namespace Unheard

variable {first second third : Instance}

theorem refl (state : Instance) : Unheard state state :=
  ⟨rfl, [], (List.append_nil _).symm, fun _ => rfl⟩

/-- What is said neither in the history nor on the feed may change. -/
theorem of_same (history : second.history = first.history) (feed : second.feed = first.feed) :
    Unheard first second :=
  ⟨history, [], by rw [feed, List.append_nil], fun _ => rfl⟩

theorem of_said {said : List FeedEvent} (history : second.history = first.history)
    (feed : second.feed = first.feed ++ said) (quiet : ∀ id, linesOn id said = []) :
    Unheard first second :=
  ⟨history, said, feed, quiet⟩

theorem trans (one : Unheard first second) (other : Unheard second third) :
    Unheard first third := by
  obtain ⟨said, feed, quiet⟩ := one.feed
  obtain ⟨more, continued, quietly⟩ := other.feed
  refine ⟨other.history.trans one.history, said ++ more, ?_, fun id => ?_⟩
  · rw [continued, feed, List.append_assoc]
  · rw [linesOn_append, quiet, quietly, List.append_nil]

theorem recalls (unheard : Unheard first second) (capacity : Nat) :
    Recalls id capacity first second := by
  obtain ⟨said, feed, quiet⟩ := unheard.feed
  refine ⟨said, feed, fun lines kept => ?_⟩
  rw [quiet, List.append_nil, unheard.history, kept]

end Unheard

theorem Recalls.trans {capacity : Nat} {first second third : Instance}
    (one : Recalls id capacity first second) (other : Recalls id capacity second third) :
    Recalls id capacity first third := by
  obtain ⟨said, feed, recalls⟩ := one
  obtain ⟨more, continued, recallsMore⟩ := other
  refine ⟨said ++ more, ?_, fun lines kept => ?_⟩
  · rw [continued, feed, List.append_assoc]
  · rw [linesOn_append, ← List.append_assoc]
    exact recallsMore _ (recalls lines kept)

theorem Forgets.unheard {first second third : Instance} (forgets : Forgets first second)
    (unheard : Unheard second third) : Forgets first third := by
  obtain ⟨empty, said, feed, quiet⟩ := forgets
  obtain ⟨more, continued, quietly⟩ := unheard.feed
  refine ⟨unheard.history.trans empty, said ++ more, ?_, fun id => ?_⟩
  · rw [continued, feed, List.append_assoc]
  · rw [linesOn_append, quiet, quietly, List.append_nil]

section moves

variable (around : Surroundings) (state : Instance)

theorem unheard_transition (outcome : Outcome) : Unheard state (state.publishTransition outcome) :=
  .of_said rfl rfl fun _ => linesOn_published _ _ _

private theorem unheard_notice (notice : Notice) : Unheard state (state.publishNotice notice) :=
  .of_said rfl rfl fun _ => rfl

private theorem unheard_complete (purpose : Purpose) (result : Except Error Unit) :
    Unheard state (state.complete purpose result) := by
  unfold Instance.complete
  split <;> first | exact .of_same rfl rfl | (split <;> exact .of_same rfl rfl)

theorem unheard_spawn : Unheard state (state.spawn around).1 := by
  unfold Instance.spawn
  dsimp only
  split
  · exact .of_same rfl rfl
  · have told := (unheard_transition { state with
      generation := state.generation + 1, handle := none, machine := state.machine.spawnFailed.1 }
        state.machine.spawnFailed.2).trans (unheard_notice _ (.startFailed none))
    exact ⟨told.history, told.feed⟩

private theorem unheard_brought {result : Instance × Ending} (same : SameButBots state result.1) :
    Unheard state result.1 := by
  obtain ⟨bots, messages, same⟩ := same
  rw [same]
  exact .of_same rfl rfl

theorem unheard_carries : Carries around Unheard where
  trans := Unheard.trans
  notice := unheard_notice
  spawn := unheard_spawn around
  terminate := fun state graceful => unheard_brought state (terminate_same around state graceful)
  busy := fun _ _ => .of_same rfl rfl
  complete := unheard_complete

/-- A start of the schedule, and one that is refused, is made with the history that is there. -/
theorem unheard_start (operator : Bool)
    (other : operator = true → state.machine.phase = .stopped → around.gate = true) :
    Unheard state (state.start around operator).1 := by
  unfold Instance.start
  split
  · exact .refl state
  · rename_i opened
    rcases start_cases state.machine with ⟨_, refused⟩ | ⟨stopped, started⟩
    · rw [refused]
      exact .refl state
    · have scheduled : operator = false := by
        cases operator with
        | false => rfl
        | true => exact absurd (other rfl stopped) opened
      rw [started, scheduled]
      dsimp only
      generalize begun : Instance.publishTransition _ _ = between
      have told : Unheard state between :=
        begun ▸ .of_said rfl rfl fun _ => linesOn_published _ _ _
      have spawned := told.trans (unheard_spawn around between)
      generalize between.spawn around = result at spawned
      obtain ⟨after, error | nothing⟩ := result
      · exact spawned
      · exact spawned.trans (.of_same rfl rfl)

/-- A start that an operator asked for forgets the history, even if its launch fails. -/
theorem forgets_start (opened : around.gate = false) (stopped : state.machine.phase = .stopped) :
    Forgets state (state.start around true).1 := by
  rcases start_cases state.machine with ⟨running, _⟩ | ⟨_, started⟩
  · exact absurd stopped running
  · simp only [Instance.start, opened, Bool.false_eq_true, if_false, started, if_true]
    generalize begun : Instance.publishTransition _ _ = between
    have told : Forgets state between :=
      begun ▸ ⟨rfl, _, rfl, fun _ => linesOn_published _ _ _⟩
    have spawned := told.unheard (unheard_spawn around between)
    generalize between.spawn around = result at spawned
    obtain ⟨after, error | nothing⟩ := result
    · exact spawned
    · exact spawned.unheard (.of_same rfl rfl)

private theorem unheard_startFor (ticket : Ticket)
    (refuses : state.machine.phase = .stopped → around.gate = true) :
    Unheard state (state.startFor around ticket) := by
  have started := unheard_start around state true fun _ => refuses
  exact started.trans (.of_same rfl rfl)

private theorem unheard_stop (ticket : Ticket) : Unheard state (state.stop around ticket) := by
  unfold Instance.stop
  split
  · exact .of_same rfl rfl
  · split
    · exact .of_same rfl rfl
    · rename_i machine outcome _
      have told : Unheard state
          ({ state with machine, restartAt := none }.publishTransition outcome) :=
        .of_said rfl rfl fun _ => linesOn_published _ _ _
      exact told.trans ((unheard_carries around).perform _ outcome.effects (.stop ticket))

private theorem unheard_reboot (ticket : Ticket) (running : state.machine.phase ≠ .stopped) :
    Unheard state (state.reboot around ticket) := by
  have notStopped : state.machine.phase.isStopped = false := by
    simpa [Phase.isStopped] using running
  simp only [Instance.reboot, notStopped, Bool.false_eq_true, if_false]
  split
  · exact .of_same rfl rfl
  · split
    · exact .of_same rfl rfl
    · rename_i machine outcome _
      have told : Unheard state ({ state with machine }.publishTransition outcome) :=
        .of_said rfl rfl fun _ => linesOn_published _ _ _
      exact told.trans ((unheard_carries around).perform _ outcome.effects (.reboot ticket))

private theorem unheard_scheduledRestart : Unheard state (state.scheduledRestart around) := by
  unfold Instance.scheduledRestart
  dsimp only
  split
  · exact .of_same rfl rfl
  · split
    · exact .of_same rfl rfl
    · rename_i machine outcome _
      have told : Unheard state
          ({ state with restartAt := none, machine }.publishNotice .scheduledRestart) :=
        .of_said rfl rfl fun _ => rfl
      exact (told.trans (unheard_transition _ outcome)).trans
        ((unheard_carries around).perform _ outcome.effects .scheduledRestart)

private theorem unheard_update (ticket : Ticket) (config : InstanceConfig) :
    Unheard state (state.update ticket config) := by
  unfold Instance.update
  split <;> exact .of_same rfl rfl

private theorem unheard_apply (event : LifecycleEvent) : Unheard state (state.apply around event) := by
  unfold Instance.apply
  generalize state.machine.handle event around.uptime = step
  obtain ⟨machine, outcome⟩ := step
  have told : Unheard state ({ state with machine }.publish (.lifecycle state.id event)) :=
    .of_said rfl rfl fun _ => rfl
  exact (told.trans (unheard_transition _ outcome)).trans
    ((unheard_carries around).perform _ outcome.effects _)

/-- The only line that a report publishes is its own, and it is remembered. -/
theorem receive_recalls (named : state.machine.id = id) (message : Message) :
    Recalls id around.settings.outputHistoryLines.toNat state (state.receive around message) := by
  unfold Instance.receive
  split
  · cases message.report with
    | exited code =>
      have freed : Unheard state { state with handle := none } := .of_same rfl rfl
      exact (freed.trans (unheard_apply around _ _)).recalls _
    | line text =>
      have heard : Recalls id around.settings.outputHistoryLines.toNat state
          ((state.remember around text).publish (.output state.id text)) := by
        refine ⟨[.output state.id text], rfl, fun lines kept => ?_⟩
        have spoken : linesOn id [.output state.id text] = [text] := by
          subst named
          simp [linesOn, lineOf?, Instance.id]
        rw [spoken, ← rtake_append_singleton, ← kept]
        rfl
      simp only [Instance.hear]
      cases classify text with
      | none => exact heard
      | some event => exact heard.trans ((unheard_apply around _ event).recalls _)
  · exact (Unheard.refl state).recalls _

variable {around} {state}

/-- Only reports and the starts of an operator touch the history. -/
theorem move_recalls (named : state.machine.id = id) {move : Move} {next : Instance}
    (moves : Moves around state move (.kept next))
    (other : ¬ AcceptsStart around state move) :
    Recalls id around.settings.outputHistoryLines.toNat state next := by
  generalize kept : Account.kept next = account at moves
  cases moves with
  | @receive message rest idle messages =>
    cases kept
    exact receive_recalls around { state with messages := rest } named message
  | @serve request rest idle requests =>
    have refuses : starts request.command = true → state.machine.phase = .stopped →
        around.gate = true := by
      intro start stopped
      by_contra opened
      exact other (.asked idle (by rw [requests]; rfl) start stopped (by simpa using opened))
    have queued : Unheard state { state with requests := rest } := .of_same rfl rfl
    obtain ⟨ticket, command⟩ := request
    refine Unheard.recalls (queued.trans ?_) _
    cases command with
    | start =>
      cases kept
      exact unheard_startFor around _ ticket (refuses rfl)
    | stop =>
      cases kept
      exact unheard_stop around _ ticket
    | reboot =>
      cases kept
      by_cases stopped : state.machine.phase = .stopped
      · have atOnce : state.machine.phase.isStopped = true := by simp [Phase.isStopped, stopped]
        simp only [Instance.reboot, atOnce, if_true]
        exact unheard_startFor around _ ticket (refuses rfl)
      · exact unheard_reboot around _ ticket stopped
    | update config =>
      cases kept
      exact unheard_update _ ticket config
    | delete =>
      simp only [Instance.serve, Instance.delete] at kept
      split at kept <;> cases kept
      exact .of_same rfl rfl
  | restart =>
    cases kept
    exact (unheard_scheduledRestart around state).recalls _
  | conclude halted =>
    cases kept
    unfold Instance.afterStop
    dsimp only
    refine Unheard.recalls ?_ _
    have free : Unheard state
        ({ state with busy := none, restartAt := none, pendingStart := none }.releaseStops) :=
      .of_same rfl rfl
    cases pending : state.pendingStart with
    | none => exact free
    | some start =>
      cases start with
      | requested ticket =>
        refine free.trans ((unheard_start around _ true fun _ _ => ?_).trans (.of_same rfl rfl))
        by_contra opened
        exact other (.pending halted pending (by simpa using opened))
      | scheduled => exact free.trans (unheard_start around _ false (by simp))
  | resume busy ended =>
    cases kept
    exact ((unheard_carries around).goOn state _ (.refl state)).recalls _
  | @timeout wait bot busy held due =>
    cases kept
    unfold Instance.runOut
    refine Unheard.recalls ?_ _
    cases wait.pressure with
    | asked =>
      exact (unheard_carries around).goOn state wait
        (unheard_brought state (kill_same around state))
    | forced => exact (unheard_carries around).goOn state wait (.refl state)
  | giveUp =>
    cases kept
    exact (Unheard.of_same rfl rfl).recalls _

/-- A start that is accepted is made, and the history begins anew with it. -/
theorem accepted_forgets (sound : Sound state state) {move : Move} {next : Instance}
    (moves : Moves around state move (.kept next)) (accepts : AcceptsStart around state move) :
    Forgets state next := by
  generalize kept : Account.kept next = account at moves
  cases accepts with
  | asked idle head start stopped opened =>
    cases moves with
    | @serve request rest _ requests =>
      obtain rfl : request = _ := by simpa [requests] using head
      have begun := forgets_start around { state with requests := rest } opened stopped
      have answered : Forgets state
          (Instance.startFor around request.ticket { state with requests := rest }) :=
        begun.unheard (.of_same rfl rfl)
      obtain ⟨ticket, command⟩ := request
      cases command with
      | start =>
        cases kept
        exact answered
      | reboot =>
        cases kept
        have atOnce : state.machine.phase.isStopped = true := by simp [Phase.isStopped, stopped]
        simp only [Instance.reboot, atOnce, if_true]
        exact answered
      | stop | update | delete => cases start
  | @pending ticket halted pending opened =>
    cases moves with
    | conclude =>
      cases kept
      simp only [Instance.afterStop, pending]
      have begun := forgets_start around
        { state with busy := none, restartAt := none, pendingStart := none }.releaseStops opened
          (sound.halted halted)
      exact begun.unheard (.of_same rfl rfl)

end moves

section steps

variable {before after keeper : Keeper} {event : Keeper.Event} {state : Instance}

private theorem call_around (keeper : Keeper) (target : AccountId) (command : Command) :
    (keeper.call target command).1.around = keeper.around := by
  unfold Keeper.call
  split <;> rfl

private theorem stopEach_around (targets : List AccountId) (keeper : Keeper) :
    (keeper.stopEach targets).1.around = keeper.around := by
  induction targets generalizing keeper with
  | nil => rfl
  | cons target rest ih =>
    have called := call_around keeper target .stop
    unfold Keeper.stopEach
    generalize keeper.call target .stop = result at called
    obtain ⟨between, error | call⟩ := result
    · exact (ih between).trans called
    · exact (ih between).trans called

/-- The settings of a keeper are never changed. -/
theorem step_settings (happens : before.step? event = some after) :
    after.around.settings = before.around.settings := by
  cases about : subject? event with
  | some id =>
    obtain ⟨turn, acts⟩ := step_confined about
    obtain ⟨account, -, rfl⟩ := Option.map_eq_some_iff.mp ((acts before).symm.trans happens)
    cases account <;> rfl
  | none =>
    cases event with
    | stopAll =>
      cases happens
      exact congrArg Surroundings.settings (stopEach_around _ before)
    | beginUpdate =>
      cases happens
      unfold Keeper.beginUpdate
      split
      · rfl
      · split <;> rfl
    | endUpdate =>
      simp only [Keeper.step?, Keeper.endUpdate?] at happens
      split at happens <;> cases happens
      rfl
    | advance | surround =>
      cases happens
      rfl
    | _ => cases about

private theorem step_recalls (reachable : before.Reachable) (happens : before.step? event = some after)
    (registered : before.instance? id = some state) {next : Instance}
    (present : after.instance? id = some next) (other : ¬ StartAccepted id before event) :
    Recalls id before.around.settings.outputHistoryLines.toNat state next := by
  rcases step_turns happens registered with ⟨_, kept, unmoved⟩ | ⟨move, account, rfl, found, moves⟩
  · cases present.symm.trans kept
    obtain ⟨_, _, _, _, rfl⟩ := unmoved.same
    exact (Unheard.of_same rfl rfl).recalls _
  · cases found.symm.trans (kept_of_instance? present)
    have named := (reachable_inOrder reachable _ (kept_of_instance? registered)).2
    refine move_recalls named moves fun accepts => other ⟨move, ?_, state, registered, accepts⟩
    exact moveOf?_eq_some.mpr rfl

private theorem step_forgets (reachable : before.Reachable) (happens : before.step? event = some after)
    (accepted : StartAccepted id before event) (present : after.instance? id = some state) :
    ∃ earlier, before.instance? id = some earlier ∧ Forgets earlier state := by
  obtain ⟨move, moved, earlier, registered, accepts⟩ := accepted
  obtain rfl := moveOf?_eq_some.mp moved
  obtain ⟨_, account, found, moves, rfl⟩ := moves_of_step happens
  cases found.symm.trans registered
  have kept := kept_of_instance? present
  rw [get?_put, if_pos rfl] at kept
  cases kept
  exact ⟨earlier, registered, accepted_forgets (reachable_sound reachable registered) moves accepts⟩

theorem Listened.registered {lines : List String} (listened : Listened id keeper lines) :
    ∃ state, keeper.instance? id = some state := by
  cases listened with
  | begins _ _ _ present => exact Option.isSome_iff_exists.mp present
  | goesOn _ _ _ present => exact Option.isSome_iff_exists.mp present

theorem Listened.reachable {lines : List String} (listened : Listened id keeper lines) :
    keeper.Reachable := by
  induction listened with
  | begins reachable happens => exact reachable_of_step reachable happens
  | goesOn _ happens _ _ _ ih => exact reachable_of_step ih happens

/-- There are lines that an instance is known by, maybe none, from when it was registered on. -/
theorem exists_listened (reachable : keeper.Reachable)
    (registered : keeper.instance? id = some state) :
    ∃ lines, Listened id keeper lines := by
  obtain ⟨around, opened, run⟩ := reachable
  induction run generalizing state with
  | refl => cases registered
  | @step before after event run _ happens ih =>
    have earlier : before.Reachable := ⟨around, opened, run⟩
    obtain ⟨said, published⟩ := step_feed earlier happens id
    have present : (after.instance? id).isSome := by simp [registered]
    by_cases begins : before.instance? id = none ∨ StartAccepted id before event
    · exact ⟨_, .begins earlier happens begins present published.symm⟩
    · obtain ⟨absent, other⟩ := not_or.mp begins
      obtain ⟨was, there⟩ := Option.ne_none_iff_exists'.mp absent
      obtain ⟨lines, listened⟩ := ih there
      exact ⟨_, listened.goesOn happens other present published.symm⟩

/-- What is remembered is the end of what was published. -/
theorem Listened.history {lines : List String} (listened : Listened id keeper lines)
    (registered : keeper.instance? id = some state) :
    state.history = lines.rtake keeper.around.settings.outputHistoryLines.toNat := by
  induction listened generalizing state with
  | @begins before after event said reachable happens begins present published =>
    have empty : state.history = [] ∧ linesOn id said = [] := by
      rw [ledger_of_instance? registered] at published
      rcases begins with absent | accepted
      · obtain ⟨policy, config, rfl⟩ := step_registered happens absent registered
        rw [List.self_eq_append_right.mp published]
        exact ⟨rfl, rfl⟩
      · obtain ⟨earlier, there, empty, more, feed, quiet⟩ := step_forgets reachable happens accepted
          registered
        rw [ledger_of_instance? there] at published
        rw [List.append_cancel_left (published.symm.trans feed)]
        exact ⟨empty, quiet id⟩
    rw [empty.1, empty.2, List.rtake_nil]
  | @goesOn before after event lines said listened happens other present published ih =>
    have reachable := listened.reachable
    obtain ⟨earlier, there⟩ := listened.registered
    obtain ⟨more, feed, recalls⟩ := step_recalls reachable happens there registered other
    rw [ledger_of_instance? registered, ledger_of_instance? there] at published
    rw [step_settings happens, List.append_cancel_left (published.symm.trans feed)]
    exact recalls lines (ih there)

/-- The output that a keeper shows is the end of what was published since an operator last started
the instance or, before that, since it was registered: as many lines as the keeper is set to, or
all if there are fewer. -/
theorem output_history_is_tail (reachable : keeper.Reachable)
    (registered : keeper.instance? id = some state) :
    (∃ lines, Listened id keeper lines) ∧ ∀ lines, Listened id keeper lines →
      keeper.recentOutput id =
        .ok (lines.rtake keeper.around.settings.outputHistoryLines.toNat) := by
  refine ⟨exists_listened reachable registered, fun lines listened => ?_⟩
  rw [← listened.history registered]
  simp only [Keeper.recentOutput, Keeper.read, Keeper.find, registered]
  rfl

end steps

/-- Of three lines a keeper that is set to two shows the last ones. -/
theorem output_history_is_tail_of_three : ∃ (keeper : Keeper) (lines : List String),
    Listened 100001 keeper lines ∧ keeper.recentOutput 100001 = .ok (lines.rtake 2) ∧
      lines.rtake 2 = ["b", "c"] := by
  let start : Keeper :=
    { around := { settings := { outputHistoryLines := 2 }, host := { programs := ["bot"] } } }
  have meets : ((start.steps? [
      .add (rehearsedConfig 100001 []) ⟨"nameless".toList, by decide, by decide⟩, .start 100001,
      .move 100001 .serve, .print 100001 [97, 10, 98, 10, 99, 10],
      .move 100001 .receive, .move 100001 .receive, .move 100001 .receive]).any fun keeper =>
        (keeper.instance? 100001).any fun state => decide (
          keeper.around.settings.outputHistoryLines = 2 ∧
          keeper.recentOutput 100001 = .ok ["b", "c"])) = true := by
    decide +kernel
  obtain ⟨keeper, steps, checked⟩ := (Option.any_eq_true _ _).mp meets
  obtain ⟨state, registered, checked⟩ := (Option.any_eq_true _ _).mp checked
  obtain ⟨capacity, shown⟩ := of_decide_eq_true checked
  have reachable : keeper.Reachable := ⟨_, rfl, run_of_steps .refl _ (fun _ _ => trivial) steps⟩
  obtain ⟨⟨lines, listened⟩, tail⟩ := output_history_is_tail reachable registered
  have shows := tail lines listened
  rw [capacity] at shows
  exact ⟨keeper, lines, listened, shows, (Except.ok.inj (shows.symm.trans shown))⟩

end BotKeeper.Proofs
