import BotKeeper.Proofs.History
import BotKeeper.Proofs.Output

/-! What earlier processes of an instance still have to report. Each launch that is tried has a
number above those of all earlier ones, and each report carries the number of its process. So once
another process has taken its place, nothing of a process is heard any more. -/

namespace BotKeeper.Proofs

/-- From one keeper to another, with the instance of an account registered throughout. -/
inductive Stays (id : AccountId) (start : Keeper) : Keeper → Prop where
  | refl (present : (start.instance? id).isSome) : Stays id start start
  | step {before after : Keeper} {event : Keeper.Event} (stays : Stays id start before)
      (happens : before.step? event = some after) (present : (after.instance? id).isSome) :
      Stays id start after

def Registers (id : AccountId) (first : Keeper) : Prop :=
  ∃ (before : Keeper) (event : Keeper.Event), before.Reachable ∧ before.step? event = some first ∧
    before.instance? id = none

/-- The processes that an instance has launched itself since it was registered, the latest first. -/
def ownBots (id : AccountId) (first keeper : Keeper) : List Bot :=
  (keeper.ledger id).bots.take ((keeper.ledger id).bots.length - (first.ledger id).bots.length)

/-- An event tells that a launch has failed: the start is over, and not because of an exit. -/
def FailsLaunch (id : AccountId) (said : List FeedEvent) : Prop :=
  .phaseChanged id .starting .stopped ∈ said ∧ ∀ code, .lifecycle id (.processExited code) ∉ said

/-- A launch is tried between two moments: there is another process, or it is told that there
could not be one. -/
def TriesLaunch (id : AccountId) (before after : Keeper) : Prop :=
  (after.ledger id).bots.length ≠ (before.ledger id).bots.length ∨
    ∃ said, (after.ledger id).feed = (before.ledger id).feed ++ said ∧ FailsLaunch id said

/-- A report is taken out of the queue when its turn has come, and nothing else comes of it. -/
def IsDropped (id : AccountId) (keeper : Keeper) (message : Message) : Prop :=
  ∀ state rest, keeper.instance? id = some state → state.busy = none →
    state.messages = message :: rest →
    keeper.step? (.move id .receive) = some (keeper.put id (.kept { state with messages := rest }))

structure Owned (own past : List Bot) (channel : Channel) : Prop where
  bots : channel.bots = own ++ past
  gone : AllGone past
  descending : (own.map (·.generation)).Pairwise (· > ·)
  bounded : ∀ bot ∈ own, 0 < bot.generation ∧ bot.generation ≤ channel.generation
  sent : ∀ message ∈ channel.messages, ∃ bot ∈ own, bot.generation = message.generation

/-- The number of tries never falls, and where it is the same nothing tells of another launch. -/
structure Tries (before after : Instance) : Prop where
  older : before.generation ≤ after.generation
  still : after.generation = before.generation → after.bots.length = before.bots.length ∧
    ∃ said, after.feed = before.feed ++ said ∧ ∀ id, ¬ FailsLaunch id said

variable {id : AccountId}

section owned

variable {own past : List Bot} {before after : Channel}

theorem Flows.numbered (flows : Flows id before after) (numbered : Numbered before.bots) :
    Numbered after.bots := by
  cases flows with
  | stirred member stirs => exact numbered.map _ (numbered.replace member stirs.changes.ages)
  | published | dropped | heard | exited | unlaunched => exact numbered

/-- Whatever happens to the processes, each keeps the number of its launch. -/
theorem Owned.aged (owned : Owned own past before) (change : Bot → Bot)
    (ages : ∀ bot ∈ before.bots, Ages bot (change bot)) :
    Owned (own.map change) (past.map change) { before with bots := before.bots.map change } := by
  rw [owned.bots] at ages
  have mine : ∀ bot ∈ own, (change bot).generation = bot.generation := fun bot member =>
    (ages bot (List.mem_append_left _ member)).generation
  refine ⟨by rw [owned.bots, List.map_append], ?_, ?_, ?_, ?_⟩
  · exact owned.gone.map change fun bot member => ages bot (List.mem_append_right _ member)
  · rw [List.map_map, List.map_congr_left (g := (·.generation)) mine]
    exact owned.descending
  · intro bot member
    obtain ⟨was, present, rfl⟩ := List.mem_map.mp member
    rw [mine was present]
    exact owned.bounded was present
  · intro message member
    obtain ⟨bot, present, same⟩ := owned.sent message member
    exact ⟨change bot, List.mem_map_of_mem present, (mine bot present).trans same⟩

theorem Owned.fewer (owned : Owned own past before) {messages : List Message}
    (fewer : ∀ message ∈ messages, message ∈ before.messages) (handle : Option Nat)
    (feed : List FeedEvent) : Owned own past { before with messages, handle, feed } :=
  ⟨owned.bots, owned.gone, owned.descending, owned.bounded,
    fun message member => owned.sent message (fewer message member)⟩

theorem Flows.owned (flows : Flows id before after) (numbered : Numbered before.bots)
    (owned : Owned own past before) :
    ∃ mine others, Owned mine others after ∧ others.length = past.length := by
  cases flows with
  | published => exact ⟨own, past, owned.fewer (fun _ member => member) _ _, rfl⟩
  | dropped messages | heard messages | exited messages =>
    refine ⟨own, past, owned.fewer (fun message member => ?_) _ _, rfl⟩
    exact messages ▸ List.mem_cons_of_mem _ member
  | unlaunched =>
    refine ⟨own, past,
      ⟨owned.bots, owned.gone, owned.descending, fun bot member => ?_, owned.sent⟩, rfl⟩
    obtain ⟨positive, bound⟩ := owned.bounded bot member
    exact ⟨positive, Nat.le_succ_of_le bound⟩
  | @stirred bot bytes givesUp change member stirs =>
    have changes := stirs.changes
    have aged := owned.aged _ (numbered.replace member changes.ages)
    refine ⟨_, _, ⟨aged.bots, aged.gone, aged.descending, aged.bounded, fun message present => ?_⟩,
      List.length_map _⟩
    rcases List.mem_append.mp present with old | new
    · exact aged.sent message old
    -- A process of an earlier instance is gone and reports nothing.
    · obtain ⟨report, said, rfl⟩ := List.mem_map.mp new
      have there := changes.there said
      rw [owned.bots] at member
      rcases List.mem_append.mp member with mine | other
      · have ages := numbered.replace (owned.bots ▸ List.mem_append_left _ mine) changes.ages bot
          (owned.bots ▸ List.mem_append_left _ mine)
        exact ⟨_, List.mem_map_of_mem mine, ages.generation.trans changes.ages.generation.symm⟩
      · exact Bool.noConfusion (there.symm.trans (owned.gone bot other))

theorem Flow.owned (flow : Flow id before after) (numbered : Numbered before.bots)
    (owned : Owned own past before) : Numbered after.bots ∧
      ∃ mine others, Owned mine others after ∧ others.length = past.length := by
  induction flow with
  | refl => exact ⟨numbered, own, past, owned, rfl⟩
  | tail _ flows ih =>
    obtain ⟨number, mine, others, owns, length⟩ := ih
    obtain ⟨last, rest, ownsAfter, sameLength⟩ := flows.owned number owns
    exact ⟨flows.numbered number, last, rest, ownsAfter, sameLength.trans length⟩

/-- A new process has a number above those of all that were there before. -/
theorem Launches.owned (launches : Launches before after) (owned : Owned own past before) :
    ∃ bot, Owned (bot :: own) past after := by
  cases launches with
  | @launched bot alive empty generation =>
    refine ⟨bot, by rw [owned.bots, List.cons_append], owned.gone, ?_, ?_, ?_⟩
    · rw [List.map_cons, List.pairwise_cons]
      refine ⟨fun number member => ?_, owned.descending⟩
      obtain ⟨earlier, present, rfl⟩ := List.mem_map.mp member
      have bound := (owned.bounded earlier present).2
      show earlier.generation < bot.generation
      omega
    · intro other member
      rcases List.mem_cons.mp member with rfl | inside
      · exact ⟨generation ▸ Nat.succ_pos _, Nat.le_of_eq generation⟩
      · obtain ⟨positive, bound⟩ := owned.bounded other inside
        exact ⟨positive, Nat.le_succ_of_le bound⟩
    · intro message member
      obtain ⟨other, present, same⟩ := owned.sent message member
      exact ⟨other, List.mem_cons_of_mem _ present, same⟩

theorem Passes.owned (passes : Passes id before after) (numbered : Numbered before.bots)
    (older : before.generation ≤ after.generation) (owned : Owned own past before) :
    ∃ mine others, Owned mine others after ∧ others.length = past.length := by
  cases passes with
  | turned turns =>
    cases turns with
    | went flow => exact (flow.owned numbered owned).2
    | launched flow launches quiet =>
      obtain ⟨_, mine, others, owns, length⟩ := flow.owned numbered owned
      obtain ⟨bot, ownsAfter⟩ := launches.owned owns
      exact ⟨_, _, ownsAfter.fewer (fun _ member => member) _ _, length⟩
  | vacated free =>
    -- The number of tries is where it began, so nothing has been launched yet.
    have none : own = [] := by
      refine List.eq_nil_iff_forall_not_mem.mpr fun bot member => ?_
      obtain ⟨positive, bound⟩ := owned.bounded bot member
      dsimp only at older
      omega
    subst none
    exact ⟨[], past, ⟨owned.bots, owned.gone, .nil, by simp, by simp⟩, rfl⟩

end owned

section moves

variable (around : Surroundings) (state : Instance) {first second third : Instance}

private theorem not_failsLaunch_append {said more : List FeedEvent} (one : ¬ FailsLaunch id said)
    (other : ¬ FailsLaunch id more) : ¬ FailsLaunch id (said ++ more) := by
  rintro ⟨fails, unexited⟩
  simp only [List.mem_append, not_or] at fails unexited
  rcases fails with early | late
  · exact one ⟨early, fun code => (unexited code).1⟩
  · exact other ⟨late, fun code => (unexited code).2⟩

namespace Tries

theorem of_said {said : List FeedEvent} (generation : second.generation = first.generation)
    (bots : second.bots.length = first.bots.length) (feed : second.feed = first.feed ++ said)
    (fine : ∀ id, ¬ FailsLaunch id said) : Tries first second :=
  ⟨Nat.le_of_eq generation.symm, fun _ => ⟨bots, said, feed, fine⟩⟩

theorem of_same (generation : second.generation = first.generation)
    (bots : second.bots.length = first.bots.length) (feed : second.feed = first.feed) :
    Tries first second :=
  have nothing : second.feed = first.feed ++ [] := by rw [feed, List.append_nil]
  .of_said generation bots nothing (by simp [FailsLaunch])

theorem of_older (older : first.generation < second.generation) : Tries first second :=
  ⟨Nat.le_of_lt older, fun same => absurd same (Nat.ne_of_gt older)⟩

theorem trans (one : Tries first second) (other : Tries second third) : Tries first third := by
  refine ⟨Nat.le_trans one.older other.older, fun same => ?_⟩
  have begins := one.older
  have ends := other.older
  obtain ⟨bots, said, feed, fine⟩ := one.still (by omega)
  obtain ⟨sameBots, more, continued, still⟩ := other.still (by omega)
  refine ⟨sameBots.trans bots, said ++ more, ?_, fun id => ?_⟩
  · rw [continued, feed, List.append_assoc]
  · exact not_failsLaunch_append (fine id) (still id)

end Tries

private theorem complete_tries (purpose : Purpose) (result : Except Error Unit) :
    Tries state (state.complete purpose result) := by
  have same := channel_complete state [] false purpose result
  exact .of_same (congrArg Channel.generation same) (congrArg (·.bots.length) same)
    (congrArg Channel.feed same)

private theorem spawn_tries : state.generation < (state.spawn around).1.generation := by
  unfold Instance.spawn
  dsimp only
  split <;> exact Nat.lt_succ_self _

theorem tries_carries : Carries around Tries where
  trans := Tries.trans
  notice := fun _ _ => .of_said rfl rfl rfl (by simp [FailsLaunch])
  spawn := fun state => .of_older (spawn_tries around state)
  terminate := by
    intro state graceful
    have length := terminate_length around state graceful
    obtain ⟨bots, messages, same⟩ := terminate_same around state graceful
    rw [same] at length ⊢
    exact .of_same rfl length rfl
  busy := fun _ _ => .of_same rfl rfl rfl
  complete := complete_tries

private theorem start_tries (operator : Bool) : Tries state (state.start around operator).1 := by
  unfold Instance.start
  split
  · exact .of_same rfl rfl rfl
  · rcases start_cases state.machine with ⟨_, refused⟩ | ⟨stopped, started⟩
    · rw [refused]
      exact .of_same rfl rfl rfl
    · rw [started]
      dsimp only
      generalize begun : Instance.publishTransition _ _ = between
      have same : between.generation = state.generation := begun ▸ rfl
      have older := spawn_tries around between
      rw [same] at older
      generalize between.spawn around = result at older
      obtain ⟨after, error | nothing⟩ := result
      · exact .of_older older
      · exact .of_older older

theorem startFor_tries (ticket : Ticket) : Tries state (state.startFor around ticket) :=
  (start_tries around state true).trans (.of_same rfl rfl rfl)

private theorem not_failsLaunch_published {outcome : Outcome} (named : AccountId)
    (other : outcome.after ≠ .stopped) : ¬ FailsLaunch id (outcome.published named) := by
  rintro ⟨fails, _⟩
  unfold Outcome.published at fails
  split at fails
  · simp only [List.mem_singleton, FeedEvent.phaseChanged.injEq] at fails
    exact other fails.2.2.symm
  · cases fails

/-- A step after which the instance is not stopped, with the effects of it. -/
theorem step_tries {between : Instance} {outcome : Outcome} (purpose : Purpose)
    (begins : Tries state between) (other : outcome.after ≠ .stopped) :
    Tries state ((between.publishTransition outcome).perform around outcome.effects purpose) := by
  have told : Tries between (between.publishTransition outcome) :=
    .of_said rfl rfl rfl fun _ => not_failsLaunch_published between.id other
  exact (begins.trans told).trans ((tries_carries around).perform _ outcome.effects purpose)

private theorem stop_tries (ticket : Ticket) : Tries state (state.stop around ticket) := by
  unfold Instance.stop
  split
  · exact .of_same rfl rfl rfl
  · rcases stop_cases state.machine with ⟨_, refused⟩ | ⟨machine, graceful, _, _, stopped⟩
    · rw [refused]
      exact .of_same rfl rfl rfl
    · rw [stopped]
      have begins : Tries state { state with machine, restartAt := none } := .of_same rfl rfl rfl
      exact step_tries around state (.stop ticket) begins (by simp)

private theorem reboot_tries (ticket : Ticket) : Tries state (state.reboot around ticket) := by
  unfold Instance.reboot
  split
  · exact startFor_tries around state ticket
  · split
    · exact .of_same rfl rfl rfl
    · rcases stop_cases state.machine with ⟨_, refused⟩ | ⟨machine, graceful, _, _, stopped⟩
      · rw [refused]
        exact .of_same rfl rfl rfl
      · rw [stopped]
        have begins : Tries state { state with machine } := .of_same rfl rfl rfl
        exact step_tries around state (.reboot ticket) begins (by simp)

private theorem scheduledRestart_tries : Tries state (state.scheduledRestart around) := by
  unfold Instance.scheduledRestart
  dsimp only
  split
  · exact .of_same rfl rfl rfl
  · rcases stop_cases state.machine with ⟨_, refused⟩ | ⟨machine, graceful, _, _, stopped⟩
    · rw [refused]
      exact .of_same rfl rfl rfl
    · rw [stopped]
      have told : Tries state ({ state with restartAt := none, machine }.publishNotice
          .scheduledRestart) := .of_said rfl rfl rfl (by simp [FailsLaunch])
      exact step_tries around state .scheduledRestart told (by simp)

theorem Consequence.not_failsLaunch {event : LifecycleEvent} {before after : Phase}
    {effects : List Effect} (consequence : Consequence event before after effects)
    (named : AccountId) :
    ¬ FailsLaunch id (.lifecycle named event :: changed named before after) := by
  rintro ⟨fails, unexited⟩
  cases consequence with
  | ignored | offline => simp [changed] at fails
  | code | login | replaced | limited =>
    unfold changed at fails
    split at fails <;> simp at fails
  | stopped code => simp [changed] at fails
  | unstarted code =>
    simp only [changed, List.mem_cons, reduceCtorEq, if_false, FeedEvent.phaseChanged.injEq,
      false_or, List.not_mem_nil, or_false, and_true] at fails
    exact unexited code (by rw [fails]; exact List.mem_cons_self)
  | crashed code reported =>
    rcases reported with rfl | rfl <;> simp [changed] at fails

private theorem apply_tries (event : LifecycleEvent) : Tries state (state.apply around event) := by
  have leads := handle_leads state.machine event around.uptime
  unfold Instance.apply
  generalize state.machine.handle event around.uptime = step at leads
  obtain ⟨machine, ⟨before, after, effects⟩⟩ := step
  obtain ⟨first, last, same, consequence⟩ := leads
  dsimp only at first last same consequence
  subst before after
  dsimp only
  generalize told : (({ state with machine }.publish (.lifecycle state.id event)).publishTransition
    ⟨state.machine.phase, machine.phase, effects⟩ : Instance) = between
  have feed : between.feed = state.feed ++
      .lifecycle state.id event :: changed state.id state.machine.phase machine.phase := by
    subst told
    simp only [Instance.publishTransition, published_changed, Instance.publishSnapshot,
      Instance.publish, Instance.id, same, List.append_assoc, List.singleton_append]
  have begins : Tries state between := by
    refine .of_said ?_ ?_ feed fun _ => consequence.not_failsLaunch state.id
    · exact told ▸ rfl
    · exact told ▸ rfl
  exact begins.trans ((tries_carries around).perform between effects _)

private theorem receive_tries (message : Message) : Tries state (state.receive around message) := by
  unfold Instance.receive
  split
  · cases message.report with
    | exited code =>
      have freed : Tries state { state with handle := none } := .of_same rfl rfl rfl
      exact freed.trans (apply_tries around _ _)
    | line text =>
      have heard : Tries state ((state.remember around text).publish (.output state.id text)) :=
        .of_said rfl rfl rfl (by simp [FailsLaunch])
      simp only [Instance.hear]
      cases classify text with
      | none => exact heard
      | some event => exact heard.trans (apply_tries around _ event)
  · exact .of_same rfl rfl rfl

private theorem afterStop_tries : Tries state (state.afterStop around) := by
  unfold Instance.afterStop
  dsimp only
  generalize free : Instance.releaseStops _ = released
  have begins : Tries state released := free ▸ .of_same rfl rfl rfl
  cases state.pendingStart with
  | none => exact begins
  | some pending =>
    cases pending with
    | requested ticket => exact begins.trans (startFor_tries around released ticket)
    | scheduled => exact begins.trans (start_tries around released false)

variable {around} {state}

private theorem move_tries {move : Move} {next : Instance}
    (moves : Moves around state move (.kept next)) : Tries state next := by
  generalize kept : Account.kept next = account at moves
  cases moves with
  | @receive message rest idle messages =>
    cases kept
    have dequeued : Tries state { state with messages := rest } := .of_same rfl rfl rfl
    exact dequeued.trans (receive_tries around _ message)
  | @serve request rest idle requests =>
    have dequeued : Tries state { state with requests := rest } := .of_same rfl rfl rfl
    refine dequeued.trans ?_
    obtain ⟨ticket, command⟩ := request
    cases command with
    | start =>
      cases kept
      exact startFor_tries around _ ticket
    | stop =>
      cases kept
      exact stop_tries around _ ticket
    | reboot =>
      cases kept
      exact reboot_tries around _ ticket
    | update config =>
      cases kept
      unfold Instance.update
      split <;> exact .of_same rfl rfl rfl
    | delete =>
      simp only [Instance.serve, Instance.delete] at kept
      split at kept <;> cases kept
      exact .of_same rfl rfl rfl
  | restart =>
    cases kept
    exact scheduledRestart_tries around state
  | conclude halted =>
    cases kept
    have freed : Tries state { state with busy := none } := .of_same rfl rfl rfl
    exact freed.trans (afterStop_tries around _)
  | resume busy ended =>
    cases kept
    exact (tries_carries around).goOn state _ (.of_same rfl rfl rfl)
  | @timeout wait bot busy held due =>
    cases kept
    unfold Instance.runOut
    cases wait.pressure with
    | asked =>
      have length := kill_length around state
      refine (tries_carries around).goOn state wait ?_
      obtain ⟨bots, messages, same⟩ := kill_same around state
      rw [same] at length ⊢
      exact .of_same rfl length rfl
    | forced => exact (tries_carries around).goOn state wait (.of_same rfl rfl rfl)
  | giveUp =>
    cases kept
    exact .of_same rfl (observe_length _ _) rfl

end moves

section steps

variable {first before after keeper later : Keeper} {event : Keeper.Event} {state next : Instance}

theorem Registers.reachable (registers : Registers id first) : first.Reachable := by
  obtain ⟨before, event, reachable, happens, _⟩ := registers
  exact reachable_of_step reachable happens

theorem Stays.reachable (stays : Stays id first keeper) (reachable : first.Reachable) :
    keeper.Reachable := by
  induction stays with
  | refl => exact reachable
  | step _ happens _ ih => exact reachable_of_step ih happens

theorem Stays.registered (stays : Stays id first keeper) :
    ∃ state, keeper.instance? id = some state := by
  cases stays with
  | refl present => exact Option.isSome_iff_exists.mp present
  | step _ _ present => exact Option.isSome_iff_exists.mp present

theorem step_older (happens : before.step? event = some after)
    (registered : before.instance? id = some state) (present : after.instance? id = some next) :
    Tries state next := by
  rcases step_turns happens registered with ⟨_, kept, unmoved⟩ | ⟨move, account, rfl, found, moves⟩
  · cases present.symm.trans kept
    have length := unmoved.bots
    obtain ⟨_, _, _, _, rfl⟩ := unmoved.same
    exact .of_same rfl length rfl
  · cases found.symm.trans (kept_of_instance? present)
    exact move_tries moves

theorem Stays.older (stays : Stays id keeper later) (registered : keeper.instance? id = some state)
    (present : later.instance? id = some next) : state.generation ≤ next.generation := by
  induction stays generalizing next with
  | refl =>
    cases registered.symm.trans present
    exact Nat.le_refl _
  | step stays happens _ ih =>
    obtain ⟨between, there⟩ := stays.registered
    exact Nat.le_trans (ih there) (step_older happens there present).older

/-- From its registration on it is known which processes an instance has launched. -/
theorem Stays.owned (registers : Registers id first) (stays : Stays id first keeper) :
    ∃ own past written givenUp,
      Owned own past (channelOf (keeper.accounts.get? id) written givenUp) ∧
        past.length = (first.ledger id).bots.length := by
  induction stays with
  | refl present =>
    obtain ⟨before, event, reachable, happens, absent⟩ := registers
    obtain ⟨state, registered⟩ := Option.isSome_iff_exists.mp present
    have sound := reachable_sound (reachable_of_step reachable happens) registered
    obtain ⟨policy, config, rfl⟩ := step_registered happens absent registered
    rw [ledger_of_instance? registered, kept_of_instance? registered]
    exact ⟨[], _, [], false, ⟨rfl, sound.free rfl, .nil, by simp, by simp [channelOf, channel,
      Instance.fresh]⟩, rfl⟩
  | @step before after event stays happens present ih =>
    obtain ⟨own, past, written, givenUp, owned, length⟩ := ih
    have reachable := stays.reachable registers.reachable
    obtain ⟨state, registered⟩ := stays.registered
    obtain ⟨next, there⟩ := Option.isSome_iff_exists.mp present
    have older : (channelOf (before.accounts.get? id) written givenUp).generation ≤
        (channelOf (after.accounts.get? id) (written ++ writes id before event after)
          (givenUp || givesUp id event)).generation := by
      rw [kept_of_instance? registered, kept_of_instance? there]
      exact (step_older happens registered there).older
    obtain ⟨mine, others, ownsAfter, same⟩ :=
      (step_passes written givenUp reachable happens id).owned
        (by simpa using reachable_numbered reachable id) older owned
    exact ⟨mine, others, _, _, ownsAfter, same.trans length⟩

/-- What an instance has launched itself comes first among the processes of its account. -/
theorem Stays.ownBots_owned (registers : Registers id first) (stays : Stays id first keeper)
    (registered : keeper.instance? id = some state) :
    ∃ past, Owned (ownBots id first keeper) past (channel state [] false) := by
  obtain ⟨own, past, written, givenUp, owned, length⟩ := stays.owned registers
  rw [kept_of_instance? registered] at owned
  have bots : (keeper.ledger id).bots = own ++ past := by
    rw [ledger_of_instance? registered]
    exact owned.bots
  have mine : ownBots id first keeper = own := by
    rw [ownBots, bots, ← length, List.length_append, Nat.add_sub_cancel, List.take_left]
  rw [mine]
  exact ⟨past, owned.bots, owned.gone, owned.descending, owned.bounded, owned.sent⟩

/-- The process that is held is the latest one, and the instance has launched it itself. -/
theorem Owned.held {own past : List Bot} {pid : Nat}
    (owned : Owned own past (channel state [] false)) (sound : Sound state state)
    (held : state.handle = some pid) :
    ∃ latest earlier, own = latest :: earlier ∧ latest.pid = pid ∧
      latest.generation = state.generation := by
  obtain ⟨bot, earlier, bots, named, generation, _, reported⟩ := sound.held pid held
  have joined : own ++ past = bot :: earlier := owned.bots.symm.trans bots
  cases own with
  | cons latest rest =>
    obtain ⟨rfl, _⟩ := List.cons.inj joined
    exact ⟨latest, rest, rfl, named, generation⟩
  | nil =>
    -- Nothing is reported that is not of a process of its own, so the exit of this one cannot be.
    have gone : bot.isGone = true := owned.gone bot (by
      rw [← List.nil_append past, joined]
      exact List.mem_cons_self)
    obtain ⟨code, waits⟩ := reported gone
    obtain ⟨_, none, _⟩ := owned.sent _ waits
    cases none

private theorem receive_dropped {message : Message} (old : message.generation < state.generation)
    (stays : Stays id keeper later) (registered : keeper.instance? id = some state) :
    IsDropped id later message := by
  intro next rest present idle messages
  have older := stays.older registered present
  have other : message.generation ≠ next.generation := by omega
  simp [Keeper.step?, Keeper.move?, present, Instance.move?, idle, messages, Instance.receive,
    other]

/-- Each process that an instance launches has a number above those before it, and what is reported
carries the number of its process. The process that is held is the latest one. Whatever any other
process has reported or will report is dropped from then on, and no two tries of a launch have the
same number. -/
theorem superseded_processes_are_silent (registers : Registers id first)
    (stays : Stays id first keeper) (registered : keeper.instance? id = some state) :
    ((ownBots id first keeper).map (·.generation)).Pairwise (· > ·) ∧
      (∀ bot ∈ state.bots, bot ∈ ownBots id first keeper ∨ bot.isGone = true) ∧
      (∀ message ∈ state.messages, ∃ bot ∈ ownBots id first keeper,
        bot.generation = message.generation) ∧
      (∀ pid, state.handle = some pid → ∃ latest earlier,
        ownBots id first keeper = latest :: earlier ∧ latest.pid = pid ∧
          latest.generation = state.generation) ∧
      (∀ bot ∈ (ownBots id first keeper).tail, ∀ message, message.generation = bot.generation →
        ∀ later, Stays id keeper later → IsDropped id later message) ∧
      ∀ event after next, keeper.step? event = some after → after.instance? id = some next →
        state.generation ≤ next.generation ∧
          (TriesLaunch id keeper after → state.generation < next.generation) := by
  obtain ⟨past, owned⟩ := stays.ownBots_owned registers registered
  have reachable := stays.reachable registers.reachable
  refine ⟨owned.descending, ?_, owned.sent,
    fun pid held => owned.held (reachable_sound reachable registered) held, ?_, ?_⟩
  · intro bot member
    have split : state.bots = ownBots id first keeper ++ past := owned.bots
    rw [split] at member
    exact (List.mem_append.mp member).imp_right (owned.gone bot)
  · intro bot earlier message same later stays
    refine receive_dropped (same ▸ ?_) stays registered
    have descending := owned.descending
    have bounded := owned.bounded
    generalize ownBots id first keeper = own at earlier descending bounded
    cases own with
    | nil => cases earlier
    | cons latest rest =>
      rw [List.map_cons, List.pairwise_cons] at descending
      have above := descending.1 bot.generation (List.mem_map_of_mem earlier)
      exact Nat.lt_of_lt_of_le above (bounded latest List.mem_cons_self).2
  · intro event after next happens present
    have tries := step_older happens registered present
    refine ⟨tries.older, fun again => Nat.lt_of_le_of_ne tries.older fun same => ?_⟩
    obtain ⟨bots, said, feed, fine⟩ := tries.still same.symm
    unfold TriesLaunch at again
    rw [ledger_of_instance? registered, ledger_of_instance? present] at again
    rcases again with another | ⟨more, continued, fails⟩
    · exact another bots
    · rw [List.append_cancel_left (feed.symm.trans continued)] at fine
      exact fine id fails

end steps

def staysSteps? (id : AccountId) (keeper : Keeper) : List Keeper.Event → Option Keeper
  | [] => some keeper
  | event :: rest => (keeper.step? event).bind fun after =>
    if (after.instance? id).isSome then staysSteps? id after rest else none

private theorem stays_of_steps {first keeper last : Keeper} (stays : Stays id first keeper)
    (events : List Keeper.Event) (steps : staysSteps? id keeper events = some last) :
    Stays id first last := by
  induction events generalizing keeper with
  | nil =>
    cases steps
    exact stays
  | cons event rest ih =>
    obtain ⟨after, happens, steps⟩ := Option.bind_eq_some_iff.mp steps
    split at steps
    · rename_i present
      exact ih (stays.step happens present) steps
    · cases steps

/-- The exit of a process that was replaced still waits, and does nothing to the one in its
place. -/
theorem superseded_processes_are_silent_after_restart :
    ∃ (first keeper : Keeper) (state : Instance), Registers 100001 first ∧
      Stays 100001 first keeper ∧ keeper.instance? 100001 = some state ∧
      state.machine.phase = .starting ∧ state.messages = [⟨1, .exited none⟩] ∧
      IsDropped 100001 keeper ⟨1, .exited none⟩ := by
  let start : Keeper := { around := { host := { programs := ["bot"] } } }
  let registering : Keeper.Event :=
    .add (rehearsedConfig 100001 []) ⟨"nameless".toList, by decide, by decide⟩
  have meets : ((start.step? registering).any fun first =>
      (first.instance? 100001).isSome && (staysSteps? 100001 first [.start 100001,
        .move 100001 .serve, .print 100001 "login success 100001\n".toUTF8.toList,
        .move 100001 .receive, .print 100001 "quick login error: expired\n".toUTF8.toList,
        .move 100001 .receive]).any fun keeper =>
          (keeper.instance? 100001).any fun state => decide (
            state.machine.phase = .starting ∧ state.messages = [⟨1, .exited none⟩] ∧
            (ownBots 100001 first keeper).map (·.generation) = [2, 1])) = true := by
    decide +kernel
  obtain ⟨first, happens, checked⟩ := (Option.any_eq_true _ _).mp meets
  obtain ⟨present, checked⟩ := Bool.and_eq_true_iff.mp checked
  obtain ⟨keeper, steps, checked⟩ := (Option.any_eq_true _ _).mp checked
  obtain ⟨state, registered, checked⟩ := (Option.any_eq_true _ _).mp checked
  obtain ⟨phase, messages, generations⟩ := of_decide_eq_true checked
  have registers : Registers 100001 first := ⟨start, registering, ⟨_, rfl, .refl⟩, happens, rfl⟩
  have stays := stays_of_steps (.refl present) _ steps
  obtain ⟨latest, earlier, own, _, last⟩ := List.map_eq_cons_iff.mp generations
  obtain ⟨bot, rest, same, number, _⟩ := List.map_eq_cons_iff.mp last
  obtain ⟨_, _, _, _, drops, _⟩ := superseded_processes_are_silent registers stays registered
  rw [own, same, List.tail_cons] at drops
  refine ⟨first, keeper, state, registers, stays, registered, phase, messages, ?_⟩
  exact drops bot List.mem_cons_self _ number.symm keeper
    (.refl (Option.isSome_iff_exists.mpr ⟨state, registered⟩))

end BotKeeper.Proofs
