import BotKeeper.Proofs.LikeKeepers
import BotKeeper.Proofs.Output

/-! What a start leaves behind whose launch fails. Main statement: its call is answered with the
failure, and the instance is as it was before, without its output and the restarts it remembered.
Only the number of its launches is another one, and nothing that comes later depends on that. -/

namespace BotKeeper.Proofs

/-- Nothing counts of what processes report: none is held, and what they have reported and may
still report is of earlier launches. -/
structure Mute (channel : Channel) : Prop where
  free : channel.handle = none
  silent : waiting channel.generation channel.messages = []
  past : ∀ bot ∈ channel.bots, bot.isGone = false → bot.generation < channel.generation

/-- An instance as it would be if its first call had not been made, and without its output and the
restarts it remembers. -/
def spared (state : Instance) : Instance :=
  { state with
    requests := state.requests.tail
    history := []
    machine := { state.machine with recentRestarts := [] } }

def failedStart (id : AccountId) : List FeedEvent :=
  [.phaseChanged id .stopped .starting, .phaseChanged id .starting .stopped,
    .notice id (.startFailed none)]

def unlaunched (ticket : Ticket) (reason : SystemError) (state : Instance) : Instance :=
  { spared state with
    generation := state.generation + 1
    feed := state.feed ++ failedStart state.id
    answers := state.answers ++
      [⟨ticket, .error (.spawn state.id (.ofSystem reason) reason.text)⟩] }

/-- What comes of a start whose launch fails: the call is answered, three events tell of it, and
all else is as it was or is empty. -/
structure StartFailed (id : AccountId) (ticket : Ticket) (reason : SystemError)
    (before after : Instance) : Prop where
  answers : after.answers =
    before.answers ++ [⟨ticket, .error (.spawn id (.ofSystem reason) reason.text)⟩]
  feed : after.feed = before.feed ++ failedStart id
  snapshot : after.snapshot = before.snapshot
  handle : after.handle = none
  restartAt : after.restartAt = none
  pendingStart : after.pendingStart = none
  stopWaiters : after.stopWaiters = []
  busy : after.busy = none
  history : after.history = []

/-- Whatever happens to one of two keepers can happen to the other, and the same comes of it. -/
def FaresLike (id : AccountId) (origin origin' : Ledger) (one other : Keeper) : Prop :=
  ∀ events, Option.Rel
    (fun later later' => KeeperLike id origin origin' later later' ∧
      ∀ event, reply? later' event = reply? later event)
    (one.steps? events) (other.steps? events)

variable {id : AccountId}

section mute

variable {before after : Channel}

theorem Flows.mute (flows : Flows id before after) (dated : Dated before) (mute : Mute before) :
    Mute after := by
  have silent := mute.silent
  cases flows with
  | published => exact ⟨mute.free, silent, mute.past⟩
  | @stirred bot bytes givesUp change member stirs =>
    have changes := stirs.changes
    have past : change.1.isGone = false → change.1.generation < before.generation := by
      intro there
      rw [changes.ages.generation]
      exact mute.past bot member (changes.ages.there there)
    refine ⟨mute.free, ?_, fun other present there => ?_⟩
    · have unheard : waiting before.generation (change.2.map (⟨change.1.generation, ·⟩)) = [] := by
        unfold waiting
        rw [List.map_eq_nil_iff, List.filter_eq_nil_iff]
        intro message inside
        obtain ⟨report, said, rfl⟩ := List.mem_map.mp inside
        have early := mute.past bot member (changes.there said)
        rw [← changes.ages.generation] at early
        simp only [beq_iff_eq]
        omega
      dsimp only
      rw [waiting_append, silent, unheard, List.append_nil]
    · obtain ⟨original, inside, rfl⟩ := List.mem_map.mp present
      by_cases same : original.pid = change.1.pid
      · rw [if_pos same] at there ⊢
        exact past there
      · rw [if_neg same] at there ⊢
        exact mute.past original inside there
  | dropped messages other =>
    rw [messages, waiting_other _ other] at silent
    exact ⟨mute.free, silent, mute.past⟩
  | heard messages | exited messages =>
    rw [messages, waiting_current] at silent
    cases silent
  | unlaunched =>
    exact ⟨rfl, dated.waiting_next, fun bot member there =>
      Nat.lt_succ_of_lt (mute.past bot member there)⟩

/-- After a launch that fails nothing counts of what was reported before. -/
theorem Flows.mutes (flows : Flows id before after) (dated : Dated before) :
    Mute after ∨ after.generation = before.generation := by
  cases flows with
  | unlaunched =>
    exact .inl ⟨rfl, dated.waiting_next, fun bot member there =>
      Nat.lt_succ_of_le (dated.bots bot member there)⟩
  | published | stirred | dropped | heard | exited => exact .inr rfl

theorem Flow.mute (flow : Flow id before after) (dated : Dated before)
    (mute : Mute before ∨ after.generation ≠ before.generation) : Mute after := by
  induction flow using Relation.ReflTransGen.head_induction_on with
  | refl => exact mute.elim (fun mute => mute) fun another => absurd rfl another
  | head step rest ih =>
    refine ih (step.dated dated) ?_
    rcases mute with mute | another
    · exact .inl (step.mute dated mute)
    · rcases step.mutes dated with mute | same
      · exact .inl mute
      · exact .inr (same ▸ another)

theorem Passes.mute (passes : Passes id before after) (dated : Dated before)
    (gone : before.handle = none → AllGone before.bots)
    (same : after.bots.length = before.bots.length)
    (mute : Mute before ∨ after.generation ≠ before.generation) : Mute after := by
  cases passes with
  | turned turns =>
    cases turns with
    | went flow => exact flow.mute dated mute
    | launched flow launches quiet =>
      cases launches
      have length := (Flow.frame flow).1
      simp [length] at same
  | vacated free =>
    exact ⟨free, rfl, fun bot member there =>
      Bool.noConfusion (there.symm.trans (gone free bot member))⟩

end mute

section reachable

variable {keeper : Keeper} {state : Instance}

private theorem gone_of_free (reachable : keeper.Reachable) (id : AccountId) (written : List UInt8)
    (givenUp : Bool) (free : (channelOf (keeper.accounts.get? id) written givenUp).handle = none) :
    AllGone (channelOf (keeper.accounts.get? id) written givenUp).bots := by
  cases found : keeper.accounts.get? id with
  | none => exact fun _ impossible => by cases impossible
  | some account =>
    have order := reachable_inOrder reachable account found
    rw [found] at free
    cases account with
    | vacant ledger => exact order.2
    | kept state => exact order.1.free free

/-- An account is in the course of its latest process, or nothing counts of what is reported. -/
theorem course_or_mute (reachable : keeper.Reachable) (id : AccountId) :
    (∃ launch written givenUp, Course id launch keeper written givenUp) ∨
      ∃ written givenUp, Mute (channelOf (keeper.accounts.get? id) written givenUp) := by
  obtain ⟨around, opened, run⟩ := reachable
  -- A course ends with the next launch, and with a launch that fails while a process is held.
  induction run with
  | refl => exact .inr ⟨[], false, rfl, rfl, by simp [channelOf, OrderedMap.get?_empty]⟩
  | @step before after event run _ happens ih =>
    have reachable : before.Reachable := ⟨around, opened, run⟩
    by_cases another : (after.ledger id).bots.length ≠ (before.ledger id).bots.length
    · exact .inl ⟨_, _, _, .launched reachable happens another⟩
    · have goesMute (written : List UInt8) (givenUp : Bool)
          (mute : Mute (channelOf (before.accounts.get? id) written givenUp) ∨
            tried after id ≠ tried before id) :
          ∃ written givenUp, Mute (channelOf (after.accounts.get? id) written givenUp) := by
        refine ⟨_, _, (step_passes written givenUp reachable happens id).mute
          (reachable_dated reachable id written givenUp)
          (gone_of_free reachable id written givenUp) ?_ ?_⟩
        · simpa using another
        · simpa using mute
      by_cases relaunches : Relaunches id before after
      · exact .inr (goesMute [] false (.inr (relaunches.resolve_left another).2))
      · rcases ih with ⟨launch, written, givenUp, course⟩ | ⟨written, givenUp, mute⟩
        · exact .inl ⟨_, _, _, course.step happens relaunches⟩
        · exact .inr (goesMute written givenUp (.inl mute))

/-- No report that waits counts when no process is held. -/
theorem past_of_free (reachable : keeper.Reachable) (registered : keeper.instance? id = some state)
    (free : state.handle = none) :
    ∀ message ∈ state.messages, message.generation < state.generation := by
  have silent : waiting state.generation state.messages = [] := by
    rcases course_or_mute reachable id with ⟨launch, written, givenUp, course⟩ | ⟨_, _, mute⟩
    · obtain ⟨_, _, _, _, _, _, released⟩ := course.told
      have unheld : holds keeper id = false := by simp [holds, registered, free]
      have unheard := (released unheld).2
      unfold unread at unheard
      rw [registered] at unheard
      exact unheard
    · have silent := mute.silent
      rw [kept_of_instance? registered] at silent
      exact silent
  intro message member
  have bound := (reachable_sound reachable registered).dated message member
  refine Nat.lt_of_le_of_ne bound fun current => ?_
  unfold waiting at silent
  rw [List.map_eq_nil_iff, List.filter_eq_nil_iff] at silent
  exact silent message member (by simp [current])

end reachable

section start

variable {state : Instance} {around : Surroundings} {ticket : Ticket} {reason : SystemError}

/-- A machine that has stopped keeps nothing of a process, so after a start that fails it has only
forgotten the restarts it remembered. -/
theorem spawnFailed_of_stopped (sound : Sound state state)
    (stopped : state.machine.phase = .stopped) :
    ({ state.machine with recentRestarts := [] }.enter .starting).spawnFailed =
      ({ state.machine with recentRestarts := [] }, ⟨.starting, .stopped, []⟩) := by
  have free := sound.empty.mp stopped
  have pid : state.machine.pid = none := by rw [sound.pid, free, Option.map_none]
  have since : state.machine.startedAt = none := by
    have same := sound.since
    rwa [free, Option.isSome_none, Option.isSome_eq_false_iff, Option.isNone_iff_eq_none] at same
  have code : state.machine.lastQrPayload = none := by
    rw [← Option.not_isSome_iff_eq_none]
    intro known
    have awaiting := sound.code.mp known
    rw [stopped] at awaiting
    cases awaiting
  simp [Machine.spawnFailed, Machine.transition, Machine.enter, Phase.isStopped, stopped, pid,
    since, code]

theorem startFor_failed (sound : Sound state state) (stopped : state.machine.phase = .stopped)
    (idle : state.busy = none) (opened : around.gate = false)
    (fails : around.host.launch around.files state.config = .error reason) :
    { state with requests := state.requests.tail }.startFor around ticket =
      unlaunched ticket reason state := by
  obtain ⟨running, _⟩ | ⟨_, starts⟩ := start_cases state.machine
  · exact absurd stopped running
  have failed := spawnFailed_of_stopped sound stopped
  have waiters := (sound.unawaited idle (by simp [stopped])).2
  have armed := sound.disarmed stopped idle
  have free := sound.empty.mp stopped
  have seen := sound.seen
  unfold Instance.startFor Instance.start
  rw [opened, if_neg Bool.false_ne_true, starts]
  dsimp only
  unfold Instance.spawn
  dsimp only [Instance.publishTransition, Instance.publishSnapshot]
  rw [fails]
  dsimp only
  unfold Instance.launchFailed
  dsimp only
  rw [failed]
  simp [Instance.publishTransition, Instance.publishSnapshot, Instance.publishNotice,
    Instance.publish, Instance.releaseStops, Instance.answer, Ledger.answered, Instance.id,
    Outcome.published, Outcome.changed, Machine.enter, Machine.snapshot, unlaunched, spared,
    failedStart, waiters, armed, free, seen]

theorem Sound.startFailed (sound : Sound state state) (stopped : state.machine.phase = .stopped)
    (idle : state.busy = none) :
    StartFailed state.id ticket reason state (unlaunched ticket reason state) := by
  obtain ⟨pending, waiters⟩ := sound.unawaited idle (by simp [stopped])
  exact ⟨rfl, rfl, rfl, sound.empty.mp stopped, sound.disarmed stopped idle, pending, waiters,
    idle, rfl⟩

/-- That one more launch was tried makes no difference where no report that counts can come. -/
theorem spared_like (ticket : Ticket) (reason : SystemError) (gone : AllGone state.bots)
    (past : ∀ message ∈ state.messages, message.generation < state.generation) :
    Like state.toLedger (unlaunched ticket reason state).toLedger (spared state)
      (unlaunched ticket reason state) := by
  have bots : List.Forall₂ (BotLike state.generation (state.generation + 1)) state.bots
      state.bots :=
    List.forall₂_same.mpr fun bot member =>
      @BotLike.mk _ _ bot bot.generation fun there =>
        Bool.noConfusion (there.symm.trans (gone bot member))
  have queues : List.Forall₂ (MessageLike state.generation (state.generation + 1)) state.messages
      state.messages :=
    List.forall₂_same.mpr fun message member =>
      @MessageLike.mk _ _ message message.generation
        (.inr ⟨past message member, Nat.lt_succ_of_lt (past message member)⟩)
  have nothing {α : Type} (one other : List α) : GoesOnLike one other one other :=
    ⟨[], (List.append_nil one).symm, (List.append_nil other).symm⟩
  exact .mk ⟨bots, nothing _ _, rfl, nothing _ _⟩ queues

end start

section keepers

variable {keeper one other : Keeper} {state : Instance} {ticket : Ticket} {command : Command}
  {rest : List Request} {reason : SystemError} {origin origin' : Ledger}

theorem KeeperLike.fares (like : KeeperLike id origin origin' one other)
    (reachable : other.Reachable) : FaresLike id origin origin' one other := by
  intro events
  have stepped := like.steps? reachable events
  generalize one.steps? events = mine at stepped ⊢
  generalize other.steps? events = theirs at stepped ⊢
  cases stepped with
  | none => exact .none
  | some keepers => exact .some ⟨keepers, keepers.reply?⟩

/-- A start whose launch fails, also one that a reboot asks for, leaves the instance as it was, but
without its output and the restarts it remembered. From then on it fares like one whose start was
not asked for. -/
theorem failed_launch_restores_state (reachable : keeper.Reachable)
    (registered : keeper.instance? id = some state) (stopped : state.machine.phase = .stopped)
    (idle : state.busy = none) (opened : keeper.around.gate = false)
    (queued : state.requests = ⟨ticket, command⟩ :: rest)
    (starts : command = .start ∨ command = .reboot)
    (fails : keeper.around.host.launch keeper.around.files state.config = .error reason) :
    ∃ after next, keeper.step? (.move id .serve) = some after ∧ after.instance? id = some next ∧
      StartFailed id ticket reason state next ∧
      FaresLike id state.toLedger next.toLedger (keeper.put id (.kept (spared state))) after := by
  obtain ⟨sound, rfl⟩ := reachable_inOrder reachable _ (kept_of_instance? registered)
  have moves : Moves keeper.around state .serve _ := .serve idle queued
  have served : { state with requests := rest }.serve keeper.around ⟨ticket, command⟩ =
      .kept (unlaunched ticket reason state) := by
    have tail : state.requests.tail = rest := by rw [queued, List.tail_cons]
    rw [← startFor_failed sound stopped idle opened fails, tail]
    rcases starts with rfl | rfl
    · rfl
    · simp [Instance.serve, Instance.reboot, Phase.isStopped, stopped]
  rw [served] at moves
  have step := step_of_moves registered moves
  refine ⟨_, unlaunched ticket reason state, step, ?_, ?_, ?_⟩
  · rw [instance?_put]
    rfl
  · exact sound.startFailed stopped idle
  · have past := past_of_free reachable registered (sound.empty.mp stopped)
    have like := spared_like ticket reason (sound.gone stopped) past
    exact (KeeperLike.of_put keeper (.kept like)).fares (reachable_of_step reachable step)

end keepers

/-- A bot has said something and exited, and its program is no longer there when it is started
again. -/
theorem failed_launch_restores_state_after_exit : ∃ (keeper after : Keeper) (state next : Instance),
    keeper.Reachable ∧ keeper.instance? 100001 = some state ∧ state.history = ["Hi"] ∧
      keeper.step? (.move 100001 .serve) = some after ∧ after.instance? 100001 = some next ∧
      StartFailed 100001 1 .noEntry state next ∧
      FaresLike 100001 state.toLedger next.toLedger (keeper.put 100001 (.kept (spared state)))
        after := by
  obtain ⟨keeper, reachable, checked⟩ := rehearsal_reachable [rehearsedConfig 100001 []]
    [.start 100001, .move 100001 .serve, .print 100001 [72, 105, 10], .move 100001 .receive,
      .exit 100001 (some 4), .move 100001 .receive, .move 100001 .conclude, .surround {} {},
      .start 100001]
    (fun keeper => (keeper.instance? 100001).any (fun state => decide (
      state.machine.phase = .stopped ∧ state.busy = none ∧ keeper.around.gate = false ∧
      state.requests = [⟨1, .start⟩] ∧ state.history = ["Hi"] ∧
      keeper.around.host.launch keeper.around.files state.config = .error .noEntry)) = true)
    (by decide +kernel)
  obtain ⟨state, registered, checked⟩ := (Option.any_eq_true _ _).mp checked
  obtain ⟨stopped, idle, opened, queued, history, fails⟩ := of_decide_eq_true checked
  obtain ⟨after, next, restored⟩ := failed_launch_restores_state reachable registered stopped idle
    opened queued (.inl rfl) fails
  exact ⟨keeper, after, state, next, reachable, registered, history, restored⟩

end BotKeeper.Proofs
