import BotKeeper.Proofs.Custody
import BotKeeper.Proofs.Reaction

/-! What an instance keeps of its process agrees with the process that it holds. A
step of the machine, a launch and the end of a process each touch several of these
records, and each of them leaves all records in agreement. Between two moves more
is true: only an instance that is being stopped has something to do after the stop. -/

namespace BotKeeper.Proofs

/-- The records of an instance about its process, which agree with each other. -/
structure Recorded (origin state : Instance) : Prop extends Custody origin state where
  pid : state.machine.pid = state.handle.map UInt32.ofNat
  since : state.machine.startedAt.isSome = state.handle.isSome
  code : CodeKnown state.machine
  seen : state.snapshot = state.machine.snapshot state.config.name
  empty : state.machine.phase = .stopped ↔ state.handle = none

/-- What remains to be done, and in which phase, after the wait for the end of a process. -/
inductive Plan : Phase → List Effect → Purpose → Prop where
  | stop (ticket : Ticket) : Plan .stopping [] (.stop ticket)
  | reboot (ticket : Ticket) : Plan .stopping [] (.reboot ticket)
  | scheduledRestart : Plan .stopping [] .scheduledRestart
  | giveUp (notice : Notice) : Plan .stopping [.notify notice] (.event false)
  | replace (notice : Notice) : Plan .starting [.spawn, .notify notice] (.event false)

theorem Plan.not_stopped {phase : Phase} {effects : List Effect} {purpose : Purpose}
    (plan : Plan phase effects purpose) : phase ≠ .stopped := by
  cases plan <;> decide

theorem Plan.stop_effects {phase : Phase} {effects : List Effect} {ticket : Ticket}
    (plan : Plan phase effects (.stop ticket)) : effects = [] := by
  cases plan
  rfl

theorem Plan.reboot_effects {phase : Phase} {effects : List Effect} {ticket : Ticket}
    (plan : Plan phase effects (.reboot ticket)) : effects = [] := by
  cases plan
  rfl

/-- Nothing waits for the instance to have stopped. -/
def Unawaited (state : Instance) : Prop :=
  state.pendingStart = none ∧ state.stopWaiters = []

/-- The state of an instance between two moves. -/
structure Sound (origin state : Instance) : Prop extends Recorded origin state where
  pending : state.pendingStart ≠ none →
    state.machine.phase = .stopping ∨ state.busy = some .halted
  waiting : state.stopWaiters ≠ [] → state.machine.phase = .stopping ∨ state.busy = some .halted
  exclusive : state.pendingStart = none ∨ state.stopWaiters = []
  disarmed : state.machine.phase = .stopped → state.busy = none → state.restartAt = none
  waits : ∀ wait, state.busy = some (.wait wait) →
    Plan state.machine.phase wait.effects wait.purpose ∧ Unawaited state
  halted : state.busy = some .halted → state.machine.phase = .stopped

namespace Recorded

variable {origin state : Instance}

/-- Much may be written without a change of the records. -/
theorem beside (recorded : Recorded origin state) (feed : List FeedEvent) {answers : List Answer}
    (more : state.answers <+: answers) (history : List String) (busy : Option Business)
    (stopWaiters : List Ticket) (pendingStart : Option PendingStart) (restartAt : Option Nat) :
    Recorded origin { state with
      feed, answers, history, busy, stopWaiters, pendingStart, restartAt } :=
  ⟨recorded.toCustody.frame rfl rfl rfl rfl rfl more rfl rfl, recorded.pid, recorded.since,
    recorded.code, recorded.seen, recorded.empty⟩

theorem rebase (recorded : Recorded origin state) : Recorded state state :=
  ⟨recorded.toCustody.rebase, recorded.pid, recorded.since, recorded.code, recorded.seen,
    recorded.empty⟩

/-- The machine of an instance that was up makes a step for the same process, which is published. -/
theorem advance (recorded : Recorded origin state) {machine : Machine}
    (same : SameProcess state.machine machine) (feed : List FeedEvent) (restartAt : Option Nat) :
    Recorded origin { state with
      machine, feed, restartAt, snapshot := machine.snapshot state.config.name } := by
  refine ⟨recorded.toCustody.frame rfl rfl rfl rfl same.id List.prefix_rfl rfl rfl, ?_, ?_,
    same.code, rfl, ?_⟩
  · exact same.pid.trans recorded.pid
  · exact (congrArg _ same.startedAt).trans recorded.since
  · have held : state.handle ≠ none := fun free => same.up.1 (recorded.empty.mpr free)
    exact ⟨fun stopped => absurd stopped same.still, fun free => absurd free held⟩

theorem present (recorded : Recorded origin state) (feed : List FeedEvent)
    (config : InstanceConfig) :
    Recorded origin { state with
      feed, config, snapshot := state.machine.snapshot config.name } :=
  ⟨recorded.toCustody.frame rfl rfl rfl rfl rfl List.prefix_rfl rfl rfl, recorded.pid,
    recorded.since, recorded.code, rfl, recorded.empty⟩

theorem release (recorded : Recorded origin state) (gone : AllGone state.bots)
    {messages : List Message} (fewer : ∀ message ∈ messages, message ∈ state.messages)
    (feed : List FeedEvent) :
    Recorded origin { state with
      messages, feed, handle := none, machine := state.machine.enter .stopped,
      snapshot := (state.machine.enter .stopped).snapshot state.config.name } where
  numbered := recorded.numbered
  free := fun _ => gone
  held := fun _ impossible => by cases impossible
  dated := fun message member => recorded.dated message (fewer message member)
  final := fun _ _ => gone
  named := recorded.named
  lineage := recorded.lineage
  answers := recorded.answers
  requests := recorded.requests
  calls := recorded.calls
  pid := rfl
  since := rfl
  code := codeKnown_enter state.machine (by decide)
  seen := rfl
  empty := ⟨fun _ => rfl, fun _ => rfl⟩

theorem drop (recorded : Recorded origin state) {message : Message} {rest : List Message}
    (messages : state.messages = message :: rest)
    (other : ∀ code, message = ⟨state.generation, .exited code⟩ → state.handle = none) :
    Recorded origin { state with messages := rest } where
  numbered := recorded.numbered
  free := recorded.free
  held := by
    intro pid holds
    obtain ⟨bot, earlier, bots, samePid, generation, past, reported⟩ := recorded.held pid holds
    refine ⟨bot, earlier, bots, samePid, generation, past, fun gone => ?_⟩
    obtain ⟨code, member⟩ := reported gone
    rw [messages] at member
    rcases List.mem_cons.mp member with same | inside
    · cases holds.symm.trans (other code same.symm)
    · exact ⟨code, inside⟩
  dated := fun earlier member => recorded.dated earlier (messages ▸ List.mem_cons_of_mem _ member)
  final := fun code member => recorded.final code (messages ▸ List.mem_cons_of_mem _ member)
  named := recorded.named
  lineage := recorded.lineage
  answers := recorded.answers
  requests := recorded.requests
  calls := recorded.calls
  pid := recorded.pid
  since := recorded.since
  code := recorded.code
  seen := recorded.seen
  empty := recorded.empty

theorem observe (recorded : Recorded origin state) {bot : Bot} (member : bot ∈ state.bots)
    {change : Bot × List Report} (changes : Changes bot change) :
    Recorded origin (state.observe change) :=
  ⟨recorded.toCustody.observe member changes, recorded.pid, recorded.since, recorded.code,
    recorded.seen, recorded.empty⟩

theorem requeue (recorded : Recorded origin state) (requests : List Request) (calls : Nat) :
    Recorded { state with requests, calls } { state with requests, calls } :=
  ⟨recorded.toCustody.requeue requests calls, recorded.pid, recorded.since, recorded.code,
    recorded.seen, recorded.empty⟩

theorem sound (recorded : Recorded origin state) (idle : state.busy = none)
    (unawaited : Unawaited state)
    (disarmed : state.machine.phase = .stopped → state.restartAt = none) : Sound origin state where
  toRecorded := recorded
  pending := fun some => absurd unawaited.1 some
  waiting := fun some => absurd unawaited.2 some
  exclusive := .inl unawaited.1
  disarmed := fun stopped _ => disarmed stopped
  waits := fun wait busy => by cases idle.symm.trans busy
  halted := fun busy => by cases idle.symm.trans busy

theorem awaited (recorded : Recorded origin state) (idle : state.busy = none)
    (stopping : state.machine.phase = .stopping)
    (exclusive : state.pendingStart = none ∨ state.stopWaiters = []) : Sound origin state where
  toRecorded := recorded
  pending := fun _ => .inl stopping
  waiting := fun _ => .inl stopping
  exclusive := exclusive
  disarmed := fun stopped => by cases stopping.symm.trans stopped
  waits := fun wait busy => by cases idle.symm.trans busy
  halted := fun busy => by cases idle.symm.trans busy

end Recorded

theorem Brought.recorded {origin state : Instance} {result : Instance × Ending}
    (brought : Brought origin result) (same : SameButBots state result.1)
    (recorded : Recorded origin state) : Recorded origin result.1 := by
  obtain ⟨bots, messages, same⟩ := same
  have custody := brought.custody
  rw [same] at custody ⊢
  exact ⟨custody, recorded.pid, recorded.since, recorded.code, recorded.seen, recorded.empty⟩

namespace Sound

variable {origin state : Instance}

/-- What an instance has still to do does not depend on the rest of its records. -/
theorem frame {first : Instance} (sound : Sound first state) {after : Instance}
    (recorded : Recorded origin after) (phase : after.machine.phase = state.machine.phase)
    (busy : after.busy = state.busy) (pending : after.pendingStart = state.pendingStart)
    (waiters : after.stopWaiters = state.stopWaiters)
    (schedule : after.restartAt = state.restartAt ∨ after.restartAt = none) :
    Sound origin after where
  toRecorded := recorded
  pending := by
    rw [pending, phase, busy]
    exact sound.pending
  waiting := by
    rw [waiters, phase, busy]
    exact sound.waiting
  exclusive := by
    rw [pending, waiters]
    exact sound.exclusive
  disarmed := by
    intro stopped idle
    rcases schedule with same | off
    · rw [same]
      exact sound.disarmed (phase.symm.trans stopped) (busy.symm.trans idle)
    · exact off
  waits := by
    intro wait waits
    obtain ⟨plan, unawaited⟩ := sound.waits wait (busy.symm.trans waits)
    exact ⟨phase ▸ plan, pending.trans unawaited.1, waiters.trans unawaited.2⟩
  halted := by
    rw [busy, phase]
    exact sound.halted

theorem rebase (sound : Sound origin state) : Sound state state :=
  sound.frame sound.toRecorded.rebase rfl rfl rfl rfl (.inl rfl)

theorem unawaited (sound : Sound origin state) (idle : state.busy = none)
    (other : state.machine.phase ≠ .stopping) : Unawaited state := by
  have neither : ¬ (state.machine.phase = .stopping ∨ state.busy = some .halted) := by
    simp [other, idle]
  exact ⟨Classical.not_not.mp fun some => neither (sound.pending some),
    Classical.not_not.mp fun some => neither (sound.waiting some)⟩

theorem gone (sound : Sound origin state) (stopped : state.machine.phase = .stopped) :
    AllGone state.bots :=
  sound.free (sound.empty.mp stopped)

end Sound

end BotKeeper.Proofs
