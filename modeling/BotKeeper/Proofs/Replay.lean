import Mathlib.Data.List.Chain
import BotKeeper.Proofs.Telling

/-! The feed of an account replays to its phase. The changes of phase that were published of
it form one chain of steps that the phases allow, from the stopped phase to the one that
observers see, also where its instance was deleted and registered again. -/

namespace BotKeeper.Proofs

def successors : Phase → List Phase
  | .stopped => [.starting]
  | .starting => [.awaitingLogin, .running, .stopping, .stopped]
  | .awaitingLogin => [.running, .starting, .stopping, .stopped]
  | .running => [.starting, .stopping, .stopped]
  | .stopping => [.stopped]

def phaseSteps (id : AccountId) (feed : List FeedEvent) : List (Phase × Phase) :=
  feed.filterMap fun event =>
    match event with
    | .phaseChanged other before after => if other = id then some (before, after) else none
    | _ => none

structure Replays (steps : List (Phase × Phase)) (phase : Phase) : Prop where
  first : ∀ step ∈ steps.head?, step.1 = .stopped
  linked : steps.IsChain fun step next => next.1 = step.2
  differ : ∀ step ∈ steps, step.1 ≠ step.2
  allowed : ∀ step ∈ steps, step.2 ∈ successors step.1
  last : (steps.getLast?.map Prod.snd).getD .stopped = phase

/-- What was published of an account is about it and replays to its phase. -/
structure Retold (id : AccountId) (feed : List FeedEvent) (phase : Phase) : Prop where
  own : ∀ event ∈ feed, event.instanceId = id
  replays : Replays (phaseSteps id feed) phase

variable {id : AccountId} {before after : Phase}

private theorem ne_of_mem_successors (allowed : after ∈ successors before) : before ≠ after := by
  rintro rfl
  revert allowed
  cases before <;> decide

private theorem stopping_mem_successors (up : Up before) : .stopping ∈ successors before := by
  cases before <;> simp [Up, successors] at up ⊢

/-- What an event leads to is a step that the phases allow, if the phase changes. -/
theorem Consequence.allowed {event : LifecycleEvent} {effects : List Effect}
    (consequence : Consequence event before after effects) :
    before = after ∨ after ∈ successors before := by
  cases consequence with
  | ignored | offline => exact .inl rfl
  | code | stopped | unstarted => exact .inr (by decide)
  | login _ expected => rcases expected with rfl | rfl <;> exact .inr (by decide)
  | replaced _ _ reported | limited _ _ reported | crashed _ reported =>
    rcases reported with rfl | rfl <;> exact .inr (by decide)

private theorem phaseSteps_append (feed more : List FeedEvent) :
    phaseSteps id (feed ++ more) = phaseSteps id feed ++ phaseSteps id more :=
  List.filterMap_append

theorem Replays.snoc {steps : List (Phase × Phase)} (replays : Replays steps before)
    (allowed : after ∈ successors before) : Replays (steps ++ [(before, after)]) after where
  first := by
    intro step head
    cases steps with
    | nil =>
      obtain rfl : (before, after) = step := by simpa using head
      exact replays.last.symm
    | cons first rest => exact replays.first step head
  linked := by
    refine List.isChain_append.mpr ⟨replays.linked, List.isChain_singleton _, ?_⟩
    intro step final next head
    obtain rfl : (before, after) = next := by simpa using head
    have last := replays.last
    rw [Option.mem_def.mp final] at last
    exact last.symm
  differ := by
    intro step member
    rcases List.mem_append.mp member with earlier | latest
    · exact replays.differ step earlier
    · obtain rfl := List.mem_singleton.mp latest
      exact ne_of_mem_successors allowed
  allowed := by
    intro step member
    rcases List.mem_append.mp member with earlier | latest
    · exact replays.allowed step earlier
    · obtain rfl := List.mem_singleton.mp latest
      exact allowed
  last := by simp

section retold

variable {feed : List FeedEvent}

/-- Only a change of phase adds to the steps. -/
theorem Retold.beside (retold : Retold id feed before) (said : List FeedEvent)
    (own : ∀ event ∈ said, event.instanceId = id) (silent : phaseSteps id said = []) :
    Retold id (feed ++ said) before where
  own := by
    intro event member
    exact (List.mem_append.mp member).elim (retold.own event) (own event)
  replays := by
    rw [phaseSteps_append, silent, List.append_nil]
    exact retold.replays

theorem Retold.changed (retold : Retold id feed before) (allowed : after ∈ successors before) :
    Retold id (feed ++ [.phaseChanged id before after]) after where
  own := by
    intro event member
    rcases List.mem_append.mp member with earlier | latest
    · exact retold.own event earlier
    · obtain rfl := List.mem_singleton.mp latest
      rfl
  replays := by
    have step : phaseSteps id [.phaseChanged id before after] = [(before, after)] := by
      simp [phaseSteps]
    rw [phaseSteps_append, step]
    exact retold.replays.snoc allowed

variable {thwarted scheduled : Prop} {told later : Telling}

/-- Each change of phase is published once, and in its place. -/
theorem Tells.retold (tells : Tells id thwarted scheduled told later)
    (retold : Retold id told.feed told.phase) : Retold id later.feed later.phase := by
  cases tells with
  | heard line => exact retold.beside _ (by simp [FeedEvent.instanceId]) rfl
  | @meant feed before after _ _ event consequence =>
    have named : Retold id (feed ++ [.lifecycle id event]) before :=
      retold.beside _ (by simp [FeedEvent.instanceId]) rfl
    dsimp only
    rw [List.append_cons]
    unfold changed
    split
    · rename_i same
      rw [List.append_nil, ← same]
      exact named
    · rename_i differ
      exact named.changed (consequence.allowed.resolve_left differ)
  | begun => exact retold.changed (by simp [successors])
  | stopped up => exact retold.changed (stopping_mem_successors up)
  | @due feed before _ schedule up =>
    have noticed : Retold id (feed ++ [.notice id .scheduledRestart]) before :=
      retold.beside _ (by simp [FeedEvent.instanceId]) rfl
    dsimp only
    rw [List.append_cons]
    exact noticed.changed (stopping_mem_successors up)
  | notified notice => exact retold.beside _ (by simp [FeedEvent.instanceId]) rfl
  | ended | spawned | abandoned => exact retold
  | @unspawned feed =>
    have stopped : Retold id (feed ++ [.phaseChanged id .starting .stopped]) .stopped :=
      retold.changed (by simp [successors])
    dsimp only
    rw [List.append_cons]
    exact stopped.beside _ (by simp [FeedEvent.instanceId]) rfl

theorem Tale.retold (tale : Tale id thwarted scheduled told later)
    (retold : Retold id told.feed told.phase) : Retold id later.feed later.phase := by
  induction tale with
  | refl => exact retold
  | tail _ tells ih => exact tells.retold ih

private theorem retold_nil : Retold id [] .stopped :=
  ⟨by simp, by simp [phaseSteps], List.isChain_nil, by simp [phaseSteps], by simp [phaseSteps], rfl⟩

end retold

variable {keeper : Keeper}

theorem reachable_retold (reachable : keeper.Reachable) (id : AccountId) :
    Retold id (keeper.ledger id).feed (tellingOf (keeper.accounts.get? id)).phase := by
  rw [← tellingOf_feed]
  exact Tale.retold (reachable_tale reachable) retold_nil

end BotKeeper.Proofs
