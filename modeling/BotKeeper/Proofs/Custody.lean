import BotKeeper.Instance.Effects
import BotKeeper.Proofs.Lineage

/-! Which process an instance holds, and what it has still to learn of it. An
instance holds at most the latest process of its account, and lets go of it only
when its exit has been reported. The exit of the process of the latest launch is
what tells that all processes are gone. -/

namespace BotKeeper.Proofs

/-- The processes, reports and calls of an instance, which has come from an earlier state. -/
structure Custody (origin state : Instance) : Prop where
  numbered : Numbered state.bots
  free : state.handle = none → AllGone state.bots
  held : ∀ pid, state.handle = some pid → ∃ bot earlier, state.bots = bot :: earlier ∧
    bot.pid = pid ∧ bot.generation = state.generation ∧ AllGone earlier ∧
    (bot.isGone = true → ∃ code, ⟨state.generation, .exited code⟩ ∈ state.messages)
  dated : ∀ message ∈ state.messages, message.generation ≤ state.generation
  final : ∀ code, ⟨state.generation, .exited code⟩ ∈ state.messages → AllGone state.bots
  named : state.machine.id = origin.machine.id
  lineage : Lineage origin.bots state.bots
  answers : origin.answers <+: state.answers
  requests : state.requests = origin.requests
  calls : state.calls = origin.calls

namespace Custody

variable {origin state : Instance}

/-- What is no matter of custody may change in any way, and answers may be added. -/
theorem frame (custody : Custody origin state) {after : Instance} (bots : after.bots = state.bots)
    (handle : after.handle = state.handle) (generation : after.generation = state.generation)
    (messages : after.messages = state.messages) (named : after.machine.id = state.machine.id)
    (answers : state.answers <+: after.answers) (requests : after.requests = state.requests)
    (calls : after.calls = state.calls) : Custody origin after := by
  constructor
  · rw [bots]; exact custody.numbered
  · rw [bots, handle]; exact custody.free
  · rw [bots, handle, generation, messages]; exact custody.held
  · rw [messages, generation]; exact custody.dated
  · rw [messages, generation, bots]; exact custody.final
  · exact named.trans custody.named
  · rw [bots]; exact custody.lineage
  · exact custody.answers.trans answers
  · exact requests.trans custody.requests
  · exact calls.trans custody.calls

theorem rebase (custody : Custody origin state) : Custody state state :=
  ⟨custody.numbered, custody.free, custody.held, custody.dated, custody.final, rfl, .refl,
    List.prefix_rfl, rfl, rfl⟩

theorem requeue (custody : Custody origin state) (requests : List Request) (calls : Nat) :
    Custody { state with requests, calls } { state with requests, calls } :=
  ⟨custody.numbered, custody.free, custody.held, custody.dated, custody.final, rfl, .refl,
    List.prefix_rfl, rfl, rfl⟩

theorem past_gone (custody : Custody origin state) : AllGone state.bots.tail := by
  cases holds : state.handle with
  | none => exact fun bot member => custody.free holds bot (List.mem_of_mem_tail member)
  | some pid =>
    obtain ⟨bot, earlier, bots, _, _, gone, _⟩ := custody.held pid holds
    rw [bots]
    exact gone

/-- A process that is not gone is the one that is held, from the latest launch. -/
theorem latest (custody : Custody origin state) {bot : Bot} (member : bot ∈ state.bots)
    (there : bot.isGone = false) :
    ∃ earlier, state.bots = bot :: earlier ∧ state.handle = some bot.pid ∧
      bot.generation = state.generation ∧ AllGone earlier := by
  cases holds : state.handle with
  | none => exact Bool.noConfusion (there.symm.trans (custody.free holds bot member))
  | some pid =>
    obtain ⟨head, earlier, bots, samePid, generation, gone, _⟩ := custody.held pid holds
    rw [bots] at member
    rcases List.mem_cons.mp member with same | inside
    · subst head
      exact ⟨earlier, bots, by rw [samePid], generation, gone⟩
    · exact Bool.noConfusion (there.symm.trans (gone bot inside))

/-- A process whose exit has been reported says nothing more, whatever happens to it. -/
theorem observe_gone (custody : Custody origin state) {bot : Bot} (member : bot ∈ state.bots)
    (gone : bot.isGone = true) {change : Bot × List Report} (changes : Changes bot change) :
    Custody origin (state.observe change) := by
  have ages := custody.numbered.replace member changes.ages
  have messages : (state.observe change).messages = state.messages := by
    simp [Instance.observe, changes.silent gone]
  have allGone : AllGone state.bots → AllGone (state.observe change).bots := fun all =>
    all.map _ ages
  refine ⟨custody.numbered.map _ ages, fun free => allGone (custody.free free), ?_, ?_, ?_,
    custody.named, custody.lineage.aged _ ages, custody.answers, custody.requests, custody.calls⟩
  · intro pid holds
    obtain ⟨head, earlier, bots, samePid, generation, past, reported⟩ := custody.held pid holds
    have numbered := custody.numbered
    rw [bots] at ages member numbered
    have headAges := ages head (by simp)
    refine ⟨_, _, by simp only [Instance.observe, Ledger.replace, bots, List.map_cons],
      headAges.pid.trans samePid, headAges.generation.trans generation,
      past.map _ fun other inside => ages other (by simp [inside]), ?_⟩
    intro headGone
    rw [messages]
    apply reported
    split at headGone
    · rename_i same
      have equal : bot = head :=
        numbered.unique member (by simp) (changes.ages.pid.symm.trans same.symm)
      exact equal ▸ gone
    · exact headGone
  · rw [messages]; exact custody.dated
  · intro code reported
    rw [messages] at reported
    exact allGone (custody.final code reported)

/-- A process that is not gone is the latest one, and its exit is reported when it is gone. -/
theorem observe_latest (custody : Custody origin state) {bot : Bot} (member : bot ∈ state.bots)
    (there : bot.isGone = false) {change : Bot × List Report} (changes : Changes bot change) :
    Custody origin (state.observe change) := by
  have ages := custody.numbered.replace member changes.ages
  obtain ⟨earlier, bots, holds, generation, past⟩ := custody.latest member there
  have after : (state.observe change).bots = change.1 :: earlier := by
    simp only [Instance.observe, Ledger.replace, bots]
    exact (bots ▸ custody.numbered).replace_latest changes.ages.pid
  have notFree : state.handle ≠ none := by simp [holds]
  have sameGeneration := changes.ages.generation.trans generation
  refine ⟨custody.numbered.map _ ages, fun free => absurd free notFree, ?_, ?_, ?_,
    custody.named, custody.lineage.aged _ ages, custody.answers, custody.requests, custody.calls⟩
  · intro pid holding
    have samePid : bot.pid = pid := Option.some.inj (holds.symm.trans holding)
    refine ⟨change.1, earlier, after, changes.ages.pid.trans samePid, sameGeneration, past, ?_⟩
    intro ended
    obtain ⟨code, told⟩ := changes.told there ended
    refine ⟨code, List.mem_append_right _ (List.mem_map.mpr ⟨_, told, ?_⟩)⟩
    exact congrArg (Message.mk · _) sameGeneration
  · intro message present
    rcases List.mem_append.mp present with old | new
    · exact custody.dated message old
    · obtain ⟨report, _, rfl⟩ := List.mem_map.mp new
      exact Nat.le_of_eq sameGeneration
  · intro code present
    rcases List.mem_append.mp present with old | new
    · have all := custody.final code old
      exact Bool.noConfusion (there.symm.trans (all bot member))
    · obtain ⟨report, said, same⟩ := List.mem_map.mp new
      have exited : report = .exited code := (Message.mk.inj same).2
      rw [after]
      intro other inside
      rcases List.mem_cons.mp inside with here | before
      · exact here ▸ changes.last code (exited ▸ said)
      · exact past other before

theorem observe (custody : Custody origin state) {bot : Bot} (member : bot ∈ state.bots)
    {change : Bot × List Report} (changes : Changes bot change) :
    Custody origin (state.observe change) := by
  cases gone : bot.isGone with
  | true => exact custody.observe_gone member gone changes
  | false => exact custody.observe_latest member gone changes

theorem of_held?_none (custody : Custody origin state) (none : state.held? = none) :
    AllGone state.bots := by
  cases holds : state.handle with
  | none => exact custody.free holds
  | some pid =>
    obtain ⟨bot, earlier, bots, samePid, _, past, _⟩ := custody.held pid holds
    have found : state.bot? pid = some bot := by
      simp only [Ledger.bot?, bots, ← samePid, Numbered.find_latest]
    have gone : bot.isGone = true := by
      simpa [Instance.held?, holds, found, Option.filter] using none
    intro other member
    rw [bots] at member
    rcases List.mem_cons.mp member with here | there
    · exact here ▸ gone
    · exact past other there

end Custody

theorem of_held?_some {state : Instance} {bot : Bot} (some : state.held? = some bot) :
    bot ∈ state.bots ∧ bot.isGone = false := by
  obtain ⟨found, there⟩ := Option.filter_eq_some_iff.mp some
  obtain ⟨pid, _, found⟩ := Option.bind_eq_some_iff.mp found
  exact ⟨List.mem_of_find?_eq_some found, by simpa using there⟩

/-- The end of a process concerns the processes and the reports only. -/
def SameButBots (state after : Instance) : Prop :=
  ∃ bots messages, after = { state with bots := bots, messages := messages }

theorem ending_same {state between : Instance} (same : SameButBots state between)
    (pressure : Pressure) (deadline : Nat) :
    SameButBots state (between.ending pressure deadline).1 := by
  unfold Instance.ending
  split
  · exact same
  · exact same

theorem kill_same (around : Surroundings) (state : Instance) :
    SameButBots state (state.kill around).1 := by
  unfold Instance.kill
  split
  · exact ⟨_, _, rfl⟩
  · split
    · split
      · exact ending_same ⟨_, _, rfl⟩ _ _
      · exact ending_same ⟨_, _, rfl⟩ _ _
      · exact ⟨_, _, rfl⟩
    · exact ⟨_, _, rfl⟩

theorem terminate_same (around : Surroundings) (state : Instance) (graceful : Bool) :
    SameButBots state (state.terminate around graceful).1 := by
  unfold Instance.terminate
  split
  · exact ⟨_, _, rfl⟩
  · dsimp only
    split
    · exact ending_same ⟨_, _, rfl⟩ _ _
    · exact kill_same around state

theorem observe_length (state : Instance) (change : Bot × List Report) :
    (state.observe change).bots.length = state.bots.length := by
  simp [Instance.observe, Ledger.replace]

theorem ending_length (state : Instance) (pressure : Pressure) (deadline : Nat) :
    (state.ending pressure deadline).1.bots.length = state.bots.length := by
  unfold Instance.ending
  split <;> rfl

theorem kill_length (around : Surroundings) (state : Instance) :
    (state.kill around).1.bots.length = state.bots.length := by
  unfold Instance.kill
  split
  · rfl
  · split
    · split
      · exact (ending_length _ _ _).trans (observe_length _ _)
      · exact ending_length _ _ _
      · rfl
    · rfl

theorem terminate_length (around : Surroundings) (state : Instance) (graceful : Bool) :
    (state.terminate around graceful).1.bots.length = state.bots.length := by
  unfold Instance.terminate
  split
  · rfl
  · dsimp only
    split
    · exact (ending_length _ _ _).trans (observe_length _ _)
    · exact kill_length around state

theorem SameButBots.result {state : Instance} {result : Instance × Ending}
    (same : SameButBots state result.1) :
    ∃ bots messages ending, result = ({ state with bots, messages }, ending) := by
  obtain ⟨after, ending⟩ := result
  obtain ⟨bots, messages, rfl⟩ := same
  exact ⟨bots, messages, ending, rfl⟩

structure Brought (origin : Instance) (result : Instance × Ending) : Prop where
  custody : Custody origin result.1
  complete : result.2 = .complete → AllGone result.1.bots
  failed : ∀ error, result.2 = .failed error → error.kind = .process

namespace Brought

variable {origin state : Instance}

theorem nothing (custody : Custody origin state) (none : state.held? = none) :
    Brought origin (state, .complete) :=
  ⟨custody, fun _ => custody.of_held?_none none, fun _ impossible => by cases impossible⟩

theorem ending (custody : Custody origin state) (pressure : Pressure) (deadline : Nat) :
    Brought origin (state.ending pressure deadline) := by
  unfold Instance.ending
  split
  · rename_i none
    exact nothing custody none
  · exact ⟨custody, fun impossible => (by cases impossible), fun _ impossible => by cases impossible⟩

theorem failure (custody : Custody origin state) {error : Error} (kind : error.kind = .process) :
    Brought origin (state, .failed error) :=
  ⟨custody, fun impossible => (by cases impossible), fun _ same => Ending.failed.inj same ▸ kind⟩

theorem observed (custody : Custody origin state) {bot : Bot} (held : state.held? = some bot)
    {change : Bot × List Report} (changes : Changes bot change) (pressure : Pressure) (deadline : Nat) :
    Brought origin ((state.observe change).ending pressure deadline) :=
  ending (custody.observe (of_held?_some held).1 changes) pressure deadline

theorem kill (around : Surroundings) (custody : Custody origin state) :
    Brought origin (state.kill around) := by
  unfold Instance.kill
  split
  · rename_i none
    exact nothing custody none
  · rename_i bot held
    split
    · rename_i alive
      split
      · exact observed custody held (die_changes alive none around.now) _ _
      · exact ending custody _ _
      · exact failure custody rfl
    · exact failure custody rfl

theorem terminate (around : Surroundings) (graceful : Bool) (custody : Custody origin state) :
    Brought origin (state.terminate around graceful) := by
  unfold Instance.terminate
  split
  · rename_i none
    exact nothing custody none
  · rename_i bot held
    dsimp only
    split
    · rename_i asked
      have alive : bot.isAlive = true := by
        simp only [Bool.and_eq_true] at asked
        exact asked.1.2
      exact observed custody held (askToEnd_changes alive around.now) _ _
    · exact kill around custody

end Brought

end BotKeeper.Proofs
