import BotKeeper.Instance.Basic

/-! The processes of one account over time. A process only ever ages, and another
one is launched only after the exits of all earlier ones have been reported. So at
every moment all processes but the latest are gone, whatever the instances do. -/

namespace BotKeeper.Proofs

def AllGone (bots : List Bot) : Prop :=
  ∀ bot ∈ bots, bot.isGone = true

/-- The processes carry the numbers of their launches, the latest one first. -/
def Numbered : List Bot → Prop
  | [] => True
  | bot :: earlier => bot.pid = earlier.length + 1 ∧ Numbered earlier

structure Ages (before after : Bot) : Prop where
  pid : after.pid = before.pid
  generation : after.generation = before.generation
  alive : after.isAlive = true → before.isAlive = true
  gone : before.isGone = true → after.isGone = true

/-- How the processes of an account become others. -/
inductive Lineage (origin : List Bot) : List Bot → Prop where
  | refl : Lineage origin origin
  | aged {bots : List Bot} (change : Bot → Bot) (lineage : Lineage origin bots)
      (ages : ∀ bot ∈ bots, Ages bot (change bot)) : Lineage origin (bots.map change)
  | launched {bots : List Bot} {latest : Bot} (lineage : Lineage origin bots) (gone : AllGone bots)
      (alive : latest.isAlive = true) (number : latest.pid = bots.length + 1) :
      Lineage origin (latest :: bots)

theorem not_alive_of_gone {bot : Bot} (gone : bot.isGone = true) : bot.isAlive = false := by
  simp only [Bot.isGone, beq_iff_eq] at gone
  simp [Bot.isAlive, gone]

theorem not_gone_of_alive {bot : Bot} (alive : bot.isAlive = true) : bot.isGone = false := by
  cases gone : bot.isGone with
  | false => rfl
  | true => simp [not_alive_of_gone gone] at alive

namespace Ages

theorem refl (bot : Bot) : Ages bot bot :=
  ⟨rfl, rfl, id, id⟩

theorem trans {first second third : Bot} (one : Ages first second) (other : Ages second third) :
    Ages first third :=
  ⟨other.pid.trans one.pid, other.generation.trans one.generation,
    fun alive => one.alive (other.alive alive), fun gone => other.gone (one.gone gone)⟩

end Ages

theorem AllGone.map {bots : List Bot} (gone : AllGone bots) (change : Bot → Bot)
    (ages : ∀ bot ∈ bots, Ages bot (change bot)) : AllGone (bots.map change) := by
  intro bot member
  obtain ⟨before, present, rfl⟩ := List.mem_map.mp member
  exact (ages before present).gone (gone before present)

namespace Numbered

theorem map {bots : List Bot} (numbered : Numbered bots) (change : Bot → Bot)
    (ages : ∀ bot ∈ bots, Ages bot (change bot)) : Numbered (bots.map change) := by
  induction bots with
  | nil => trivial
  | cons bot earlier ih =>
    refine ⟨?_, ih numbered.2 fun other member => ages other (by simp [member])⟩
    simpa only [List.length_map] using (ages bot (by simp)).pid.trans numbered.1

theorem pid_le {bots : List Bot} (numbered : Numbered bots) {bot : Bot} (member : bot ∈ bots) :
    bot.pid ≤ bots.length := by
  induction bots with
  | nil => cases member
  | cons latest earlier ih =>
    rcases List.mem_cons.mp member with same | inside
    · subst bot
      exact Nat.le_of_eq numbered.1
    · have bound := ih numbered.2 inside
      simp only [List.length_cons]
      omega

theorem unique {bots : List Bot} (numbered : Numbered bots) {left right : Bot}
    (first : left ∈ bots) (second : right ∈ bots) (same : left.pid = right.pid) : left = right := by
  induction bots with
  | nil => cases first
  | cons latest earlier ih =>
    have latestPid := numbered.1
    rcases List.mem_cons.mp first with leftLatest | leftEarlier <;>
      rcases List.mem_cons.mp second with rightLatest | rightEarlier
    · exact leftLatest.trans rightLatest.symm
    · have bound := numbered.2.pid_le rightEarlier
      rw [← same, leftLatest] at bound
      omega
    · have bound := numbered.2.pid_le leftEarlier
      rw [same, rightLatest] at bound
      omega
    · exact ih numbered.2 leftEarlier rightEarlier

/-- Where one process ages in its place, all others are left as they are. -/
theorem replace {bots : List Bot} (numbered : Numbered bots) {bot after : Bot} (member : bot ∈ bots)
    (ages : Ages bot after) :
    ∀ other ∈ bots, Ages other (if other.pid = after.pid then after else other) := by
  intro other present
  split
  · rename_i same
    have equal := numbered.unique present member (same.trans ages.pid)
    exact equal ▸ ages
  · exact Ages.refl other

theorem replace_latest {latest after : Bot} {earlier : List Bot}
    (numbered : Numbered (latest :: earlier)) (same : after.pid = latest.pid) :
    (latest :: earlier).map (fun other => if other.pid = after.pid then after else other) =
      after :: earlier := by
  have others : ∀ other ∈ earlier, (if other.pid = after.pid then after else other) = other := by
    intro other member
    have bound := numbered.2.pid_le member
    have number := numbered.1
    have different : other.pid ≠ after.pid := by omega
    exact if_neg different
  rw [List.map_cons, if_pos same.symm, List.map_congr_left others, List.map_id']

theorem find_latest {latest : Bot} {earlier : List Bot} :
    (latest :: earlier).find? (fun bot => bot.pid == latest.pid) = some latest := by
  simp

end Numbered

namespace Lineage

theorem numbered {origin bots : List Bot} (lineage : Lineage origin bots)
    (start : Numbered origin) : Numbered bots := by
  induction lineage with
  | refl => exact start
  | aged change _ ages ih => exact ih.map change ages
  | launched _ _ _ number ih => exact ⟨number, ih⟩

theorem past_gone {origin bots : List Bot} (lineage : Lineage origin bots)
    (start : AllGone origin.tail) : AllGone bots.tail := by
  induction lineage with
  | refl => exact start
  | aged change _ ages ih =>
    rw [← List.map_tail]
    exact ih.map change fun bot member => ages bot (List.mem_of_mem_tail member)
  | launched _ gone _ _ _ => exact gone

end Lineage

/-- Where all processes but the latest are gone, at most one is alive. -/
theorem alive_length_le_one {bots : List Bot} (past : AllGone bots.tail) :
    (bots.filter Bot.isAlive).length ≤ 1 := by
  cases bots with
  | nil => simp
  | cons latest earlier =>
    have none : earlier.filter Bot.isAlive = [] := by
      apply List.filter_eq_nil_iff.mpr
      intro bot member alive
      simp [not_alive_of_gone (past bot member)] at alive
    rw [List.filter_cons, none]
    split <;> simp

/-- What may happen to one process, and what is reported of it: its exit is reported
when it is gone and not before, and after that it is silent. -/
structure Changes (before : Bot) (change : Bot × List Report) : Prop where
  ages : Ages before change.1
  silent : before.isGone = true → change.2 = []
  last : ∀ code, .exited code ∈ change.2 → change.1.isGone = true
  told : before.isGone = false → change.1.isGone = true → ∃ code, .exited code ∈ change.2

namespace Changes

theorem none {before after : Bot} (ages : Ages before after)
    (gone : after.isGone = true → before.isGone = true) : Changes before (after, []) :=
  ⟨ages, fun _ => rfl, fun _ impossible => (by cases impossible),
    fun present absent => by simp [gone absent] at present⟩

theorem append {before between : Bot} {said : List Report} {change : Bot × List Report}
    (first : Changes before (between, said)) (there : between.isGone = false)
    (second : Changes between change) : Changes before (change.1, said ++ change.2) := by
  have notGone : before.isGone = false := by
    cases gone : before.isGone with
    | false => rfl
    | true => simp [first.ages.gone gone] at there
  refine ⟨first.ages.trans second.ages, fun gone => by simp [gone] at notGone, ?_, ?_⟩
  · intro code member
    rcases List.mem_append.mp member with early | late
    · have gone := first.last code early
      exact Bool.noConfusion (there.symm.trans gone)
    · exact second.last code late
  · intro _ gone
    obtain ⟨code, member⟩ := second.told there gone
    exact ⟨code, List.mem_append_right _ member⟩

theorem ended {before : Bot} (alive : before.isGone = false) (code : Option Int32) :
    Changes before
      ({ before with vitality := .gone, unfinished := [] }, before.lastLine ++ [.exited code]) := by
  refine ⟨⟨rfl, rfl, fun impossible => (by cases impossible), fun _ => rfl⟩,
    fun gone => by simp [gone] at alive, fun _ _ => rfl, fun _ _ => ⟨code, by simp⟩⟩

end Changes

theorem print_changes (bot : Bot) (bytes : List UInt8) : Changes bot (bot.print bytes) := by
  unfold Bot.print
  split
  · exact .none (Ages.refl bot) id
  · rename_i there
    refine ⟨⟨rfl, rfl, id, id⟩, fun gone => absurd gone there, ?_, fun present gone => ?_⟩
    · intro code member
      simp at member
    · exact Bool.noConfusion (present.symm.trans gone)

theorem print_there {bot : Bot} (there : bot.isGone = false) (bytes : List UInt8) :
    (bot.print bytes).1.isGone = false ∧ (bot.print bytes).1.isAlive = bot.isAlive := by
  unfold Bot.print
  split
  · exact ⟨there, rfl⟩
  · exact ⟨there, rfl⟩

theorem die_changes {bot : Bot} (alive : bot.isAlive = true) (code : Option Int32) (now : Nat) :
    Changes bot (bot.die code now) := by
  unfold Bot.die
  split
  · refine .none ⟨rfl, rfl, fun _ => alive, fun gone => ?_⟩ fun impossible => by cases impossible
    simp [not_gone_of_alive alive] at gone
  · exact .ended (not_gone_of_alive alive) code

theorem exit_changes (bot : Bot) (code : Option Int32) (now : Nat) :
    Changes bot (bot.exit code now) := by
  unfold Bot.exit
  split
  · rename_i alive
    exact die_changes alive code now
  · exact .none (Ages.refl bot) id

theorem lingering_there {bot : Bot} {code : Option Int32} {deadline : Nat}
    (lingers : bot.vitality = .lingering code deadline) : bot.isGone = false := by
  simp [Bot.isGone, lingers]

theorem giveUp_changes (bot : Bot) : Changes bot bot.giveUp := by
  unfold Bot.giveUp
  split
  · rename_i code deadline lingers
    have there := lingering_there lingers
    exact ⟨⟨rfl, rfl, fun impossible => (by cases impossible), fun _ => rfl⟩,
      fun gone => by simp [gone] at there, fun _ _ => rfl, fun _ _ => ⟨code, by simp⟩⟩
  · exact .none (Ages.refl bot) id

theorem closeOutput_changes (bot : Bot) : Changes bot bot.closeOutput := by
  unfold Bot.closeOutput
  split
  · rename_i code deadline lingers
    exact .ended (lingering_there lingers) code
  · exact .none (Ages.refl bot) id

theorem alter_changes (bot : Bot) (conduct : Conduct) : Changes bot ({ bot with conduct }, []) :=
  .none ⟨rfl, rfl, id, id⟩ id

theorem askToEnd_changes {bot : Bot} (alive : bot.isAlive = true) (now : Nat) :
    Changes bot (bot.askToEnd now) := by
  cases asked : bot.conduct.onTerm with
  | dies =>
    simp only [Bot.askToEnd, asked]
    exact die_changes alive none now
  | ignores =>
    simp only [Bot.askToEnd, asked]
    exact .none (Ages.refl bot) id
  | exits code words =>
    rw [Bot.askToEnd_exits asked]
    have said := print_changes bot (Bot.lineBytes words)
    have there := print_there (not_gone_of_alive alive) (Bot.lineBytes words)
    exact said.append there.1 (die_changes (there.2.trans alive) (some code) now)

end BotKeeper.Proofs
