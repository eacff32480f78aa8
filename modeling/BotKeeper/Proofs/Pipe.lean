import BotKeeper.Proofs.Lineage

/-! What the pipe of one process gives. The process writes bytes in portions of any size, and the
reports depend on all of its bytes together only: the lines that have ended, and with its exit the
piece after the last of them, unless the pipe was given up. -/

namespace BotKeeper.Proofs

def pieces (written : List UInt8) : List (List UInt8) :=
  Text.cutAfter (· == Bot.lineFeed) written

/-- The lines of some bytes. A last piece without a line feed is a line too. -/
def linesOf (written : List UInt8) : List String :=
  (pieces written).map Bot.lineText

def endedLines (written : List UInt8) : List String :=
  ((pieces written).filter Bot.endsLine).map Bot.lineText

def openPiece (written : List UInt8) : List UInt8 :=
  ((pieces written).filter (!Bot.endsLine ·)).flatten

/-- The lines that are reported of a process by the time of its exit. -/
def deliveredLines (written : List UInt8) (givenUp : Bool) : List String :=
  if givenUp then endedLines written else linesOf written

def lastLines (piece : List UInt8) : List String :=
  if piece.isEmpty then [] else [Bot.lineText piece]

private theorem endsLine_append (body : List UInt8) (last : UInt8) :
    Bot.endsLine (body ++ [last]) = (last == Bot.lineFeed) := by
  simp [Bot.endsLine]

private theorem endsLine_unended {piece : List UInt8}
    (unended : ∀ item ∈ piece, (item == Bot.lineFeed) = false) : Bot.endsLine piece = false := by
  unfold Bot.endsLine
  cases last : piece.getLast? with
  | none => rfl
  | some item => exact unended item (List.mem_of_getLast? last)

private theorem pieces_unended {piece : List UInt8}
    (unended : ∀ item ∈ piece, (item == Bot.lineFeed) = false) :
    pieces piece = if piece.isEmpty then [] else [piece] :=
  Text.cutAfter_unended unended

private theorem pieces_split (written : List UInt8) :
    (∀ item ∈ openPiece written, (item == Bot.lineFeed) = false) ∧
    ∀ more, pieces (written ++ more) =
      (pieces written).filter Bot.endsLine ++ pieces (openPiece written ++ more) := by
  obtain ⟨done, rest, closed, unended, splits⟩ :=
    Text.cutAfter_split (· == Bot.lineFeed) written
  have ends : ∀ piece ∈ done, Bot.endsLine piece = true := by
    intro piece member
    obtain ⟨body, last, rfl, isEnd⟩ := closed piece member
    rw [endsLine_append, isEnd]
  have unclosed : Bot.endsLine rest = false := endsLine_unended unended
  have whole : pieces written = done ++ if rest.isEmpty then [] else [rest] := by
    rw [← pieces_unended unended]
    simpa [pieces] using splits []
  have ended : (pieces written).filter Bot.endsLine = done := by
    rw [whole, List.filter_append, List.filter_eq_self.mpr ends]
    split <;> simp [unclosed]
  have last : openPiece written = rest := by
    have none : done.filter (!Bot.endsLine ·) = [] :=
      List.filter_eq_nil_iff.mpr fun piece member => by simp [ends piece member]
    rw [openPiece, whole, List.filter_append, none, List.nil_append]
    cases rest <;> simp [unclosed]
  rw [ended, last]
  exact ⟨unended, splits⟩

private theorem openPiece_unended (written : List UInt8) :
    ∀ item ∈ openPiece written, (item == Bot.lineFeed) = false :=
  (pieces_split written).1

/-- Only the bytes after the last line feed matter for what is cut off later. -/
theorem pieces_append (written more : List UInt8) :
    pieces (written ++ more) =
      (pieces written).filter Bot.endsLine ++ pieces (openPiece written ++ more) :=
  (pieces_split written).2 more

private theorem endedLines_append (written more : List UInt8) :
    endedLines (written ++ more) = endedLines written ++ endedLines (openPiece written ++ more) := by
  simp only [endedLines, pieces_append written more, List.filter_append, List.filter_filter,
    Bool.and_self, List.map_append]

private theorem openPiece_append (written more : List UInt8) :
    openPiece (written ++ more) = openPiece (openPiece written ++ more) := by
  have none : ((pieces written).filter Bot.endsLine).filter (!Bot.endsLine ·) = [] := by
    simp [List.filter_filter]
  rw [openPiece, pieces_append, List.filter_append, none, List.nil_append]
  rfl

private theorem linesOf_eq (written : List UInt8) :
    linesOf written = endedLines written ++ lastLines (openPiece written) := by
  have whole := pieces_append written []
  rw [List.append_nil, List.append_nil, pieces_unended (openPiece_unended written)] at whole
  unfold linesOf endedLines lastLines
  rw [whole, List.map_append]
  split
  · simp
  · simp [List.filter_append, endsLine_unended (openPiece_unended written)]

def lastWords (bot : Bot) : List UInt8 :=
  match bot.conduct.onTerm with
  | .exits _ words => Bot.lineBytes words
  | .dies | .ignores => []

/-- Something that happens to a process, with the bytes that get into its pipe by it and with
whether the pipe is given up. -/
inductive Stirs (bot : Bot) : List UInt8 → Bool → Bot × List Report → Prop where
  | printed (bytes : List UInt8) :
      Stirs bot (if bot.isGone then [] else bytes) false (bot.print bytes)
  | died (alive : bot.isAlive = true) (code : Option Int32) (now : Nat) :
      Stirs bot [] false (bot.die code now)
  | asked (alive : bot.isAlive = true) (now : Nat) :
      Stirs bot (lastWords bot) false (bot.askToEnd now)
  | closed : Stirs bot [] false bot.closeOutput
  | gaveUp {deadline : Nat} (lingers : bot.deadline? = some deadline) :
      Stirs bot [] true bot.giveUp
  | altered (conduct : Conduct) : Stirs bot [] false ({ bot with conduct }, [])

theorem Stirs.changes {bot : Bot} {bytes : List UInt8} {givesUp : Bool} {change : Bot × List Report}
    (stirs : Stirs bot bytes givesUp change) : Changes bot change := by
  cases stirs with
  | printed bytes => exact print_changes bot bytes
  | died alive code now => exact die_changes alive code now
  | asked alive now => exact askToEnd_changes alive now
  | closed => exact closeOutput_changes bot
  | gaveUp lingers => exact giveUp_changes bot
  | altered conduct => exact alter_changes bot conduct

/-- A process that has written some bytes, and all that it has reported. -/
structure Piped (bot : Bot) (written : List UInt8) (givenUp : Bool) (reports : List Report) :
    Prop where
  there : bot.isGone = false → givenUp = false ∧ bot.unfinished = openPiece written ∧
    reports = (endedLines written).map .line
  gone : bot.isGone = true → ∃ code,
    reports = (deliveredLines written givenUp).map .line ++ [.exited code]

namespace Piped

variable {bot : Bot} {written : List UInt8} {givenUp : Bool} {reports : List Report}

theorem started (alive : bot.isAlive = true) (empty : bot.unfinished = []) :
    Piped bot [] false [] where
  there := fun _ => ⟨rfl, empty, rfl⟩
  gone := fun gone => Bool.noConfusion ((not_gone_of_alive alive).symm.trans gone)

theorem print (piped : Piped bot written givenUp reports) (there : bot.isGone = false)
    (bytes : List UInt8) :
    Piped (bot.print bytes).1 (written ++ bytes) givenUp (reports ++ (bot.print bytes).2) := by
  obtain ⟨kept, unfinished, told⟩ := piped.there there
  have prints : bot.print bytes = ({ bot with unfinished := openPiece (written ++ bytes) },
      (endedLines (openPiece written ++ bytes)).map .line) := by
    rw [openPiece_append]
    simp [Bot.print, there, unfinished, endedLines, openPiece, pieces,
      List.partition_eq_filter_filter, Function.comp_def]
  rw [prints, told, ← List.map_append, ← endedLines_append]
  exact ⟨fun _ => ⟨kept, rfl, rfl⟩, fun gone => Bool.noConfusion (there.symm.trans gone)⟩

/-- At the end of the pipe the last piece is a line. -/
theorem ended (piped : Piped bot written givenUp reports) (there : bot.isGone = false)
    (code : Option Int32) :
    Piped { bot with vitality := .gone, unfinished := [] } written givenUp
      (reports ++ (bot.lastLine ++ [.exited code])) := by
  obtain ⟨rfl, unfinished, told⟩ := piped.there there
  have last : bot.lastLine = (lastLines (openPiece written)).map .line := by
    unfold Bot.lastLine lastLines
    rw [unfinished]
    split <;> rfl
  refine ⟨fun impossible => (by cases impossible), fun _ => ⟨code, ?_⟩⟩
  rw [told, last, ← List.append_assoc, ← List.map_append, ← linesOf_eq]
  rfl

theorem die (piped : Piped bot written givenUp reports) (there : bot.isGone = false)
    (code : Option Int32) (now : Nat) :
    Piped (bot.die code now).1 written givenUp (reports ++ (bot.die code now).2) := by
  unfold Bot.die
  split
  · rw [List.append_nil]
    exact ⟨fun _ => piped.there there, fun impossible => by cases impossible⟩
  · exact piped.ended there code

theorem giveUp (piped : Piped bot written givenUp reports) {deadline : Nat}
    (lingers : bot.deadline? = some deadline) :
    Piped bot.giveUp.1 written true (reports ++ bot.giveUp.2) := by
  unfold Bot.deadline? at lingers
  unfold Bot.giveUp
  split at lingers
  · rename_i code _ vitality
    obtain ⟨_, _, told⟩ := piped.there (lingering_there vitality)
    rw [told]
    exact ⟨fun impossible => (by cases impossible), fun _ => ⟨code, rfl⟩⟩
  · cases lingers

theorem asked (piped : Piped bot written givenUp reports) (alive : bot.isAlive = true) (now : Nat) :
    Piped (bot.askToEnd now).1 (written ++ lastWords bot) givenUp
      (reports ++ (bot.askToEnd now).2) := by
  have there := not_gone_of_alive alive
  unfold lastWords
  cases asked : bot.conduct.onTerm with
  | dies =>
    simp only [Bot.askToEnd, asked, List.append_nil]
    exact piped.die there none now
  | ignores =>
    simp only [Bot.askToEnd, asked, List.append_nil]
    exact piped
  | exits code words =>
    have said := piped.print there (Bot.lineBytes words)
    have still := (print_there there (Bot.lineBytes words)).1
    rw [Bot.askToEnd_exits asked, ← List.append_assoc]
    exact said.die still (some code) now

/-- Whatever happens to a process, its reports are those of the bytes it has written. -/
theorem stirs (piped : Piped bot written givenUp reports) {bytes : List UInt8} {givesUp : Bool}
    {change : Bot × List Report} (stirs : Stirs bot bytes givesUp change) :
    Piped change.1 (written ++ bytes) (givenUp || givesUp) (reports ++ change.2) := by
  cases stirs with
  | printed bytes =>
    rw [Bool.or_false]
    cases gone : bot.isGone with
    | false => exact piped.print gone bytes
    | true =>
      simp only [Bot.print, gone, if_true, List.append_nil]
      exact piped
  | died alive code now =>
    rw [Bool.or_false, List.append_nil]
    exact piped.die (not_gone_of_alive alive) code now
  | asked alive now =>
    rw [Bool.or_false]
    exact piped.asked alive now
  | closed =>
    rw [Bool.or_false, List.append_nil]
    unfold Bot.closeOutput
    split
    · rename_i code deadline lingers
      exact piped.ended (lingering_there lingers) code
    · rw [List.append_nil]
      exact piped
  | gaveUp lingers =>
    rw [Bool.or_true, List.append_nil]
    exact piped.giveUp lingers
  | altered conduct =>
    rw [Bool.or_false, List.append_nil, List.append_nil]
    exact ⟨piped.there, piped.gone⟩

end Piped

end BotKeeper.Proofs
