import BotKeeper.Text.Blank

/-! Values as words of the three script languages, and back. A shell word stands
between single quotes, with a single quote inside written as an escape between two
quoted parts. In a PowerShell word a single quote is doubled, and in a batch word a
percent sign. Reading ignores white space after a word. -/

namespace BotKeeper.Script
open Text

/-- The text with every `mark` written twice. -/
def doubled (mark : Char) (text : List Char) : List Char :=
  text.flatMap fun c => if c = mark then [mark, mark] else [c]

/-- The text with every pair of the mark read as one, from left to right. -/
def undoubled (mark : Char) : List Char → List Char
  | first :: second :: rest =>
    if first = mark ∧ second = mark then mark :: undoubled mark rest
    else first :: undoubled mark (second :: rest)
  | text => text

theorem undoubled_doubled (mark : Char) (text : List Char) :
    undoubled mark (doubled mark text) = text := by
  induction text with
  | nil => rfl
  | cons c rest ih =>
    by_cases marked : c = mark
    · subst c
      simp only [doubled, List.flatMap_cons, if_true, List.cons_append, List.nil_append, undoubled,
        true_and]
      exact congrArg _ ih
    · -- What follows an unmarked character may begin a pair, which is read from its own start.
      have single : doubled mark (c :: rest) = c :: doubled mark rest := by
        simp [doubled, marked]
      rw [single]
      cases later : doubled mark rest with
      | nil =>
        rw [later] at ih
        rw [undoubled, ← ih]
        · rfl
        · intro first second more same
          cases same
      | cons next more =>
        rw [undoubled, if_neg fun both => marked both.1, ← later, ih]

/-- The text without the last character, if that is `mark`. -/
def withoutLast? (mark : Char) (text : List Char) : Option (List Char) :=
  match text.reverse with
  | c :: rest => if c = mark then some rest.reverse else none
  | [] => none

def withoutFirst? (mark : Char) : List Char → Option (List Char)
  | c :: rest => if c = mark then some rest else none
  | [] => none

theorem withoutLast?_append (mark : Char) (text : List Char) :
    withoutLast? mark (text ++ [mark]) = some text := by
  simp [withoutLast?]

/-- White space is taken off only where nothing else follows it. -/
theorem trimEnd_append {last : Char} (shown : isBlank last = false) (text : List Char) :
    trimEnd (text ++ [last]) = text ++ [last] := by
  simp [trimEnd, trimEndWhile, shown]

def quote : Char := '\x27'

namespace Shell

def word (value : List Char) : List Char :=
  quote :: (value.flatMap fun c => if c = quote then [quote, '\\', quote, quote] else [c]) ++ [quote]

/-- The value of a word, of which a part may stand between quotes. Between quotes
every character is itself; outside, a backslash takes the next one as it is. A
quote or a backslash that nothing follows is an error. -/
def read? (inside : Bool) : List Char → Option (List Char)
  | [] => if inside then none else some []
  | c :: rest =>
    if c = quote then read? (!inside) rest
    else if !inside && c = '\\' then
      match rest with
      | next :: rest => (read? false rest).map (next :: ·)
      | [] => none
    else (read? inside rest).map (c :: ·)

def value? (raw : List Char) : Option (List Char) :=
  read? false (trimEnd raw)

section read

variable (inside : Bool) (c : Char) (rest : List Char)

theorem read?_quote : read? inside (quote :: rest) = read? (!inside) rest :=
  (read?.eq_def inside (quote :: rest)).trans (if_pos rfl)

theorem read?_backslash : read? false ('\\' :: c :: rest) = (read? false rest).map (c :: ·) :=
  rfl

theorem read?_inside {c : Char} (other : c ≠ quote) :
    read? true (c :: rest) = (read? true rest).map (c :: ·) :=
  (read?.eq_def true (c :: rest)).trans (if_neg other)

end read

/-- What stands between the outer quotes of a word is read back, up to the closing quote. -/
theorem read?_escaped (value rest : List Char) :
    read? true ((value.flatMap fun c => if c = quote then [quote, '\\', quote, quote] else [c]) ++
      quote :: rest) = (read? false rest).map (value ++ ·) := by
  induction value with
  | nil => simp [read?_quote]
  | cons c value ih =>
    rw [List.flatMap_cons, List.append_assoc]
    by_cases quoted : c = quote
    · subst c
      simp only [if_true, List.cons_append, List.nil_append, read?_quote, Bool.not_true,
        read?_backslash, Bool.not_false, ih, Option.map_map]
      rfl
    · simp only [if_neg quoted, List.cons_append, List.nil_append, read?_inside _ quoted, ih,
        Option.map_map]
      rfl

theorem value?_word (value : List Char) : value? (word value) = some value := by
  have shown : isBlank quote = false := by decide
  rw [value?, word, trimEnd_append shown, List.cons_append, read?_quote, Bool.not_false,
    read?_escaped, read?.eq_1]
  simp

end Shell

namespace PowerShell

def word (value : List Char) : List Char :=
  quote :: doubled quote value ++ [quote]

def value? (raw : List Char) : Option (List Char) := do
  let inner ← withoutFirst? quote (trimEnd raw)
  let inner ← withoutLast? quote inner
  return undoubled quote inner

theorem value?_word (value : List Char) : value? (word value) = some value := by
  have shown : isBlank quote = false := by decide
  have first : withoutFirst? quote (quote :: (doubled quote value ++ [quote])) =
      some (doubled quote value ++ [quote]) := by simp [withoutFirst?]
  rw [value?, word, trimEnd_append shown, List.cons_append, first]
  simp [withoutLast?_append, undoubled_doubled]

end PowerShell

namespace Batch

def word (value : List Char) : List Char :=
  doubled '%' value

/-- The value of a word that a double quote ends. -/
def value? (raw : List Char) : Option (List Char) :=
  (withoutLast? '"' (trimEnd raw)).map (undoubled '%')

theorem value?_word (value : List Char) : value? (word value ++ ['"']) = some value := by
  have shown : isBlank '"' = false := by decide
  rw [value?, trimEnd_append shown, withoutLast?_append, Option.map_some, word, undoubled_doubled]

end Batch

end BotKeeper.Script
