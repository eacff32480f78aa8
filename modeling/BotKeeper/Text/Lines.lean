/-! Text and bytes cut into lines. A piece ends with the mark that ends it; only
the last piece may be without one. -/

namespace BotKeeper.Text

/-- The pieces of a list, each cut off after an element that ends it. Together
they are the list again. -/
def cutAfter (ends : α → Bool) : List α → List (List α)
  | [] => []
  | first :: rest =>
    if ends first then [first] :: cutAfter ends rest
    else
      match cutAfter ends rest with
      | [] => [[first]]
      | piece :: pieces => (first :: piece) :: pieces

theorem flatten_cutAfter (ends : α → Bool) (items : List α) :
    (cutAfter ends items).flatten = items := by
  induction items with
  | nil => rfl
  | cons first rest ih =>
    unfold cutAfter
    split
    · simp [ih]
    · split
      · rename_i none
        simp [none] at ih
        simp [← ih]
      · rename_i some
        simp [some] at ih
        simp [ih]

/-- A piece is cut off after the first element that ends it. -/
theorem cutAfter_append (ends : α → Bool) {piece : List α} {last : α} (rest : List α)
    (unended : ∀ item ∈ piece, ends item = false) (closed : ends last = true) :
    cutAfter ends (piece ++ last :: rest) = (piece ++ [last]) :: cutAfter ends rest := by
  induction piece with
  | nil => simp only [List.nil_append, cutAfter, closed, if_true]
  | cons first piece ih =>
    have goesOn := unended first (by simp)
    have later := ih fun item member => unended item (List.mem_cons_of_mem _ member)
    simp only [List.cons_append, cutAfter, goesOn, later, Bool.false_eq_true, if_false]

theorem cutAfter_unended {ends : α → Bool} {items : List α}
    (unended : ∀ item ∈ items, ends item = false) :
    cutAfter ends items = if items.isEmpty then [] else [items] := by
  induction items with
  | nil => rfl
  | cons first rest ih =>
    have later := ih fun item member => unended item (List.mem_cons_of_mem _ member)
    unfold cutAfter
    rw [unended first (by simp), later]
    cases rest <;> rfl

/-- The pieces that have ended stay as they are whatever follows them, and what follows
continues the last piece. -/
theorem cutAfter_split (ends : α → Bool) (items : List α) : ∃ done rest,
    (∀ piece ∈ done, ∃ body last, piece = body ++ [last] ∧ ends last = true) ∧
    (∀ item ∈ rest, ends item = false) ∧
    ∀ more, cutAfter ends (items ++ more) = done ++ cutAfter ends (rest ++ more) := by
  induction items with
  | nil => exact ⟨[], [], by simp, by simp, fun _ => rfl⟩
  | cons first items ih =>
    obtain ⟨done, rest, closed, unended, splits⟩ := ih
    cases ended : ends first with
    | true =>
      refine ⟨[first] :: done, rest, ?_, unended, fun more => ?_⟩
      · intro piece member
        rcases List.mem_cons.mp member with rfl | later
        · exact ⟨[], first, rfl, ended⟩
        · exact closed piece later
      · rw [List.cons_append, cutAfter, if_pos ended, splits, List.cons_append]
    | false =>
      cases done with
      | nil =>
        -- No piece has ended yet, so the items themselves are the piece that goes on.
        have same : items = rest := by
          have both := congrArg List.flatten (splits [])
          simpa [flatten_cutAfter] using both
        subst rest
        refine ⟨[], first :: items, by simp, ?_, fun _ => rfl⟩
        intro item member
        rcases List.mem_cons.mp member with rfl | later
        · exact ended
        · exact unended item later
      | cons piece done =>
        refine ⟨(first :: piece) :: done, rest, ?_, unended, fun more => ?_⟩
        · intro other member
          rcases List.mem_cons.mp member with rfl | later
          · obtain ⟨body, last, rfl, isEnd⟩ := closed piece (by simp)
            exact ⟨first :: body, last, rfl, isEnd⟩
          · exact closed other (List.mem_cons_of_mem _ later)
        · rw [List.cons_append, cutAfter, if_neg (by simp [ended]), splits, List.cons_append]
          rfl

/-- A piece without the line feed that ends it, and without one carriage return
before that. -/
def withoutEnd (piece : List Char) : List Char :=
  match piece.reverse with
  | '\n' :: '\r' :: rest => rest.reverse
  | '\n' :: rest => rest.reverse
  | _ => piece

/-- The lines of a text. What follows the last line feed is a line only if it is not empty. -/
def lines (text : List Char) : List (List Char) :=
  (cutAfter (· == '\n') text).map withoutEnd

theorem withoutEnd_lineFeed {line : List Char} (plain : '\r' ∉ line) :
    withoutEnd (line ++ ['\n']) = line := by
  unfold withoutEnd
  rw [List.reverse_append, List.reverse_singleton, List.singleton_append]
  split
  · rename_i rest same
    have member : '\r' ∈ line.reverse := by simp [(List.cons.inj same).2]
    exact absurd (List.mem_reverse.mp member) plain
  · rename_i rest _ same
    rw [← (List.cons.inj same).2, List.reverse_reverse]
  · rename_i other
    exact absurd rfl (other line.reverse)

theorem withoutEnd_carriageReturn (line : List Char) :
    withoutEnd (line ++ ['\r', '\n']) = line := by
  unfold withoutEnd
  rw [List.reverse_append]
  exact List.reverse_reverse line

/-- Lines that are ended one by one are the lines of the text that they make. -/
theorem lines_flatMap {lineEnd : List Char} (ended : lineEnd = ['\n'] ∨ lineEnd = ['\r', '\n'])
    {texts : List (List Char)} (plain : ∀ line ∈ texts, '\n' ∉ line ∧ '\r' ∉ line) :
    lines (texts.flatMap (· ++ lineEnd)) = texts := by
  induction texts with
  | nil => rfl
  | cons line rest ih =>
    obtain ⟨noFeed, noReturn⟩ := plain line (by simp)
    have later := ih fun other member => plain other (List.mem_cons_of_mem _ member)
    have goesOn : ∀ item ∈ line, (item == '\n') = false := by
      intro item member
      exact beq_false_of_ne fun same => noFeed (same ▸ member)
    unfold lines at later ⊢
    rw [List.flatMap_cons]
    rcases ended with rfl | rfl
    · rw [List.append_assoc, List.singleton_append, cutAfter_append _ _ goesOn rfl, List.map_cons,
        later, withoutEnd_lineFeed noReturn]
    · have goesOnToo : ∀ item ∈ line ++ ['\r'], (item == '\n') = false := by
        intro item member
        rcases List.mem_append.mp member with inside | last
        · exact goesOn item inside
        · rw [List.mem_singleton.mp last]
          rfl
      have split : line ++ ['\r', '\n'] ++ rest.flatMap (· ++ ['\r', '\n']) =
          (line ++ ['\r']) ++ '\n' :: rest.flatMap (· ++ ['\r', '\n']) := by simp
      rw [split, cutAfter_append _ _ goesOnToo rfl, List.map_cons, later, List.append_assoc,
        List.singleton_append, withoutEnd_carriageReturn]

end BotKeeper.Text
