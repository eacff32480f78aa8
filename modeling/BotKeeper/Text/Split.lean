/-! Lists cut at each element of one value. The mark itself belongs to no piece. -/

namespace BotKeeper.Text

/-- The pieces of a list between the elements equal to `mark`; always one more
than there are of those. -/
def splitAt [DecidableEq α] (mark : α) : List α → List (List α)
  | [] => [[]]
  | first :: rest =>
    if first = mark then [] :: splitAt mark rest
    else
      match splitAt mark rest with
      | [] => [[first]]
      | piece :: pieces => (first :: piece) :: pieces

theorem length_splitAt [DecidableEq α] (mark : α) (items : List α) :
    (splitAt mark items).length = items.count mark + 1 := by
  induction items with
  | nil => rfl
  | cons first rest ih =>
    by_cases same : first = mark
    · simp [splitAt, same, ih]
    · unfold splitAt
      rw [if_neg same, List.count_cons_of_ne same, ← ih]
      split
      · rename_i none
        simp [none] at ih
      · rename_i some
        simp [some]

theorem mark_not_mem [DecidableEq α] {mark : α} {items piece : List α}
    (member : piece ∈ splitAt mark items) : mark ∉ piece := by
  induction items generalizing piece with
  | nil => simp_all [splitAt]
  | cons first rest ih =>
    unfold splitAt at member
    split at member
    · rcases List.mem_cons.mp member with rfl | later
      · exact List.not_mem_nil
      · exact ih later
    · rename_i other
      split at member
      · rw [List.mem_singleton.mp member]
        simpa using Ne.symm other
      · rename_i head tail parted
        rcases List.mem_cons.mp member with rfl | later
        · have clean := ih (parted ▸ List.mem_cons_self)
          simpa using ⟨Ne.symm other, clean⟩
        · exact ih (parted ▸ List.mem_cons_of_mem _ later)

end BotKeeper.Text
