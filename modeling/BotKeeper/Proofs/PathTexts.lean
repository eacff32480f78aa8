import BotKeeper.FilePath
import Mathlib.Data.List.Infix
import Mathlib.Data.List.TakeWhile

/-! Paths as texts. The pieces of a path are what stands between its slashes, and they make up the
path again. The path of the directory that holds the last step of a path is a part of that path, up
to a slash behind which there is another step, and so are the paths of all directories farther out. -/

namespace BotKeeper.Proofs
open FilePath

structure GoesOn (outer path : String) : Prop where
  parted : ∃ inner, path = outer ++ "/" ++ inner ∧ ∃ piece ∈ pieces inner, piece ≠ "" ∧ piece ≠ "."
  ended : ∃ front last, pieces outer = front ++ [last] ∧ last ≠ ""

/-- A file of this path is a shell script: the path ends in a dot and `sh`, and the name of the
file has something before them. -/
def NamesShellScript (path : String) : Prop :=
  ∃ front c, c ≠ '/' ∧ path.toList = front ++ c :: ".sh".toList

variable {path outer inner : String}

section pieces

private theorem splitAt_eq_splitOn (mark : α) [DecidableEq α] (items : List α) :
    Text.splitAt mark items = items.splitOn mark := by
  induction items with
  | nil => rfl
  | cons first rest ih =>
    rw [List.splitOn_cons_eq_if_modifyHead, ← ih, Text.splitAt]
    by_cases same : first = mark
    · simp [same]
    · simp only [same, if_false, beq_iff_eq]
      cases parted : Text.splitAt mark rest with
      | nil =>
        have none := Text.length_splitAt mark rest
        rw [parted] at none
        cases none
      | cons piece pieces => rfl

theorem pieces_eq (path : String) : pieces path = (path.toList.splitOn '/').map String.ofList := by
  rw [pieces, splitAt_eq_splitOn]

theorem slash_not_mem {piece : String} (member : piece ∈ pieces path) : '/' ∉ piece.toList := by
  obtain ⟨letters, inside, rfl⟩ := List.mem_map.mp member
  rw [String.toList_ofList]
  exact Text.mark_not_mem inside

theorem pieces_joined (outer inner : String) :
    pieces (outer ++ "/" ++ inner) = pieces outer ++ pieces inner := by
  have parted := List.splitOn_append_cons_self (a := '/') outer.toList inner.toList
  rw [pieces_eq, pieces_eq, pieces_eq, ← List.map_append, ← parted]
  simp

private theorem intercalate_pieces (path : String) : "/".intercalate (pieces path) = path := by
  rw [← String.toList_inj, String.toList_intercalate, pieces_eq, List.map_map]
  simp

theorem pieces_intercalate {parts : List String} (present : parts ≠ [])
    (clean : ∀ part ∈ parts, '/' ∉ part.toList) : pieces ("/".intercalate parts) = parts := by
  have parted : ("/".intercalate parts).toList.splitOn '/' = parts.map String.toList := by
    rw [String.toList_intercalate]
    exact List.splitOn_intercalate '/' (by simpa using clean) (by simpa using present)
  rw [pieces_eq, parted, List.map_map]
  simp

theorem pieces_inj {left right : String} : pieces left = pieces right ↔ left = right := by
  refine ⟨fun same => ?_, fun same => same ▸ rfl⟩
  rw [← intercalate_pieces left, same, intercalate_pieces]

private theorem pieces_ne_nil (path : String) : pieces path ≠ [] := by
  simp [pieces_eq]

end pieces

section directories

theorem GoesOn.trans {first second third : String} (near : GoesOn first second)
    (far : GoesOn second third) : GoesOn first third := by
  obtain ⟨⟨inner, rfl, piece, member, step⟩, ended⟩ := near
  obtain ⟨⟨rest, rfl, -⟩, -⟩ := far
  refine ⟨⟨inner ++ "/" ++ rest, by simp only [String.append_assoc], piece, ?_, step⟩, ended⟩
  rw [pieces_joined]
  exact List.mem_append_left _ member

/-- What stands before the first item that is kept is dropped. -/
theorem dropWhile_eq_cons {drop : α → Bool} {items rest : List α} {first : α}
    (left : items.dropWhile drop = first :: rest) :
    ∃ gone, items = gone ++ first :: rest ∧ (∀ item ∈ gone, drop item = true) ∧
      drop first = false := by
  refine ⟨items.takeWhile drop, ?_, fun item member => ?_, ?_⟩
  · rw [← left, List.takeWhile_append_dropWhile]
  · exact List.mem_takeWhile_imp member
  · have kept := List.head?_dropWhile_not drop items
    rwa [left] at kept

/-- Only the first piece of a path has the number zero. -/
theorem behind_numbered {items : List α} {front back : List (α × Nat)} {first later : α × Nat}
    (numbered : items.zipIdx = front ++ first :: back) (member : later ∈ back) : later.2 ≠ 0 := by
  obtain ⟨between, rest, rfl⟩ := List.append_of_mem member
  have found : items.zipIdx[(front ++ first :: between).length]? = some later := by
    rw [numbered, ← List.cons_append, ← List.append_assoc, List.getElem?_append_right (by simp)]
    simp
  rw [List.getElem?_zipIdx, Option.map_eq_some_iff] at found
  obtain ⟨_, -, rfl⟩ := found
  simp

private theorem parent?_parts (found : parent? path = some outer) :
    ∃ kept last inner, pieces path = (kept ++ [last]) ++ inner ∧
      outer = "/".intercalate (kept ++ [last]) ∧ last ≠ "" ∧
      ∃ piece ∈ inner, piece ≠ "" ∧ piece ≠ "." := by
  simp only [parent?] at found
  cases inside : (pieces path).zipIdx.reverse.dropWhile isIdle with
  | nil => simp [inside] at found
  | cons step rest =>
    cases outside : rest.dropWhile isIdle with
    | nil => simp [inside, outside] at found
    | cons last front =>
      obtain ⟨behind, numbered, -, active⟩ := dropWhile_eq_cons inside
      obtain ⟨between, rfl, -, ends⟩ := dropWhile_eq_cons outside
      have ordered : (pieces path).zipIdx =
          front.reverse ++ last :: (between.reverse ++ step :: behind.reverse) := by
        rw [← List.reverse_reverse (pieces path).zipIdx, numbered]
        simp
      have later : step.2 ≠ 0 := behind_numbered ordered (by simp)
      refine ⟨front.reverse.map (·.1), last.1,
        (between.reverse ++ step :: behind.reverse).map (·.1), ?_, ?_, ?_, step.1, by simp, ?_⟩
      · rw [← List.zipIdx_map_fst 0 (pieces path), ordered]
        simp
      · rw [inside, List.drop_one, List.tail_cons, outside] at found
        split at found
        · cases found
        · cases found
          simp
      · rintro blank
        simp [isIdle, blank] at ends
      · simpa [isIdle, later] using active

theorem goesOn_parent (found : parent? path = some outer) : GoesOn outer path := by
  obtain ⟨kept, last, inner, whole, rfl, named, piece, member, active⟩ := parent?_parts found
  have clean : ∀ piece ∈ pieces path, '/' ∉ piece.toList := fun _ => slash_not_mem
  rw [whole, List.forall_mem_append] at clean
  have outerPieces := pieces_intercalate (by simp) clean.1
  have innerPieces := pieces_intercalate (List.ne_nil_of_mem member) clean.2
  constructor
  · refine ⟨"/".intercalate inner, ?_, piece, by rwa [innerPieces], active⟩
    rw [← pieces_inj, pieces_joined, outerPieces, innerPieces, whole]
  · exact ⟨kept, last, outerPieces, named⟩

/-- The directories around the file of a path are named by parts of the path. -/
theorem mem_withParents {member : String} (inside : member ∈ withParents path) :
    member = path ∨ GoesOn member path := by
  rw [withParents] at inside
  generalize (pieces path).length = fuel at inside
  induction fuel generalizing path with
  | zero => cases inside
  | succ fuel ih =>
    rcases List.mem_cons.1 inside with same | inside
    · exact .inl same
    · split at inside
      · cases inside
      · rename_i outer found
        rcases ih inside with rfl | farther
        · exact .inr (goesOn_parent found)
        · exact .inr (farther.trans (goesOn_parent found))

theorem withParents_eq_cons (path : String) : ∃ outer, withParents path = path :: outer := by
  rw [withParents]
  obtain ⟨fuel, more⟩ := Nat.exists_eq_succ_of_ne_zero
    (mt List.eq_nil_of_length_eq_zero (pieces_ne_nil path))
  rw [more]
  exact ⟨_, rfl⟩

end directories

section extensions

private theorem extension?_eq_sh {name : String} :
    extension? name = some "sh" ↔ ∃ stem c, name.toList = stem ++ c :: ".sh".toList := by
  have shown : ∀ after : List Char, String.ofList after.reverse = "sh" ↔ after = "hs".toList := by
    intro after
    rw [← String.toList_inj, String.toList_ofList, List.reverse_eq_iff]
    rfl
  constructor
  · intro found
    simp only [extension?, List.span_eq_takeWhile_dropWhile] at found
    split at found
    · rename_i c stem dot
      rw [Option.some_inj, shown] at found
      refine ⟨stem.reverse, c, ?_⟩
      have parted := List.takeWhile_append_dropWhile (p := (· != '.')) (l := name.toList.reverse)
      rw [← List.reverse_inj, ← parted, found, dot]
      simp
    · cases found
  · rintro ⟨stem, c, written⟩
    simp [extension?, List.span_eq_takeWhile_dropWhile, written]

private theorem ends_in_last_piece {front : List String} {name : String}
    (parted : pieces path = front ++ [name]) : path = name ∨ ∃ outer, path = outer ++ "/" ++ name := by
  have clean : ∀ piece ∈ front ++ [name], '/' ∉ piece.toList := fun _ member =>
    slash_not_mem (parted ▸ member)
  have alone : pieces name = [name] := by
    have framed : pieces ("/".intercalate [name]) = [name] :=
      pieces_intercalate (by simp) (by simp [clean])
    simpa using framed
  rcases List.eq_nil_or_concat front with rfl | ⟨outer, last, rfl⟩
  · exact .inl (pieces_inj.mp (parted.trans alone.symm))
  · right
    refine ⟨"/".intercalate (outer ++ [last]), pieces_inj.mp ?_⟩
    rw [pieces_joined, alone, parted, List.concat_eq_append, pieces_intercalate (by simp)]
    exact fun piece member => clean piece (List.mem_append_left [name] (by simpa using member))

/-- Whether a file is a shell script shows in its name, which is the last piece of its path. -/
theorem namesShellScript_iff {front : List String} {name : String}
    (parted : pieces path = front ++ [name]) :
    NamesShellScript path ↔ extension? name = some "sh" := by
  rw [extension?_eq_sh]
  constructor
  · rintro ⟨before, c, named, written⟩
    have unsplit : '/' ∉ c :: ".sh".toList := by simpa using named.symm
    have ending : c :: ".sh".toList <:+ path.toList := ⟨before, written.symm⟩
    suffices inside : c :: ".sh".toList <:+ name.toList from
      inside.elim fun stem same => ⟨stem, c, same.symm⟩
    rcases ends_in_last_piece parted with rfl | ⟨outer, rfl⟩
    · exact ending
    · have behind : '/' :: name.toList <:+ (outer ++ "/" ++ name).toList := ⟨outer.toList, by simp⟩
      rcases List.suffix_or_suffix_of_suffix ending behind with short | long
      · rcases List.suffix_cons_iff.mp short with same | inside
        · exact absurd (same ▸ List.mem_cons_self) unsplit
        · exact inside
      · exact absurd (long.subset List.mem_cons_self) unsplit
  · rintro ⟨stem, c, written⟩
    have inside : name ∈ pieces path := by simp [parted]
    have other : c ≠ '/' := by
      rintro rfl
      exact slash_not_mem inside (by simp [written])
    rcases ends_in_last_piece parted with rfl | ⟨outer, rfl⟩
    · exact ⟨stem, c, other, written⟩
    · exact ⟨outer.toList ++ '/' :: stem, c, other, by simp [written]⟩

end extensions

end BotKeeper.Proofs
