import BotKeeper.Bot
import BotKeeper.Classification

/-! What the removal of escape sequences leaves. It goes through a text once, and the characters
of a sequence are gone then; but an escape character that begins no sequence stays, and what
comes next to it afterwards may make it begin one. Main statement: that is the only way in which
a sequence can be left, and where it does not happen, a reader that removes the sequences twice
sees the same events as one that removes them once. -/

namespace BotKeeper.Proofs
open Text Ansi

/-- A whole escape sequence: the escape character with one other character, or with a left bracket,
parameters, intermediates and a final character. -/
inductive IsSequence : List Char → Prop where
  | short {c : Char} (range : '@' ≤ c ∧ c ≤ 'Z' ∨ '\\' ≤ c ∧ c ≤ '_') : IsSequence ['\x1b', c]
  | long {parameters intermediates : List Char} {final : Char}
      (parameter : ∀ c ∈ parameters, '0' ≤ c ∧ c ≤ '?')
      (intermediate : ∀ c ∈ intermediates, ' ' ≤ c ∧ c ≤ '/') (last : '@' ≤ final ∧ final ≤ '~') :
      IsSequence ('\x1b' :: '[' :: (parameters ++ intermediates ++ [final]))

def SequenceFree (text : List Char) : Prop :=
  ∀ rest, rest <:+ text → afterSequence? rest = none

/-- An escape character that begins no sequence does not begin one either when those that follow
it have been removed. -/
def KeepsApart (text : List Char) : Prop :=
  ∀ rest, escape :: rest <:+ text → afterSequence? (escape :: rest) = none →
    afterSequence? (escape :: strip rest) = none

def isOuter (c : Char) : Bool :=
  !(' ' ≤ c && c ≤ '~')

variable {c : Char} {text before rest : List Char}

section grammar

private theorem isShort_iff : isShort c = true ↔ '@' ≤ c ∧ c ≤ 'Z' ∨ '\\' ≤ c ∧ c ≤ '_' := by
  simp [isShort]

private theorem isParameter_iff : isParameter c = true ↔ '0' ≤ c ∧ c ≤ '?' := by
  simp [isParameter]

theorem isIntermediate_iff : isIntermediate c = true ↔ ' ' ≤ c ∧ c ≤ '/' := by
  simp [isIntermediate]

theorem isFinal_iff : isFinal c = true ↔ '@' ≤ c ∧ c ≤ '~' := by
  simp [isFinal]

/-- No character belongs to two of the three classes after the bracket. -/
theorem classes_apart : (isIntermediate c = true → isParameter c = false) ∧
    (isFinal c = true → isParameter c = false ∧ isIntermediate c = false) := by
  have apart {low high : Char} (less : ¬low ≤ high) (below : c ≤ high) : ¬low ≤ c :=
    fun above => less (Char.le_trans above below)
  constructor
  · intro intermediate
    obtain ⟨_, below⟩ := isIntermediate_iff.mp intermediate
    simp [isParameter, apart (by decide : ¬ '0' ≤ '/') below]
  · intro final
    obtain ⟨above, _⟩ := isFinal_iff.mp final
    have noParameter : ¬c ≤ '?' := fun below => apart (by decide) below above
    have noIntermediate : ¬c ≤ '/' := fun below => apart (by decide) below above
    simp [isParameter, isIntermediate, noParameter, noIntermediate]

private theorem afterBracket?_eq_some : afterBracket? text = some rest ↔
    ∃ parameters intermediates final, (∀ c ∈ parameters, isParameter c = true) ∧
      (∀ c ∈ intermediates, isIntermediate c = true) ∧ isFinal final = true ∧
      text = parameters ++ intermediates ++ [final] ++ rest := by
  constructor
  · intro found
    unfold afterBracket? at found
    split at found
    · rename_i final after left
      split at found
      · rename_i isLast
        cases found
        refine ⟨text.takeWhile isParameter, (text.dropWhile isParameter).takeWhile isIntermediate,
          final, List.all_eq_true.mp List.all_takeWhile, List.all_eq_true.mp List.all_takeWhile,
          isLast, ?_⟩
        rw [List.append_assoc, List.singleton_append, ← left, List.append_assoc,
          List.takeWhile_append_dropWhile, List.takeWhile_append_dropWhile]
      · cases found
    · cases found
  · rintro ⟨parameters, intermediates, final, parameter, intermediate, isLast, rfl⟩
    obtain ⟨noParameter, noIntermediate⟩ := classes_apart.2 isLast
    have middle : (intermediates ++ final :: rest).dropWhile isParameter =
        intermediates ++ final :: rest := by
      cases intermediates with
      | nil => exact List.dropWhile_cons_of_neg (by simp [noParameter])
      | cons first more =>
        have other := classes_apart.1 (intermediate first List.mem_cons_self)
        exact List.dropWhile_cons_of_neg (by simp [other])
    have left : ((parameters ++ intermediates ++ [final] ++ rest).dropWhile isParameter).dropWhile
        isIntermediate = final :: rest := by
      rw [List.append_assoc, List.append_assoc, List.singleton_append,
        List.dropWhile_append_of_pos parameter, middle, List.dropWhile_append_of_pos intermediate,
        List.dropWhile_cons_of_neg (by simp [noIntermediate])]
    simp only [afterBracket?, left, isLast, if_true]

/-- A sequence is taken up to its own end, whatever follows it. -/
theorem afterSequence?_eq_some : afterSequence? text = some rest ↔
    ∃ sequence, IsSequence sequence ∧ text = sequence ++ rest := by
  constructor
  · intro found
    unfold afterSequence? at found
    split at found
    · rename_i first second inner
      split at found
      · rename_i isEscape
        subst first
        split at found
        · rename_i bracket
          subst second
          obtain ⟨parameters, intermediates, final, parameter, intermediate, isLast, rfl⟩ :=
            afterBracket?_eq_some.mp found
          refine ⟨_, .long (fun c member => isParameter_iff.mp (parameter c member))
            (fun c member => isIntermediate_iff.mp (intermediate c member))
            (isFinal_iff.mp isLast), rfl⟩
        · split at found
          · rename_i isShort
            cases found
            exact ⟨_, .short (isShort_iff.mp isShort), rfl⟩
          · cases found
      · cases found
    · cases found
  · rintro ⟨_, whole, rfl⟩
    cases whole with
    | @short c range =>
      have notBracket : c ≠ '[' := by
        rintro rfl
        exact absurd range (by decide)
      simp [afterSequence?, escape, notBracket, isShort_iff.mpr range]
    | long parameter intermediate last =>
      have found := afterBracket?_eq_some.mpr ⟨_, _, _,
        fun c member => isParameter_iff.mpr (parameter c member),
        fun c member => isIntermediate_iff.mpr (intermediate c member), isFinal_iff.mpr last,
        (rfl : _ ++ rest = _)⟩
      simpa only [List.cons_append, afterSequence?, escape, if_true] using found

private theorem afterSequence?_suffix (found : afterSequence? text = some rest) : rest <:+ text := by
  obtain ⟨sequence, _, rfl⟩ := afterSequence?_eq_some.mp found
  exact List.suffix_append sequence rest

end grammar

section sequences

theorem outer_outside (outer : isOuter c = true) {low high : Char} (above : ' ' ≤ low)
    (below : high ≤ '~') : (decide (low ≤ c) && decide (c ≤ high)) = false := by
  apply Bool.eq_false_iff.mpr
  intro inside
  obtain ⟨least, most⟩ : low ≤ c ∧ c ≤ high := by simpa using inside
  simp [isOuter, Char.le_trans above least, Char.le_trans most below] at outer

/-- The characters of a sequence after the first are printable ones of ASCII. -/
theorem outer_classes (outer : isOuter c = true) : isParameter c = false ∧
    isIntermediate c = false ∧ isFinal c = false ∧ isShort c = false ∧ c ≠ '[' := by
  refine ⟨outer_outside outer (by decide) (by decide), outer_outside outer (by decide) (by decide),
    outer_outside outer (by decide) (by decide), Bool.or_eq_false_iff.mpr
      ⟨outer_outside outer (by decide) (by decide), outer_outside outer (by decide) (by decide)⟩, ?_⟩
  rintro rfl
  exact absurd outer (by decide)

theorem afterSequence?_plain (plain : c ≠ escape) (rest : List Char) :
    afterSequence? (c :: rest) = none := by
  cases rest with
  | nil => rfl
  | cons next rest => simp only [afterSequence?, if_neg plain]

/-- A sequence ends before a character that stands in none. -/
theorem afterBracket?_append (outer : isOuter c = true) (text rest : List Char) :
    afterBracket? (text ++ c :: rest) = (afterBracket? text).map (· ++ c :: rest) := by
  obtain ⟨parameter, intermediate, final, _⟩ := outer_classes outer
  have stops {drop : Char → Bool} (kept : drop c = false) (text : List Char) :
      (text ++ c :: rest).dropWhile drop = text.dropWhile drop ++ c :: rest := by
    rw [List.dropWhile_append]
    split
    · rename_i none
      rw [List.isEmpty_iff.mp none, List.dropWhile_cons_of_neg (by simp [kept]), List.nil_append]
    · rfl
  unfold afterBracket?
  rw [stops parameter, stops intermediate]
  cases (text.dropWhile isParameter).dropWhile isIntermediate with
  | nil => simp [final]
  | cons last after =>
    simp only [List.cons_append]
    split <;> rfl

private theorem afterSequence?_append (outer : isOuter c = true) (present : text ≠ [])
    (rest : List Char) :
    afterSequence? (text ++ c :: rest) = (afterSequence? text).map (· ++ c :: rest) := by
  obtain ⟨_, _, _, notShort, notBracket⟩ := outer_classes outer
  match text, present with
  | [first], _ => simp [afterSequence?, notShort, notBracket]
  | first :: second :: inner, _ =>
    simp only [List.cons_append, afterSequence?]
    split
    · split
      · exact afterBracket?_append outer inner rest
      · split <;> rfl
    · rfl

end sequences

section removal

theorem strip_sequence (found : afterSequence? text = some rest) : strip text = strip rest := by
  cases text with
  | nil => cases found
  | cons first inner =>
    rw [strip]
    split
    · rename_i after here
      rw [here] at found
      cases found
      rfl
    · rename_i here
      rw [here] at found
      cases found

theorem strip_kept (none : afterSequence? (c :: rest) = none) : strip (c :: rest) = c :: strip rest := by
  rw [strip]
  split
  · rename_i here
    rw [here] at none
    cases none
  · rfl

/-- The two sides of a character that stands in no sequence have nothing to do with each other. -/
theorem strip_append (outer : isOuter c = true) (text rest : List Char) :
    strip (text ++ c :: rest) = strip text ++ strip (c :: rest) := by
  induction text using strip.induct with
  | case1 => simp [strip]
  | case2 first inner after found ih =>
    have longer := afterSequence?_append outer (List.cons_ne_nil first inner) rest
    rw [found, Option.map_some] at longer
    rw [strip_sequence longer, strip_sequence found, ih]
  | case3 first inner none ih =>
    have longer := afterSequence?_append outer (List.cons_ne_nil first inner) rest
    rw [none, Option.map_none, List.cons_append] at longer
    rw [List.cons_append, strip_kept longer, strip_kept none, ih, List.cons_append]

theorem strip_lineEnds (text : List Char) {ends : List Char} (ended : ∀ c ∈ ends, isLineEnd c = true) :
    strip (text ++ ends) = strip text ++ ends := by
  induction ends generalizing text with
  | nil => rw [List.append_nil, List.append_nil]
  | cons c ends ih =>
    have later := fun text => ih text fun other member => ended other (List.mem_cons_of_mem _ member)
    have same : c = '\r' ∨ c = '\n' := by simpa [isLineEnd] using ended c List.mem_cons_self
    have outer : isOuter c = true := by rcases same with rfl | rfl <;> decide
    have plain : c ≠ escape := by rcases same with rfl | rfl <;> decide
    rw [strip_append outer, strip_kept (afterSequence?_plain plain ends)]
    have kept : strip ends = ends := by simpa [strip] using later []
    rw [kept]

end removal

section left

private theorem sequenceFree_cons :
    SequenceFree (c :: rest) ↔ afterSequence? (c :: rest) = none ∧ SequenceFree rest := by
  simp [SequenceFree, List.suffix_cons_iff]

private theorem strip_length (text : List Char) : (strip text).length ≤ text.length := by
  induction text using strip.induct with
  | case1 => simp [strip]
  | case2 first inner after found ih =>
    rw [strip_sequence found]
    exact Nat.le_trans ih (Nat.le_of_lt (afterSequence?_shorter found))
  | case3 first inner none ih =>
    rw [strip_kept none]
    simpa using ih

/-- A text stays as it is exactly if there is nothing to remove. -/
theorem strip_eq_self_iff : strip text = text ↔ SequenceFree text := by
  induction text with
  | nil => simp [strip, SequenceFree, afterSequence?]
  | cons c rest ih =>
    rw [sequenceFree_cons]
    cases found : afterSequence? (c :: rest) with
    | none => simp [strip_kept found, ih]
    | some after =>
      have shorter := Nat.lt_of_le_of_lt (strip_length after) (afterSequence?_shorter found)
      simp only [strip_sequence found, reduceCtorEq, false_and, iff_false]
      intro same
      rw [same] at shorter
      exact Nat.lt_irrefl _ shorter

/-- An escape character is left exactly where it has begun no sequence. -/
theorem strip_suffix_iff : escape :: rest <:+ strip text ↔
    ∃ after, escape :: after <:+ text ∧ afterSequence? (escape :: after) = none ∧
      rest = strip after := by
  constructor
  · intro left
    induction text using strip.induct with
    | case1 => simp [strip] at left
    | case2 first inner later found ih =>
      rw [strip_sequence found] at left
      obtain ⟨after, inside, stray, same⟩ := ih left
      exact ⟨after, inside.trans (afterSequence?_suffix found), stray, same⟩
    | case3 first inner none ih =>
      rw [strip_kept none] at left
      rcases List.suffix_cons_iff.mp left with here | left
      · obtain ⟨rfl, rfl⟩ := List.cons.inj here
        exact ⟨inner, List.suffix_refl _, none, rfl⟩
      · obtain ⟨after, inside, stray, same⟩ := ih left
        exact ⟨after, inside.trans (List.suffix_cons first inner), stray, same⟩
  · rintro ⟨after, ⟨before, rfl⟩, stray, rfl⟩
    rw [strip_append (by decide), strip_kept stray]
    exact List.suffix_append _ _

/-- Sequences are left only at escape characters that what is removed has kept from beginning one. -/
theorem sequenceFree_strip_iff : SequenceFree (strip text) ↔ KeepsApart text := by
  constructor
  · intro free rest inside stray
    exact free _ (strip_suffix_iff.mpr ⟨rest, inside, stray, rfl⟩)
  · intro apart rest left
    match rest with
    | [] => rfl
    | c :: rest =>
      by_cases head : c = escape
      · subst head
        obtain ⟨after, inside, stray, rfl⟩ := strip_suffix_iff.mp left
        exact apart after inside stray
      · exact afterSequence?_plain head rest

theorem strip_strip_iff : strip (strip text) = strip text ↔ KeepsApart text :=
  strip_eq_self_iff.trans sequenceFree_strip_iff

instance (text : List Char) : Decidable (KeepsApart text) :=
  decidable_of_iff _ strip_strip_iff

end left

section reading

theorem trimLineEnd_split (text : List Char) : ∃ ends, text = trimLineEnd text ++ ends ∧
    ∀ c ∈ ends, isLineEnd c = true := by
  refine ⟨(text.reverse.takeWhile isLineEnd).reverse, ?_, fun c member => ?_⟩
  · rw [trimLineEnd, trimEndWhile, ← List.reverse_append, List.takeWhile_append_dropWhile,
      List.reverse_reverse]
  · exact List.all_eq_true.mp List.all_takeWhile c (List.mem_reverse.mp member)

theorem trimLineEnd_append (text : List Char) {ends : List Char}
    (ended : ∀ c ∈ ends, isLineEnd c = true) : trimLineEnd (text ++ ends) = trimLineEnd text := by
  rw [trimLineEnd, trimLineEnd, trimEndWhile, trimEndWhile, List.reverse_append,
    List.dropWhile_append_of_pos fun c member => ended c (List.mem_reverse.mp member)]

/-- Without its end, a line has the same sequences, and what is left of it shows the same. -/
theorem strip_line (line : List Char) : ∃ ends, (∀ c ∈ ends, isLineEnd c = true) ∧
    strip line = strip (trimLineEnd line) ++ ends := by
  obtain ⟨ends, parted, ended⟩ := trimLineEnd_split line
  refine ⟨ends, ended, ?_⟩
  rw [← strip_lineEnds _ ended, ← parted]

private theorem classify_stripped (line : List Char) (apart : KeepsApart line) :
    classify (.ofList (strip (trimLineEnd line))) = classify (.ofList line) := by
  obtain ⟨ends, ended, left⟩ := strip_line line
  have settled : strip (strip (trimLineEnd line)) = strip (trimLineEnd line) := by
    have whole := strip_strip_iff.mpr apart
    rw [left, strip_lineEnds _ ended] at whole
    exact List.append_cancel_right whole
  simp only [classify, Classification.visible, String.toList_ofList, settled, left,
    trimLineEnd_append _ ended]

end reading

/-- After the removal no sequence is left exactly if each stray escape character is kept apart
from what would make it begin one, and exactly then a second removal changes nothing. In that case
a text means the same before the removal and after it, and so does a line that is read. -/
theorem removal_is_final_iff (line : String) :
    (SequenceFree (stripAnsi line).toList ↔ KeepsApart line.toList) ∧
      (stripAnsi (stripAnsi line) = stripAnsi line ↔ KeepsApart line.toList) ∧
      (KeepsApart line.toList → classify (stripAnsi line) = classify line ∧
        ∀ bytes, Utf8.decodeLossy bytes = line.toList →
          classify (Bot.lineText bytes) = classify line) := by
  have once : (stripAnsi line).toList = strip line.toList := String.toList_ofList
  refine ⟨?_, ?_, fun apart => ⟨?_, fun bytes decoded => ?_⟩⟩
  · rw [once, sequenceFree_strip_iff]
  · rw [← strip_strip_iff, ← once, ← String.toList_inj, stripAnsi, String.toList_ofList]
  · rw [classify, classify, Classification.visible, Classification.visible, once, strip_strip_iff.mpr apart]
  · rw [Bot.lineText, decoded, classify_stripped _ apart, String.ofList_toList]

/-- The escape character in the middle is left, and is kept apart from the second sequence. -/
theorem removal_is_final_around_stray :
    KeepsApart "\x1b[31mQR:\x1b|\x1b[0m\r\n".toList ∧
      classify (Bot.lineText "\x1b[31mQR:\x1b|\x1b[0m\r\n".toUTF8.toList) =
        classify "\x1b[31mQR:\x1b|\x1b[0m\r\n" := by
  have apart : KeepsApart "\x1b[31mQR:\x1b|\x1b[0m\r\n".toList := by decide +kernel
  exact ⟨apart, ((removal_is_final_iff _).2.2 apart).2 _ (by decide +kernel)⟩

/-- A sequence between an escape character and the rest of a sequence goes, and leaves a new one.
So the line means nothing before the removal, and after it a login code. -/
theorem removal_leaves_sequence :
    stripAnsi "Q\x1b\x1b[m[mR:abc" = "Q\x1b[mR:abc" ∧
      ¬SequenceFree (stripAnsi "Q\x1b\x1b[m[mR:abc").toList ∧
      stripAnsi (stripAnsi "Q\x1b\x1b[m[mR:abc") = "QR:abc" ∧
      classify "Q\x1b\x1b[m[mR:abc" = none ∧
      classify (Bot.lineText "Q\x1b\x1b[m[mR:abc".toUTF8.toList) = some (.qrChallenge "abc") := by
  have once : stripAnsi "Q\x1b\x1b[m[mR:abc" = "Q\x1b[mR:abc" := by decide +kernel
  have twice : stripAnsi "Q\x1b[mR:abc" = "QR:abc" := by decide +kernel
  rw [once]
  refine ⟨rfl, fun free => ?_, twice, by decide +kernel, by decide +kernel⟩
  exact absurd (free "\x1b[mR:abc".toList ⟨['Q'], by decide⟩) (by decide)

end BotKeeper.Proofs
