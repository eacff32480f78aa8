import BotKeeper.Proofs.Recognition
import Mathlib.Data.List.DropRight

/-! What is passed on as a login code. A code that stands in the line as a word has no white space
at all, and the place of a picture none around it. But behind the marker for a picture the whole
rest of the line may be white space, and then one character of that is passed on. Main statement:
this is the only way in which a login code is no text that can be used. -/

namespace BotKeeper.Proofs
open Text Marker

/-- There is a text, and no white space around it. -/
structure Tidy (text : List Char) : Prop where
  nonempty : text ≠ []
  begins : ∀ c ∈ text.head?, isBlank c = false
  ends : ∀ c ∈ text.getLast?, isBlank c = false

/-- A login code stands in the line as a word: itself, or as a link. -/
inductive SpellsCode : List Char → Prop where
  | itself {before after : List Char}
      (opened : ∀ c ∈ before.getLast?, isBlank c = true ∨ c = ']') (code : Visible after) :
      SpellsCode (before ++ "QR:".toList ++ after)
  | link {before after : List Char} {colon : Char} (pointed : colon = ':' ∨ colon = '：')
      (code : Visible after) : SpellsCode (before ++ "二维码解码URL".toList ++ colon :: after)

/-- A picture is announced and its place left out: behind the marker is nothing but white space,
and wherever the marker stands before, a line feed keeps what follows it from being a place. -/
def PlaceLeftOut (line : List Char) : Prop :=
  ∃ before after, line = before ++ "二维码已保存到".toList ++ after ∧ allBlank after = true ∧
    (∃ c ∈ after, c ≠ '\n') ∧
    ∀ earlier rest, line = earlier ++ "二维码已保存到".toList ++ rest →
      earlier.length < before.length → '\n' ∈ trim rest

variable {line text rest place code : List Char}

/-- A search answers at the first place at which there is an answer. -/
theorem firstAnswer?_eq_some {recognise : List Char → Option α} {answer : α}
    (found : firstAnswer? recognise line = some answer) :
    ∃ before after, line = before ++ after ∧ recognise after = some answer ∧
      ∀ earlier rest, line = earlier ++ rest → earlier.length < before.length →
        recognise rest = none := by
  induction line with
  | nil => exact ⟨[], [], rfl, found, fun _ _ _ less => absurd less (Nat.not_lt_zero _)⟩
  | cons c rest ih =>
    simp only [firstAnswer?] at found
    cases here : recognise (c :: rest) with
    | some other =>
      rw [here] at found
      exact ⟨[], c :: rest, rfl, here.trans found, fun _ _ _ less => absurd less (Nat.not_lt_zero _)⟩
    | none =>
      rw [here] at found
      obtain ⟨before, after, rfl, answers, first⟩ := ih found
      refine ⟨c :: before, after, rfl, answers, fun earlier rest split less => ?_⟩
      cases earlier with
      | nil =>
        obtain rfl : c :: (before ++ after) = rest := split
        exact here
      | cons head earlier =>
        exact first earlier rest (List.cons.inj split).2 (Nat.lt_of_succ_lt_succ less)

section words

private theorem firstWord?_tidy (found : firstWord? text = some code) : Tidy code := by
  simp only [firstWord?] at found
  split at found
  · cases found
  · rename_i nonempty
    cases found
    have visible : ∀ c ∈ (dropBlanks text).takeWhile (fun c => !isBlank c), isBlank c = false := by
      intro c member
      simpa using List.all_eq_true.mp List.all_takeWhile c member
    exact ⟨nonempty, fun c head => visible c (List.mem_of_head? head),
      fun c last => visible c (List.mem_of_getLast? last)⟩

private theorem shortCode?_tidy (found : shortCode? line = some code) : Tidy code := by
  have marked {text : List Char} (taken : (after? "QR:" text).bind firstWord? = some code) :
      Tidy code := by
    obtain ⟨_, _, word⟩ := Option.bind_eq_some_iff.mp taken
    exact firstWord?_tidy word
  simp only [shortCode?] at found
  split at found
  · rename_i here
    cases found
    exact marked here
  · obtain ⟨_, after, _, taken, _⟩ := firstAnswer?_eq_some found
    cases after with
    | nil => cases taken
    | cons c after =>
      simp only [codeAfterOpening?] at taken
      split at taken
      · exact marked taken
      · cases taken

private theorem link_tidy (found : firstAnswer? linkAt? line = some code) : Tidy code := by
  obtain ⟨_, after, _, taken, _⟩ := firstAnswer?_eq_some found
  simp only [linkAt?] at taken
  split at taken
  · split at taken
    · exact firstWord?_tidy taken
    · cases taken
  · cases taken

theorem spellsCode_iff : SpellsCode line ↔
    (shortCode? line).isSome = true ∨ (firstAnswer? linkAt? line).isSome = true := by
  simp only [shortCode?_isSome, firstAnswer?_isSome, linkAt?_isSome]
  constructor
  · intro spells
    cases spells with
    | @itself before after opened visible => exact .inl ⟨before, after, rfl, opened, visible⟩
    | @link before after colon pointed visible =>
      exact .inr ⟨before, _, by rw [List.append_assoc], colon, after, rfl, pointed, visible⟩
  · rintro (⟨before, after, rfl, opened, visible⟩ |
      ⟨before, _, rfl, colon, after, rfl, pointed, visible⟩)
    · exact .itself opened visible
    · rw [← List.append_assoc]
      exact .link pointed visible

end words

section places

theorem trim_eq_nil_iff : trim text = [] ↔ allBlank text = true := by
  have ends : trim text = [] ↔ ∀ c ∈ dropBlanks text, isBlank c = true :=
    List.rdropWhile_eq_nil_iff
  obtain ⟨gap, blank, parted⟩ := exists_gap text
  rw [ends, allBlank, List.all_eq_true]
  constructor
  · intro left c member
    rw [parted] at member
    rcases List.mem_append.mp member with inside | inside
    · exact List.all_eq_true.mp blank c inside
    · exact left c inside
  · intro all c member
    exact all c (List.dropWhile_subset isBlank member)

theorem trim_tidy (present : trim text ≠ []) : Tidy (trim text) := by
  refine ⟨present, fun c head => ?_, fun c last => ?_⟩
  · -- What is cut off at the end leaves the head as it is.
    obtain ⟨tail, whole⟩ : trim text <+: dropBlanks text := List.rdropWhile_prefix isBlank _
    apply dropBlanks_begins text c
    rw [← whole, List.head?_append, head]
    rfl
  · have visible := List.rdropWhile_last_not isBlank (dropBlanks text) present
    rw [List.getLast?_eq_getLast_of_ne_nil present, Option.mem_some_iff] at last
    exact Bool.eq_false_iff.mpr (last ▸ visible)

theorem savedAs?_named (named : allBlank rest = false) :
    savedAs? rest = if '\n' ∈ trim rest then none else some (trim rest) := by
  have present : trim rest ≠ [] := fun empty => by simp [trim_eq_nil_iff.mp empty] at named
  unfold savedAs?
  split
  · rename_i empty
    exact absurd empty present
  · simp only [List.contains_eq_mem, decide_eq_true_eq]
    rfl

private theorem savedAs?_blank (blank : allBlank rest = true) :
    savedAs? rest = (rest.reverse.find? (· != '\n')).map ([·]) := by
  unfold savedAs?
  split
  · rfl
  · rename_i present
    exact absurd (trim_eq_nil_iff.mpr blank) present

/-- Of white space only one character is left, and that is white space too. -/
theorem savedAs?_of_blank (blank : allBlank rest = true) (found : savedAs? rest = some place) :
    ∃ c, place = [c] ∧ isBlank c = true ∧ c ≠ '\n' ∧ c ∈ rest := by
  rw [savedAs?_blank blank] at found
  obtain ⟨c, last, rfl⟩ := Option.map_eq_some_iff.mp found
  have member := List.mem_reverse.mp (List.mem_of_find?_eq_some last)
  exact ⟨c, rfl, List.all_eq_true.mp blank c member, by simpa using List.find?_some last, member⟩

private theorem savedAs?_tidy_iff (found : savedAs? rest = some place) :
    Tidy place ↔ allBlank rest = false := by
  cases blank : allBlank rest with
  | true =>
    obtain ⟨c, rfl, isBlank, _⟩ := savedAs?_of_blank blank found
    simp only [reduceCtorEq, iff_false]
    intro tidy
    exact Bool.noConfusion (isBlank.symm.trans (tidy.begins c rfl))
  | false =>
    rw [savedAs?_named blank] at found
    split at found
    · cases found
    · cases found
      simpa using trim_tidy fun empty => by simp [trim_eq_nil_iff.mp empty] at blank

/-- Where a marker stands before another one, something that can be shown follows it. -/
theorem named_of_later {earlier before after : List Char}
    (split : earlier ++ "二维码已保存到".toList ++ rest =
      before ++ "二维码已保存到".toList ++ after)
    (less : earlier.length < before.length) : allBlank rest = false := by
  have parted : before ++ "二维码已保存到".toList ++ after =
      (before ++ "二维码已保存".toList) ++ '到' :: after := by
    rw [List.append_assoc, List.append_assoc]
    rfl
  have shorter : (earlier ++ "二维码已保存到".toList).length ≤
      (before ++ "二维码已保存".toList).length := by
    simp
    omega
  obtain ⟨between, same⟩ := List.prefix_of_prefix_length_le
    ⟨rest, split⟩ ⟨'到' :: after, parted.symm⟩ shorter
  rw [parted, ← same, List.append_assoc (earlier ++ _)] at split
  rw [List.append_cancel_left split, allBlank, List.all_append, List.all_cons]
  simp [(by decide : isBlank '到' = false)]

private theorem savedAt?_eq_some (found : savedAt? text = some place) :
    ∃ rest, text = "二维码已保存到".toList ++ rest ∧ savedAs? rest = some place := by
  obtain ⟨rest, taken, saved⟩ := Option.bind_eq_some_iff.mp found
  exact ⟨rest, after?_eq_some.mp taken, saved⟩

private theorem savedAt?_marked (rest : List Char) :
    savedAt? ("二维码已保存到".toList ++ rest) = savedAs? rest := by
  rw [savedAt?, after?_eq_some.mpr rfl, Option.bind_some]

/-- The place of a picture is taken up as it is, unless it has been left out. -/
theorem place_tidy_iff (found : firstAnswer? savedAt? line = some place) :
    Tidy place ↔ ¬PlaceLeftOut line := by
  obtain ⟨before, _, split, answers, first⟩ := firstAnswer?_eq_some found
  obtain ⟨after, rfl, saved⟩ := savedAt?_eq_some answers
  have passedOver : ∀ earlier rest, line = earlier ++ "二维码已保存到".toList ++ rest →
      earlier.length < before.length → savedAs? rest = none := by
    intro earlier rest other less
    rw [← savedAt?_marked]
    exact first earlier _ (by rw [other, List.append_assoc]) less
  rw [← List.append_assoc] at split
  rw [savedAs?_tidy_iff saved]
  constructor
  · rintro named ⟨other, blank, otherSplit, isBlank, ⟨c, member, notFeed⟩, otherFirst⟩
    rcases Nat.lt_trichotomy before.length other.length with less | same | greater
    · rw [savedAs?_named named, if_pos (otherFirst before after split less)] at saved
      cases saved
    · have equal := otherSplit.symm.trans split
      rw [List.append_assoc, List.append_assoc] at equal
      have rest := List.append_cancel_left (List.append_inj equal same.symm).2
      rw [rest, named] at isBlank
      cases isBlank
    · have none := passedOver other blank otherSplit greater
      rw [savedAs?_blank isBlank, Option.map_eq_none_iff, List.find?_eq_none] at none
      exact none c (List.mem_reverse.mpr member) (by simpa using notFeed)
  · intro placed
    apply Bool.eq_false_iff.mpr
    intro blank
    obtain ⟨c, _, _, notFeed, member⟩ := savedAs?_of_blank blank saved
    refine placed ⟨before, after, split, blank, ⟨c, member, notFeed⟩, fun earlier rest other less => ?_⟩
    have none := passedOver earlier rest other less
    rw [savedAs?_named (named_of_later (other.symm.trans split) less)] at none
    by_contra single
    rw [if_neg single] at none
    cases none

private theorem untidy_place (found : firstAnswer? savedAt? line = some place) (untidy : ¬Tidy place) :
    ∃ c, place = [c] ∧ isBlank c = true := by
  obtain ⟨_, _, _, answers, _⟩ := firstAnswer?_eq_some found
  obtain ⟨after, _, saved⟩ := savedAt?_eq_some answers
  rw [savedAs?_tidy_iff saved, Bool.not_eq_false] at untidy
  obtain ⟨c, same, isBlank, _⟩ := savedAs?_of_blank untidy saved
  exact ⟨c, same, isBlank⟩

end places

private theorem classify_qr_iff {output payload : String} :
    classify output = some (.qrChallenge payload) ↔
      qrPayload? (Classification.visible output.toList) = some payload.toList := by
  simp only [classify, Classification.ofVisible?]
  cases qrPayload? (Classification.visible output.toList) with
  | some code =>
    simp only [Option.some.injEq, LifecycleEvent.qrChallenge.injEq]
    exact ⟨fun same => by rw [← same, String.toList_ofList],
      fun same => by rw [same, String.ofList_toList]⟩
  | none =>
    simp only [reduceCtorEq, iff_false]
    split
    · simp
    · split
      · simp
      · split <;> simp

/-- A login code is a text without white space around it, unless no code stands in the line as a
word and the place of the picture that it announces has been left out. Then it is one character
of white space. -/
theorem login_code_tidy_iff {output payload : String}
    (shown : classify output = some (.qrChallenge payload)) :
    payload ≠ "" ∧
      (Tidy payload.toList ↔ SpellsCode (Classification.visible output.toList) ∨
        ¬PlaceLeftOut (Classification.visible output.toList)) ∧
      (¬Tidy payload.toList → ∃ c, payload.toList = [c] ∧ isBlank c = true) := by
  rw [classify_qr_iff] at shown
  generalize Classification.visible output.toList = line at shown ⊢
  simp only [qrPayload?, Option.orElse_eq_or, Option.or_eq_some_iff] at shown
  have nonempty (present : payload.toList ≠ []) : payload ≠ "" := by
    rintro rfl
    exact present rfl
  have word (tidy : Tidy payload.toList) (spells : SpellsCode line) : payload ≠ "" ∧
      (Tidy payload.toList ↔ SpellsCode line ∨ ¬PlaceLeftOut line) ∧
      (¬Tidy payload.toList → ∃ c, payload.toList = [c] ∧ isBlank c = true) :=
    ⟨nonempty tidy.nonempty, ⟨fun _ => .inl spells, fun _ => tidy⟩, fun untidy => absurd tidy untidy⟩
  rcases shown with short | ⟨noShort, link | ⟨noLink, saved⟩⟩
  · exact word (shortCode?_tidy short) (spellsCode_iff.mpr (.inl (by rw [short]; rfl)))
  · exact word (link_tidy link) (spellsCode_iff.mpr (.inr (by rw [link]; rfl)))
  · have unspelled : ¬SpellsCode line := by
      simp [spellsCode_iff, noShort, noLink]
    refine ⟨nonempty fun empty => ?_, ?_, untidy_place saved⟩
    · obtain ⟨c, same, _⟩ := untidy_place saved fun tidy => tidy.nonempty empty
      exact List.cons_ne_nil c [] (same.symm.trans empty)
    · rw [place_tidy_iff saved, or_iff_right unspelled]

/-- A code that stands in the line counts for more than the place that has been left out. -/
theorem login_code_beside_marker_is_tidy :
    classify "\x1b[33mQR: abc 二维码已保存到 \r\n" = some (.qrChallenge "abc") ∧
      Tidy "abc".toList := by
  have shown : classify "\x1b[33mQR: abc 二维码已保存到 \r\n" = some (.qrChallenge "abc") := by
    decide +kernel
  have line : Classification.visible "\x1b[33mQR: abc 二维码已保存到 \r\n".toList =
      [] ++ "QR:".toList ++ " abc 二维码已保存到 ".toList := by decide +kernel
  have spells : SpellsCode (Classification.visible "\x1b[33mQR: abc 二维码已保存到 \r\n".toList) := by
    rw [line]
    exact .itself (by simp) ⟨'a', by decide, by decide⟩
  exact ⟨shown, (login_code_tidy_iff shown).2.1.mpr (.inl spells)⟩

/-- Behind the marker are two spaces, and one of them is passed on as the place of the picture. -/
theorem login_code_of_left_out_place_is_blank :
    classify "二维码已保存到  " = some (.qrChallenge " ") ∧ ¬Tidy " ".toList := by
  refine ⟨by decide +kernel, fun tidy => ?_⟩
  exact absurd (tidy.begins ' ' rfl) (by decide)

end BotKeeper.Proofs
