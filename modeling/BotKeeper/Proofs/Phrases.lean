import BotKeeper.Marker
import Mathlib.Data.List.Basic

/-! What the recognisers of the markers take up at one place of a line. A word is taken up in
any case, and a phrase with any white space between its words. Neither begins with white space,
so the white space before one has a definite end. -/

namespace BotKeeper.Proofs
open Text Marker

/-- A character without its case, as far as it folds to a letter of ASCII. -/
def folded (c : Char) : Char :=
  if c = '\u212A' then 'k' else if c = '\u017F' then 's' else c.toLower

def Spells (word : String) (text : List Char) : Prop :=
  text.map folded = word.toList

/-- The text is the words in any case, one after the other with white space between them. -/
inductive Says : List String → List Char → Prop where
  | last {word : String} {said : List Char} (spells : Spells word said) : Says [word] said
  | more {word : String} {words : List String} {said gap rest : List Char}
      (spells : Spells word said) (apart : gap ≠ []) (blank : allBlank gap = true)
      (spoken : Says words rest) : Says (word :: words) (said ++ gap ++ rest)

def Lower (word : String) : Prop :=
  word.toList ≠ [] ∧ ∀ letter ∈ word.toList, letter.isLower = true

instance (word : String) : Decidable (Lower word) :=
  decidable_of_iff ((!word.toList.isEmpty && word.toList.all Char.isLower) = true)
    (by simp [Lower])

def BeginsVisible (text : List Char) : Prop :=
  ∀ c ∈ text.head?, isBlank c = false

section letters

theorem toNat_toLower (c : Char) :
    c.toLower.toNat = if 65 ≤ c.toNat ∧ c.toNat ≤ 90 then c.toNat + 32 else c.toNat := by
  have limit : c.val.toNat < 4294967296 := c.val.toNat_lt
  delta Char.toLower
  simp only [ge_iff_le, UInt32.le_iff_toNat_le, Char.toNat]
  split
  · rename_i upper
    simp at upper
    simp [upper]
    omega
  · rename_i other
    simp at other
    simp
    omega

private theorem toNat_toUpper (c : Char) :
    c.toUpper.toNat = if 97 ≤ c.toNat ∧ c.toNat ≤ 122 then c.toNat - 32 else c.toNat := by
  have limit : c.val.toNat < 4294967296 := c.val.toNat_lt
  delta Char.toUpper
  simp only [UInt32.le_iff_toNat_le, Char.toNat]
  split
  · rename_i lower
    simp at lower
    simp [lower]
    omega
  · rename_i other
    simp at other
    simp
    omega

theorem toNat_of_lower {letter : Char} (lower : letter.isLower = true) :
    97 ≤ letter.toNat ∧ letter.toNat ≤ 122 := by
  delta Char.isLower at lower
  simp only [Bool.and_eq_true, decide_eq_true_eq, ge_iff_le, UInt32.le_iff_toNat_le] at lower
  exact lower

private theorem foldsTo_iff {letter c : Char} (lower : letter.isLower = true) :
    foldsTo letter c = true ↔ folded c = letter := by
  have bounds := toNat_of_lower lower
  have raised : letter.toUpper.toNat = letter.toNat - 32 :=
    (toNat_toUpper letter).trans (if_pos bounds)
  have lowered := toNat_toLower c
  have kelvin : '\u212A'.toNat = 8490 := rfl
  have long : '\u017F'.toNat = 383 := rfl
  have k : 'k'.toNat = 107 := rfl
  have s : 's'.toNat = 115 := rfl
  simp only [foldsTo, folded, Bool.or_eq_true, Bool.and_eq_true, beq_iff_eq, ← Char.toNat_inj, raised]
  rw [kelvin, long, k, s]
  split
  · rw [k]
    omega
  · split
    · rw [s]
      omega
    · rw [lowered]
      split <;> omega

/-- No white space folds to a letter. -/
theorem not_blank_of_folded {c : Char} (lower : (folded c).isLower = true) :
    isBlank c = false := by
  have bounds := toNat_of_lower lower
  have lowered := toNat_toLower c
  simp only [folded] at bounds
  split at bounds
  · rename_i kelvin
    subst kelvin
    rfl
  · split at bounds
    · rename_i long
      subst long
      rfl
    · rw [lowered] at bounds
      split at bounds
      · exact not_blank_of_printable (by omega) (by omega)
      · exact not_blank_of_printable (by omega) (by omega)

end letters

section gaps

variable {gap text : List Char}

private theorem dropBlanks_append (blank : allBlank gap = true) (begins : BeginsVisible text) :
    dropBlanks (gap ++ text) = text := by
  have all : ∀ c ∈ gap, isBlank c = true := List.all_eq_true.mp blank
  rw [dropBlanks, List.dropWhile_append_of_pos all]
  cases text with
  | nil => rfl
  | cons c rest => exact List.dropWhile_cons_of_neg (by simp [begins c rfl])

theorem exists_gap (text : List Char) :
    ∃ gap, allBlank gap = true ∧ text = gap ++ dropBlanks text :=
  ⟨text.takeWhile isBlank, List.all_takeWhile, List.takeWhile_append_dropWhile.symm⟩

theorem dropBlanks_begins (text : List Char) : BeginsVisible (dropBlanks text) := by
  intro c head
  have starts : (text.dropWhile isBlank).head? = some c := head
  have first := List.head?_dropWhile_not isBlank text
  rw [starts] at first
  exact first

theorem Spells.begins {word : String} (lower : Lower word) {said : List Char}
    (spells : Spells word said) (rest : List Char) : BeginsVisible (said ++ rest) := by
  cases said with
  | nil => exact absurd spells.symm lower.1
  | cons c more =>
    intro first head
    obtain rfl : c = first := by simpa using head
    apply not_blank_of_folded
    apply lower.2
    rw [← spells]
    exact List.mem_cons_self

theorem Says.begins {words : List String} (lower : ∀ word ∈ words, Lower word) {said : List Char}
    (spoken : Says words said) (rest : List Char) : BeginsVisible (said ++ rest) := by
  cases spoken with
  | last spells => exact spells.begins (lower _ (by simp)) rest
  | more spells =>
    rw [List.append_assoc, List.append_assoc]
    exact spells.begins (lower _ (by simp)) _

end gaps

section taken

variable {text rest : List Char}

theorem after?_eq_some {word : String} :
    after? word text = some rest ↔ text = word.toList ++ rest := by
  rw [after?, List.isPrefixOf?_eq_some_iff_append_eq, eq_comm]

private theorem afterFolded?_letters {word : List Char}
    (lower : ∀ letter ∈ word, letter.isLower = true) : afterFolded? word text = some rest ↔
      ∃ said, said.map folded = word ∧ text = said ++ rest := by
  induction word generalizing text with
  | nil => simp [afterFolded?]
  | cons letter word ih =>
    have others : ∀ letter ∈ word, letter.isLower = true := fun letter member =>
      lower letter (List.mem_cons_of_mem _ member)
    cases text with
    | nil =>
      simp only [afterFolded?, reduceCtorEq, false_iff, not_exists, not_and]
      intro said spells same
      cases said with
      | nil => cases spells
      | cons c said => cases same
    | cons c text =>
      simp only [afterFolded?]
      split
      · rename_i folds
        have same := (foldsTo_iff (lower letter (by simp))).mp folds
        rw [ih others]
        constructor
        · rintro ⟨said, spells, rfl⟩
          exact ⟨c :: said, by simp [same, spells], rfl⟩
        · rintro ⟨said, spells, split⟩
          cases said with
          | nil => cases spells
          | cons first said =>
            obtain ⟨rfl, rfl⟩ := List.cons.inj split
            exact ⟨said, (List.cons.inj spells).2, rfl⟩
      · rename_i other
        simp only [reduceCtorEq, false_iff, not_exists, not_and]
        intro said spells split
        cases said with
        | nil => cases spells
        | cons first said =>
          obtain ⟨rfl, rfl⟩ := List.cons.inj split
          exact other ((foldsTo_iff (lower letter (by simp))).mpr (List.cons.inj spells).1)

theorem afterFolded?_eq_some {word : String} (lower : Lower word) :
    afterFolded? word.toList text = some rest ↔ ∃ said, Spells word said ∧ text = said ++ rest :=
  afterFolded?_letters lower.2

/-- A word after a gap, which may be empty. -/
theorem afterFolded?_dropBlanks {word : String} (lower : Lower word) :
    afterFolded? word.toList (dropBlanks text) = some rest ↔
      ∃ gap said, allBlank gap = true ∧ Spells word said ∧ text = gap ++ (said ++ rest) := by
  rw [afterFolded?_eq_some lower]
  constructor
  · rintro ⟨said, spells, taken⟩
    obtain ⟨gap, blank, parted⟩ := exists_gap text
    exact ⟨gap, said, blank, spells, taken ▸ parted⟩
  · rintro ⟨gap, said, blank, spells, rfl⟩
    exact ⟨said, spells, dropBlanks_append blank (spells.begins lower rest)⟩

private theorem afterBlanks?_append {gap : List Char} (apart : gap ≠ []) (blank : allBlank gap = true)
    (begins : BeginsVisible text) : afterBlanks? (gap ++ text) = some text := by
  cases gap with
  | nil => exact absurd rfl apart
  | cons c more =>
    obtain ⟨first, others⟩ : isBlank c = true ∧ allBlank more = true := by
      simpa [allBlank] using blank
    simp only [List.cons_append, afterBlanks?, first, if_true, dropBlanks_append others begins]

private theorem afterBlanks?_eq_some (found : afterBlanks? text = some rest) :
    ∃ gap, gap ≠ [] ∧ allBlank gap = true ∧ text = gap ++ rest := by
  cases text with
  | nil => cases found
  | cons c text =>
    simp only [afterBlanks?] at found
    split at found
    · rename_i first
      cases found
      obtain ⟨gap, blank, parted⟩ := exists_gap text
      refine ⟨c :: gap, by simp, ?_, congrArg (c :: ·) parted⟩
      simpa [allBlank, first] using blank
    · cases found

/-- A phrase is taken up to the end of its last word. -/
theorem afterPhrase?_eq_some {words : List String} (some : words ≠ [])
    (lower : ∀ word ∈ words, Lower word) :
    afterPhrase? words text = .some rest ↔ ∃ said, Says words said ∧ text = said ++ rest := by
  induction words generalizing text with
  | nil => exact absurd rfl some
  | cons word words ih =>
    have first := lower word List.mem_cons_self
    have others : ∀ word ∈ words, Lower word := fun word member =>
      lower word (List.mem_cons_of_mem _ member)
    cases words with
    | nil =>
      simp only [afterPhrase?, afterFolded?_eq_some first]
      constructor
      · rintro ⟨said, spells, taken⟩
        exact ⟨said, .last spells, taken⟩
      · rintro ⟨said, spoken, taken⟩
        cases spoken with
        | last spells => exact ⟨said, spells, taken⟩
        | more _ _ _ spoken => cases spoken
    | cons next words =>
      simp only [afterPhrase?, Option.bind_eq_bind, Option.bind_eq_some_iff]
      constructor
      · rintro ⟨tail, taken, text', spaced, follows⟩
        obtain ⟨said, spells, rfl⟩ := (afterFolded?_eq_some first).mp taken
        obtain ⟨gap, apart, blank, rfl⟩ := afterBlanks?_eq_some spaced
        obtain ⟨phrase, spoken, rfl⟩ := (ih (by simp) others).mp follows
        exact ⟨said ++ gap ++ phrase, .more spells apart blank spoken, by simp⟩
      · rintro ⟨said, spoken, rfl⟩
        cases spoken with
        | @more _ _ said gap phrase spells apart blank spoken =>
          refine ⟨gap ++ (phrase ++ rest), ?_, phrase ++ rest, ?_, ?_⟩
          · exact (afterFolded?_eq_some first).mpr ⟨said, spells, by simp⟩
          · exact afterBlanks?_append apart blank (spoken.begins others rest)
          · exact (ih (by simp) others).mpr ⟨phrase, spoken, rfl⟩

end taken

end BotKeeper.Proofs
