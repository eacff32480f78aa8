import BotKeeper.Text.Utf8

/-! The bytes that are a text. A character is one to four bytes, and the first of them says how
many. Main statement: bytes are read as a text exactly if they are the encodings of its characters,
one after the other, so a text is read back from its bytes, and from no others. -/

namespace BotKeeper.Proofs
open Text.Utf8 String

/-- A byte that goes on with a character. -/
def Tail (byte : UInt8) : Prop :=
  0x80 ≤ byte.toNat ∧ byte.toNat ≤ 0xBF

/-- The bytes of one character, and its code. Forms that are too long, surrogates and codes beyond
the last one are no characters. -/
inductive Sequence : List UInt8 → Nat → Prop where
  | one {first : UInt8} {code : Nat} (low : first.toNat < 0x80) (bits : code = first.toNat) :
      Sequence [first] code
  | two {first second : UInt8} {code : Nat} (lead : 0xC2 ≤ first.toNat ∧ first.toNat < 0xE0)
      (tail : Tail second) (bits : code = (first.toNat - 0xC0) * 64 + (second.toNat - 0x80)) :
      Sequence [first, second] code
  | three {first second third : UInt8} {code : Nat}
      (lead : 0xE0 ≤ first.toNat ∧ first.toNat < 0xF0) (tails : Tail second ∧ Tail third)
      (long : first.toNat = 0xE0 → 0xA0 ≤ second.toNat)
      (proper : first.toNat = 0xED → second.toNat ≤ 0x9F)
      (bits : code = ((first.toNat - 0xE0) * 64 + (second.toNat - 0x80)) * 64 +
        (third.toNat - 0x80)) :
      Sequence [first, second, third] code
  | four {first second third fourth : UInt8} {code : Nat}
      (lead : 0xF0 ≤ first.toNat ∧ first.toNat ≤ 0xF4)
      (tails : Tail second ∧ Tail third ∧ Tail fourth)
      (long : first.toNat = 0xF0 → 0x90 ≤ second.toNat)
      (bounded : first.toNat = 0xF4 → second.toNat ≤ 0x8F)
      (bits : code = (((first.toNat - 0xF0) * 64 + (second.toNat - 0x80)) * 64 +
        (third.toNat - 0x80)) * 64 + (fourth.toNat - 0x80)) :
      Sequence [first, second, third, fourth] code

section start

variable {byte : UInt8}

private theorem start_one (low : byte.toNat < 0x80) :
    start byte = .whole (Char.ofNat byte.toNat) := by
  simp only [start, low, if_true]

private theorem start_two (lead : 0xC2 ≤ byte.toNat ∧ byte.toNat < 0xE0) :
    start byte = .lead ⟨0, 0x80, 0xBF, byte.toNat - 0xC0⟩ := by
  simp (disch := omega) only [start, if_pos, if_neg]

private theorem start_three (lead : 0xE0 ≤ byte.toNat ∧ byte.toNat < 0xF0) :
    start byte = .lead ⟨1, if byte.toNat = 0xE0 then 0xA0 else 0x80,
      if byte.toNat = 0xED then 0x9F else 0xBF, byte.toNat - 0xE0⟩ := by
  by_cases long : byte.toNat = 0xE0
  · simp [start, long]
  · by_cases proper : byte.toNat = 0xED
    · simp [start, proper]
    · simp (disch := omega) only [start, if_pos, if_neg]

private theorem start_four (lead : 0xF0 ≤ byte.toNat ∧ byte.toNat ≤ 0xF4) :
    start byte = .lead ⟨2, if byte.toNat = 0xF0 then 0x90 else 0x80,
      if byte.toNat = 0xF4 then 0x8F else 0xBF, byte.toNat - 0xF0⟩ := by
  by_cases long : byte.toNat = 0xF0
  · simp [start, long]
  · by_cases last : byte.toNat = 0xF4
    · simp [start, last]
    · simp (disch := omega) only [start, if_pos, if_neg]

private theorem start_invalid
    (no : 0x80 ≤ byte.toNat ∧ byte.toNat < 0xC2 ∨ 0xF5 ≤ byte.toNat) :
    start byte = .invalid := by
  rcases no with ⟨high, low⟩ | beyond
  · simp (disch := omega) only [start, if_pos, if_neg]
  · simp (disch := omega) only [start, if_neg]

end start

section parts

variable {byte : UInt8} {rest : List UInt8} {pending : Pending}

private theorem parts_whole {c : Char} (whole : start byte = .whole c) :
    parts none (byte :: rest) = some c :: parts none rest := by
  simp [parts, advance, begin, whole]

private theorem parts_lead (leads : start byte = .lead pending) :
    parts none (byte :: rest) = parts (some pending) rest := by
  simp [parts, advance, begin, leads]

private theorem parts_next {more value : Nat} {low high : UInt8}
    (accepted : low ≤ byte ∧ byte ≤ high) :
    parts (some ⟨more + 1, low, high, value⟩) (byte :: rest) =
      parts (some ⟨more, 0x80, 0xBF, value * 64 + (byte.toNat - 0x80)⟩) rest := by
  have accepts : Pending.accepts ⟨more + 1, low, high, value⟩ byte = true := by
    simpa only [Pending.accepts, Bool.and_eq_true, decide_eq_true_eq] using accepted
  simp only [parts, advance, accepts, if_true, List.nil_append]
  rfl

private theorem parts_last {value : Nat} {low high : UInt8} (accepted : low ≤ byte ∧ byte ≤ high) :
    parts (some ⟨0, low, high, value⟩) (byte :: rest) =
      some (Char.ofNat (value * 64 + (byte.toNat - 0x80))) :: parts none rest := by
  have accepts : Pending.accepts ⟨0, low, high, value⟩ byte = true := by
    simpa only [Pending.accepts, Bool.and_eq_true, decide_eq_true_eq] using accepted
  simp only [parts, advance, accepts, if_true, List.cons_append, List.nil_append]
  rfl

/-- A character that is open goes on to be one only with a byte of its range. -/
private theorem open_accepts {bytes : List UInt8} {c : Char} {others : List (Option Char)}
    (completes : parts (some pending) bytes = some c :: others) :
    ∃ byte rest, bytes = byte :: rest ∧ pending.low ≤ byte ∧ byte ≤ pending.high := by
  cases bytes with
  | nil => simp [parts] at completes
  | cons byte rest =>
    by_cases accepted : pending.accepts byte = true
    · exact ⟨byte, rest, rfl, by simpa [Pending.accepts] using accepted⟩
    · simp [parts, advance, accepted] at completes

end parts

private theorem tail_iff {byte : UInt8} : Tail byte ↔ 0x80 ≤ byte ∧ byte ≤ 0xBF := by
  simp [Tail, UInt8.le_iff_toNat_le]

/-- After some first bytes the range of the second one is narrower at one end. -/
private theorem narrower_iff {byte least most : UInt8} {long high : Prop} [Decidable long]
    [Decidable high] (above : 0x80 ≤ least.toNat) (below : most.toNat ≤ 0xBF) :
    ((if long then least else 0x80) ≤ byte ∧ byte ≤ (if high then most else 0xBF)) ↔
      Tail byte ∧ (long → least.toNat ≤ byte.toNat) ∧ (high → byte.toNat ≤ most.toNat) := by
  have low : (0x80 : UInt8).toNat = 0x80 := rfl
  have top : (0xBF : UInt8).toNat = 0xBF := rfl
  rw [UInt8.le_iff_toNat_le, UInt8.le_iff_toNat_le, apply_ite UInt8.toNat, apply_ite UInt8.toNat,
    low, top, Tail]
  split <;> split <;> simp only [*, true_imp_iff, false_imp_iff, and_true, true_and] <;>
    constructor <;> omega

private theorem narrower_three {first second : UInt8} :
    ((if first.toNat = 0xE0 then 0xA0 else 0x80) ≤ second ∧
      second ≤ (if first.toNat = 0xED then 0x9F else 0xBF)) ↔
    Tail second ∧ (first.toNat = 0xE0 → 0xA0 ≤ second.toNat) ∧
      (first.toNat = 0xED → second.toNat ≤ 0x9F) :=
  narrower_iff (by decide) (by decide)

private theorem narrower_four {first second : UInt8} :
    ((if first.toNat = 0xF0 then 0x90 else 0x80) ≤ second ∧
      second ≤ (if first.toNat = 0xF4 then 0x8F else 0xBF)) ↔
    Tail second ∧ (first.toNat = 0xF0 → 0x90 ≤ second.toNat) ∧
      (first.toNat = 0xF4 → second.toNat ≤ 0x8F) :=
  narrower_iff (by decide) (by decide)

/-- The bytes of a character are read as that character. -/
theorem parts_sequence {bytes : List UInt8} {code : Nat} (whole : Sequence bytes code)
    (rest : List UInt8) :
    parts none (bytes ++ rest) = some (Char.ofNat code) :: parts none rest := by
  cases whole with
  | one low bits =>
    rw [bits]
    exact parts_whole (start_one low)
  | two lead tail bits =>
    rw [bits]
    exact (parts_lead (start_two lead)).trans (parts_last (tail_iff.mp tail))
  | @three first second third code lead tails long proper bits =>
    have ranged := narrower_three.mpr ⟨tails.1, long, proper⟩
    rw [bits]
    refine (parts_lead (start_three lead)).trans ?_
    exact (parts_next ranged).trans (parts_last (tail_iff.mp tails.2))
  | @four first second third fourth code lead tails long bounded bits =>
    have ranged := narrower_four.mpr ⟨tails.1, long, bounded⟩
    rw [bits]
    refine (parts_lead (start_four lead)).trans ((parts_next ranged).trans ?_)
    exact (parts_next (tail_iff.mp tails.2.1)).trans (parts_last (tail_iff.mp tails.2.2))

/-- What is read as a character is the bytes of one. -/
theorem sequence_of_parts {bytes : List UInt8} {c : Char} {others : List (Option Char)}
    (read : parts none bytes = some c :: others) :
    ∃ front code rest, Sequence front code ∧ bytes = front ++ rest := by
  cases bytes with
  | nil => simp [parts] at read
  | cons first rest =>
    by_cases low : first.toNat < 0x80
    · exact ⟨[first], _, rest, .one low rfl, rfl⟩
    by_cases two : 0xC2 ≤ first.toNat ∧ first.toNat < 0xE0
    · rw [parts_lead (start_two two)] at read
      obtain ⟨second, rest, rfl, tail⟩ := open_accepts read
      exact ⟨[first, second], _, rest, .two two (tail_iff.mpr tail) rfl, rfl⟩
    by_cases three : 0xE0 ≤ first.toNat ∧ first.toNat < 0xF0
    · rw [parts_lead (start_three three)] at read
      obtain ⟨second, rest, rfl, ranged⟩ := open_accepts read
      rw [parts_next ranged] at read
      obtain ⟨third, rest, rfl, tail⟩ := open_accepts read
      obtain ⟨narrow, long, proper⟩ := narrower_three.mp ranged
      exact ⟨[first, second, third], _, rest,
        .three three ⟨narrow, tail_iff.mpr tail⟩ long proper rfl, rfl⟩
    by_cases four : 0xF0 ≤ first.toNat ∧ first.toNat ≤ 0xF4
    · rw [parts_lead (start_four four)] at read
      obtain ⟨second, rest, rfl, ranged⟩ := open_accepts read
      rw [parts_next ranged] at read
      obtain ⟨third, rest, rfl, tail⟩ := open_accepts read
      rw [parts_next tail] at read
      obtain ⟨fourth, rest, rfl, last⟩ := open_accepts read
      obtain ⟨narrow, long, bounded⟩ := narrower_four.mp ranged
      exact ⟨[first, second, third, fourth], _, rest,
        .four four ⟨narrow, tail_iff.mpr tail, tail_iff.mpr last⟩ long bounded rfl, rfl⟩
    have invalid : start first = .invalid := start_invalid (by omega)
    simp [parts, advance, begin, invalid] at read

/-- The encoding of a character is the bytes of its code. -/
theorem sequence_encoded (c : Char) : Sequence (utf8EncodeChar c) c.toNat := by
  have valid : c.toNat < 0xD800 ∨ 0xDFFF < c.toNat ∧ c.toNat < 0x110000 := c.valid
  have byte : ∀ {code : Nat}, code < 256 → (UInt8.ofNat code).toNat = code := fun small =>
    Nat.mod_eq_of_lt small
  fun_cases utf8EncodeChar c with
  | case1 v =>
    have code : v = c.toNat := rfl
    refine .one ?_ ?_ <;> simp (disch := omega) only [byte] <;> omega
  | case2 v =>
    have code : v = c.toNat := rfl
    refine .two ?_ ?_ ?_ <;> simp (disch := omega) only [Tail, byte] <;> omega
  | case3 v =>
    have code : v = c.toNat := rfl
    refine .three ?_ ?_ ?_ ?_ ?_ <;> simp (disch := omega) only [Tail, byte] <;> omega
  | case4 v =>
    have code : v = c.toNat := rfl
    refine .four ?_ ?_ ?_ ?_ ?_ <;> simp (disch := omega) only [Tail, byte] <;> omega

/-- The first byte tells the number of bytes, and the code tells each of them. -/
private theorem sequence_unique {code : Nat} {front other : List UInt8} (whole : Sequence front code)
    (again : Sequence other code) : front = other := by
  cases whole <;> cases again <;>
    simp only [Tail, List.cons.injEq, and_true, ← UInt8.toNat_inj, reduceCtorEq, and_false] at * <;>
    omega

private theorem sequence_valid {bytes : List UInt8} {code : Nat} (whole : Sequence bytes code) :
    (Char.ofNat code).toNat = code := by
  have valid : code.isValidChar := by
    unfold Nat.isValidChar
    cases whole with
    | one low bits => omega
    | two lead tail bits =>
      unfold Tail at tail
      omega
    | three lead tails long proper bits =>
      unfold Tail at tails
      omega
    | four lead tails long bounded bits =>
      unfold Tail at tails
      omega
  unfold Char.ofNat
  rw [dif_pos valid]
  rfl

private theorem encoded_of_sequence {bytes : List UInt8} {code : Nat} (whole : Sequence bytes code) :
    utf8EncodeChar (Char.ofNat code) = bytes := by
  have encoded := sequence_encoded (Char.ofNat code)
  rw [sequence_valid whole] at encoded
  exact sequence_unique encoded whole

/-- A character that is open is read as something, even if nothing follows. -/
private theorem open_parts_ne_nil (bytes : List UInt8) (pending : Pending) :
    parts (some pending) bytes ≠ [] := by
  induction bytes generalizing pending with
  | nil => simp [parts]
  | cons byte rest ih =>
    unfold parts advance
    dsimp only
    split
    · split
      · simp
      · exact ih _
    · simp

private theorem parts_eq_nil {bytes : List UInt8} (read : parts none bytes = []) : bytes = [] := by
  cases bytes with
  | nil => rfl
  | cons byte rest =>
    unfold parts advance begin at read
    dsimp only at read
    split at read
    · simp at read
    · exact absurd read (open_parts_ne_nil rest _)
    · simp at read

private theorem parts_eq_text_iff {bytes : List UInt8} {text : List Char} :
    parts none bytes = text.map some ↔ bytes = text.flatMap utf8EncodeChar := by
  constructor
  · intro read
    induction text generalizing bytes with
    | nil => exact parts_eq_nil read
    | cons c text ih =>
      obtain ⟨front, code, rest, whole, rfl⟩ := sequence_of_parts read
      rw [parts_sequence whole, List.map_cons, List.cons.injEq, Option.some_inj] at read
      rw [List.flatMap_cons, ← ih read.2, ← read.1, encoded_of_sequence whole]
  · rintro rfl
    induction text with
    | nil => rfl
    | cons c text ih =>
      rw [List.flatMap_cons, parts_sequence (sequence_encoded c), Char.ofNat_toNat, ih,
        List.map_cons]

private theorem mapM_id_eq_some_iff {items : List (Option α)} {values : List α} :
    items.mapM id = some values ↔ items = values.map some := by
  induction items generalizing values with
  | nil => cases values <;> simp
  | cons item items ih =>
    cases item with
    | none => cases values <;> simp
    | some value =>
      cases values with
      | nil => simp [Option.bind_eq_some_iff]
      | cons first rest => simpa [Option.bind_eq_some_iff, ih] using and_comm

/-- Bytes are read as a text exactly if they are the encodings of its characters. -/
theorem decode?_eq_some_iff {bytes : List UInt8} {text : List Char} :
    decode? bytes = some text ↔ bytes = text.flatMap utf8EncodeChar :=
  mapM_id_eq_some_iff.trans parts_eq_text_iff

end BotKeeper.Proofs
