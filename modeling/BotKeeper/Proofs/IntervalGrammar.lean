import BotKeeper.Proofs.IntervalText
import BotKeeper.Proofs.Phrases

/-! Which texts are durations, and which of them are the same one. A text is cut at its first
character that is no digit, and what is read as an amount there may be too large for a number, or
make a duration that is. Main statement: exactly the texts of a grammar are read, each as its amount
of its unit or as the longest duration, and a duration is read back from the text that it is shown as,
so it is shown as one text only. -/

namespace BotKeeper.Proofs
open Text

/-- The text is an amount in decimal digits, as many zeros in front as one likes, with the symbol
of a unit behind it and white space around both. -/
inductive Denotes : List Char → Nat → TimeUnit → Prop where
  | written {before digits after : List Char} (unit : TimeUnit)
      (blank : ∀ c ∈ before, isBlank c = true) (present : digits ≠ [])
      (decimal : ∀ c ∈ digits, '0' ≤ c ∧ c ≤ '9') (behind : ∀ c ∈ after, isBlank c = true) :
      Denotes (before ++ digits ++ unit.symbol :: after) (Nat.ofDigitChars 10 digits 0) unit

/-- So much of a unit in seconds, or as many seconds as there can be. -/
def saturated (amount : Nat) (unit : TimeUnit) : Nat :=
  min (amount * unit.seconds) (UInt64.size - 1)

variable {text : String} {interval : Interval} {amount : Nat} {unit : TimeUnit}

private theorem isDigit_iff {c : Char} : isDigit c = true ↔ '0' ≤ c ∧ c ≤ '9' := by
  simp [isDigit]

private theorem numeral_eq_ofDigitChars (digits : List Char) :
    numeral digits = Nat.ofDigitChars 10 digits 0 := by
  simp only [Nat.ofDigitChars_eq_foldl, Nat.mul_comm, numeral]

private theorem ofText?_eq_some {symbol : List Char} :
    TimeUnit.ofText? symbol = some unit ↔ symbol = [unit.symbol] := by
  constructor
  · intro known
    unfold TimeUnit.ofText? at known
    split at known <;> cases known <;> rfl
  · rintro rfl
    exact ofText?_symbol unit

/-- White space stands around what is left of a text that is freed of it. -/
theorem trim_parts (text : List Char) : ∃ before after, text = before ++ trim text ++ after ∧
    (∀ c ∈ before, isBlank c = true) ∧ ∀ c ∈ after, isBlank c = true := by
  obtain ⟨before, blank, parted⟩ := exists_gap text
  obtain ⟨after, behind, reversed⟩ := exists_gap (dropBlanks text).reverse
  refine ⟨before, after.reverse, ?_, List.all_eq_true.mp blank, fun c member =>
    List.all_eq_true.mp behind c (List.mem_reverse.mp member)⟩
  have shown : dropBlanks text = trim text ++ after.reverse := by
    rw [trim, trimEnd, trimEndWhile, ← List.reverse_append, ← List.reverse_eq_iff]
    exact reversed
  rw [List.append_assoc, ← shown]
  exact parted

theorem denotes_iff {text : List Char} : Denotes text amount unit ↔
    ∃ digits, trim text = digits ++ [unit.symbol] ∧ digits ≠ [] ∧
      (∀ c ∈ digits, isDigit c = true) ∧ numeral digits = amount := by
  constructor
  · rintro ⟨unit, blank, present, decimal, behind⟩
    rename_i before digits after
    have digit : ∀ c ∈ digits, isDigit c = true := fun c member =>
      isDigit_iff.mpr (decimal c member)
    refine ⟨digits, ?_, present, digit, numeral_eq_ofDigitChars digits⟩
    rw [← trim_framed blank (by simp) (written_visible digit unit) behind]
    simp
  · rintro ⟨digits, shown, present, digit, rfl⟩
    obtain ⟨before, after, framed, blank, behind⟩ := trim_parts text
    rw [framed, shown, numeral_eq_ofDigitChars, ← List.append_assoc, List.append_assoc,
      List.singleton_append]
    exact .written unit blank present (fun c member => isDigit_iff.mp (digit c member)) behind

theorem Denotes.unique {text : List Char} {otherAmount : Nat} {otherUnit : TimeUnit}
    (denotes : Denotes text amount unit) (again : Denotes text otherAmount otherUnit) :
    amount = otherAmount ∧ unit = otherUnit := by
  obtain ⟨digits, shown, _, _, rfl⟩ := denotes_iff.mp denotes
  obtain ⟨others, seen, _, _, rfl⟩ := denotes_iff.mp again
  obtain ⟨rfl, symbol⟩ := List.append_inj' (shown.symm.trans seen) rfl
  have known := ofText?_symbol unit
  rw [symbol, ofText?_symbol] at known
  cases known
  exact ⟨rfl, rfl⟩

/-- What a text that is read has been cut into. -/
theorem parse_parts (parsed : Interval.parse text = .ok interval) :
    ∃ digits unit, trim text.toList = digits ++ [unit.symbol] ∧ digits ≠ [] ∧
      (∀ c ∈ digits, isDigit c = true) ∧ numeral digits < secondLimit ∧
      ∃ positive : 0 < numeral digits, interval = .ofAmount (numeral digits) unit positive := by
  unfold Interval.parse at parsed
  dsimp only at parsed
  split at parsed
  · cases parsed
  · split at parsed
    · cases parsed
    · rename_i symbol _ readable
      simp only [Bool.or_eq_true, List.isEmpty_iff, decide_eq_true_eq, not_or, Nat.not_le] at readable
      obtain ⟨present, bounded⟩ := readable
      split at parsed
      · cases parsed
      · rename_i unit known
        split at parsed
        · rename_i positive
          cases parsed
          have parted := List.takeWhile_append_dropWhile (p := isDigit) (l := trim text.toList)
          rw [ofText?_eq_some.mp known] at parted
          exact ⟨_, unit, parted.symm, present, List.all_eq_true.mp List.all_takeWhile, bounded,
            positive, rfl⟩
        · cases parsed

theorem parse_eq_ok_iff : Interval.parse text = .ok interval ↔
    ∃ amount unit, Denotes text.toList amount unit ∧ 0 < amount ∧ amount < secondLimit ∧
      interval.seconds = saturated amount unit := by
  constructor
  · intro parsed
    obtain ⟨digits, unit, shown, present, digit, bounded, positive, rfl⟩ := parse_parts parsed
    exact ⟨_, unit, denotes_iff.mpr ⟨digits, shown, present, digit, rfl⟩, positive, bounded, rfl⟩
  · rintro ⟨_, unit, denotes, positive, bounded, seconds⟩
    obtain ⟨digits, shown, present, digit, rfl⟩ := denotes_iff.mp denotes
    rw [parse_digits shown present digit positive bounded]
    cases interval
    cases seconds
    rfl

/-- The same duration is shown as the same text, and another one as another. -/
theorem text_eq_iff {first second : Interval} :
    first.text = second.text ↔ first.seconds = second.seconds := by
  constructor
  · intro same
    have read := parse_text first
    rw [same, parse_text second] at read
    cases read
    rfl
  · intro same
    cases first
    cases second
    cases same
    rfl

/-- Exactly the texts that denote an amount between zero and the limit of 64 bits are read, as so
many seconds or as many as there can be. What a duration is shown as is read as that duration, and
two texts that are read are shown as one if they denote as many seconds, and only then. -/
theorem intervals_read_and_shown :
    (∀ text seconds,
      (∃ interval, Interval.parse text = .ok interval ∧ interval.seconds = seconds) ↔
        ∃ amount unit, Denotes text.toList amount unit ∧ 0 < amount ∧ amount < UInt64.size ∧
          seconds = saturated amount unit) ∧
      (∀ interval : Interval, Interval.parse interval.text = .ok interval) ∧
      ∀ text other first second, Interval.parse text = .ok first →
        Interval.parse other = .ok second → ∀ amount unit otherAmount otherUnit,
        Denotes text.toList amount unit → Denotes other.toList otherAmount otherUnit →
        (first.text = second.text ↔ saturated amount unit = saturated otherAmount otherUnit) := by
  have denoted {text : String} {interval : Interval} {amount : Nat} {unit : TimeUnit}
      (parsed : Interval.parse text = .ok interval) (denotes : Denotes text.toList amount unit) :
      interval.seconds = saturated amount unit := by
    obtain ⟨_, _, read, _, _, seconds⟩ := parse_eq_ok_iff.mp parsed
    obtain ⟨rfl, rfl⟩ := denotes.unique read
    exact seconds
  refine ⟨fun text seconds => ?_, parse_text, ?_⟩
  · constructor
    · rintro ⟨interval, parsed, rfl⟩
      exact parse_eq_ok_iff.mp parsed
    · rintro ⟨amount, unit, denotes, positive, bounded, rfl⟩
      have parsed : Interval.parse text = .ok (.ofAmount amount unit positive) :=
        parse_eq_ok_iff.mpr ⟨amount, unit, denotes, positive, bounded, rfl⟩
      exact ⟨_, parsed, rfl⟩
  · intro text other first second parsed read amount unit otherAmount otherUnit denotes denotesToo
    rw [text_eq_iff, denoted parsed denotes, denoted read denotesToo]

/-- One text goes beyond the longest duration and the other up to it, so they are shown alike. -/
theorem longest_interval_read_and_shown :
    let longest : Interval := { seconds := UInt64.size - 1 }
    Interval.parse "\u3000009999999999999999d\r\n" = .ok longest ∧
      Interval.parse "18446744073709551615s" = .ok longest ∧
      saturated 9999999999999999 .day = saturated 18446744073709551615 .second := by
  have read : Interval.parse "\u3000009999999999999999d\r\n" = .ok { seconds := UInt64.size - 1 } := by
    decide +kernel
  have other : Interval.parse "18446744073709551615s" = .ok { seconds := UInt64.size - 1 } := by
    decide +kernel
  have denotes : Denotes "\u3000009999999999999999d\r\n".toList 9999999999999999 .day :=
    denotes_iff.mpr ⟨"009999999999999999".toList, by decide +kernel, by decide +kernel,
      List.all_eq_true.mp (by decide +kernel), by decide +kernel⟩
  have denotesToo : Denotes "18446744073709551615s".toList 18446744073709551615 .second :=
    denotes_iff.mpr ⟨"18446744073709551615".toList, by decide +kernel, by decide +kernel,
      List.all_eq_true.mp (by decide +kernel), by decide +kernel⟩
  exact ⟨read, other,
    (intervals_read_and_shown.2.2 _ _ _ _ read other _ _ _ _ denotes denotesToo).mp rfl⟩

end BotKeeper.Proofs
