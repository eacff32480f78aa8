import BotKeeper.Interval

/-! The text of a duration denotes that duration. It is a run of digits and the symbol of a unit,
none of which is white space, and the unit measures the duration without a rest. -/

namespace BotKeeper.Proofs
open Text

theorem isDigit_toDigits {amount : Nat} {c : Char} (digit : c ∈ Nat.toDigits 10 amount) :
    isDigit c = true := by
  have same : c.isDigit = true := Nat.isDigit_of_mem_toDigits (by decide) (by decide) digit
  simpa [Char.isDigit, isDigit, Char.le_def] using same

theorem numeral_toDigits (amount : Nat) : numeral (Nat.toDigits 10 amount) = amount := by
  have denoted : Nat.ofDigitChars 10 (Nat.toDigits 10 amount) 0 = amount :=
    Nat.ofDigitChars_ten_toDigits
  simpa only [Nat.ofDigitChars_eq_foldl, Nat.mul_comm, numeral] using denoted

theorem toNat_of_digit {c : Char} (digit : isDigit c = true) : 48 ≤ c.toNat ∧ c.toNat ≤ 57 := by
  simp only [isDigit, Bool.and_eq_true, decide_eq_true_eq, Char.le_def, UInt32.le_iff_toNat_le]
    at digit
  exact digit

theorem not_blank_of_digit {c : Char} (digit : isDigit c = true) : isBlank c = false := by
  have range := toNat_of_digit digit
  exact not_blank_of_printable (by omega) (by omega)

theorem dropWhile_gap {drop : Char → Bool} {gap kept : List Char} (dropped : ∀ c ∈ gap, drop c = true)
    (begins : ∀ c ∈ kept.head?, drop c = false) : (gap ++ kept).dropWhile drop = kept := by
  rw [List.dropWhile_append_of_pos dropped]
  cases kept with
  | nil => rfl
  | cons c rest => exact List.dropWhile_cons_of_neg (by simp [begins c rfl])

/-- The white space around a text goes, and nothing of the text itself. -/
theorem trim_framed {before shown after : List Char} (blank : ∀ c ∈ before, isBlank c = true)
    (present : shown ≠ []) (visible : ∀ c ∈ shown, isBlank c = false)
    (behind : ∀ c ∈ after, isBlank c = true) : trim (before ++ shown ++ after) = shown := by
  have begins : ∀ c ∈ (shown ++ after).head?, isBlank c = false := by
    obtain ⟨first, rest, rfl⟩ := List.exists_cons_of_ne_nil present
    intro c head
    cases head
    exact visible first List.mem_cons_self
  have ends : ∀ c ∈ shown.reverse.head?, isBlank c = false := fun c last =>
    visible c (List.mem_reverse.mp (List.mem_of_head? last))
  rw [trim, dropBlanks, List.append_assoc, dropWhile_gap blank begins, trimEnd, trimEndWhile,
    List.reverse_append, dropWhile_gap (by simpa using behind) ends, List.reverse_reverse]

private theorem symbol_not_digit (unit : TimeUnit) : isDigit unit.symbol = false := by
  cases unit <;> rfl

private theorem symbol_not_blank (unit : TimeUnit) : isBlank unit.symbol = false := by
  cases unit <;> rfl

theorem ofText?_symbol (unit : TimeUnit) : TimeUnit.ofText? [unit.symbol] = some unit := by
  cases unit <;> rfl

theorem written_visible {digits : List Char} (decimal : ∀ c ∈ digits, isDigit c = true)
    (unit : TimeUnit) : ∀ c ∈ digits ++ [unit.symbol], isBlank c = false := by
  intro c member
  rcases List.mem_append.1 member with digit | symbol
  · exact not_blank_of_digit (decimal c digit)
  · rw [List.mem_singleton.1 symbol]
    exact symbol_not_blank unit

/-- Digits and a symbol denote so much of the unit. -/
theorem parse_digits {text : String} {digits : List Char} {unit : TimeUnit}
    (shown : trim text.toList = digits ++ [unit.symbol]) (present : digits ≠ [])
    (decimal : ∀ c ∈ digits, isDigit c = true) (positive : 0 < numeral digits)
    (bounded : numeral digits < secondLimit) :
    Interval.parse text = .ok (Interval.ofAmount (numeral digits) unit positive) := by
  have taken : (digits ++ [unit.symbol]).takeWhile isDigit = digits := by
    simp [List.takeWhile_append_of_pos decimal, symbol_not_digit]
  have left : (digits ++ [unit.symbol]).dropWhile isDigit = [unit.symbol] :=
    dropWhile_gap decimal (by simp [symbol_not_digit])
  have read : ¬(digits.isEmpty || decide (secondLimit ≤ numeral digits)) = true := by
    simp [present, Nat.not_le.2 bounded]
  simp only [Interval.parse, shown, taken, left, if_neg read, ofText?_symbol, dif_pos positive]

private theorem parse_written (amount : Nat) (unit : TimeUnit) (positive : 0 < amount)
    (bounded : amount < secondLimit) :
    Interval.parse ((toString amount).push unit.symbol) =
      .ok (Interval.ofAmount amount unit positive) := by
  have decimal : ∀ c ∈ Nat.toDigits 10 amount, isDigit c = true := fun _ => isDigit_toDigits
  have shown : trim ((toString amount).push unit.symbol).toList =
      Nat.toDigits 10 amount ++ [unit.symbol] := by
    have framed : trim ([] ++ (Nat.toDigits 10 amount ++ [unit.symbol]) ++ []) = _ :=
      trim_framed (by simp) (by simp) (written_visible decimal unit) (by simp)
    simpa [String.toList_push] using framed
  have parsed := parse_digits shown Nat.toDigits_ne_nil decimal
    (by rwa [numeral_toDigits]) (by rwa [numeral_toDigits])
  simpa only [numeral_toDigits] using parsed

/-- The unit of a duration measures it without a rest. -/
theorem unit_measures (interval : Interval) :
    interval.seconds / interval.unit.seconds * interval.unit.seconds = interval.seconds := by
  apply Nat.div_mul_cancel
  apply Nat.dvd_of_mod_eq_zero
  simp only [Interval.unit]
  split
  · assumption
  · split
    · assumption
    · split
      · assumption
      · exact Nat.mod_one _

theorem parse_text (interval : Interval) : Interval.parse interval.text = .ok interval := by
  have measures := unit_measures interval
  have positive : 0 < interval.seconds / interval.unit.seconds := by
    apply Nat.pos_of_ne_zero
    intro none
    rw [none, Nat.zero_mul] at measures
    exact Nat.ne_of_lt interval.positive measures
  have bounded : interval.seconds / interval.unit.seconds < secondLimit :=
    Nat.lt_of_le_of_lt (Nat.div_le_self _ _) interval.bounded
  rw [Interval.text, parse_written _ _ positive bounded]
  simp only [Interval.ofAmount, measures]
  have inside : min interval.seconds (secondLimit - 1) = interval.seconds := by
    have := interval.bounded
    omega
  cases interval
  simp only [inside]

end BotKeeper.Proofs
