import BotKeeper.Proofs.Escapes
import BotKeeper.Proofs.IntervalText
import BotKeeper.Proofs.LoginCodes
import Mathlib.Algebra.Group.Nat.Defs

/-! What is passed on from behind a marker in two languages: the number of the account that has
logged in, and the reason why a quick login has failed. The English marker counts before the
Chinese one, and of each the first that stands in the line. Main statements: the number is a whole
run of digits and fits into an account, and the reason is a tidy part of the line that begins
behind the marker, or all of the line where nothing is said behind it. -/

namespace BotKeeper.Proofs
open Text Marker

/-- The marker stands at this place of the line, and nowhere before it. A marker is a condition on
what is said and on what follows it. -/
structure Leftmost (marker : List Char → List Char → Prop) (line before said after : List Char) :
    Prop where
  parted : line = before ++ said ++ after
  found : marker said after
  first : ∀ earlier other rest, line = earlier ++ other ++ rest → marker other rest →
    before.length ≤ earlier.length

def Nowhere (marker : List Char → List Char → Prop) (line : List Char) : Prop :=
  ∀ before said after, line = before ++ said ++ after → ¬marker said after

/-- The first marker of a line: the leftmost English one, or else the leftmost Chinese one. -/
inductive FirstSaid (english chinese : List Char → List Char → Prop)
    (line before said after : List Char) : Prop where
  | english (first : Leftmost english line before said after)
  | chinese (none : Nowhere english line) (first : Leftmost chinese line before said after)

/-- Within a line, a text is recognised exactly if it begins with the marker, and the answer tells
something of what follows that. -/
structure Recognises (recognise : List Char → Option α) (marker : List Char → List Char → Prop)
    (tells : List Char → α → Prop) (line : List Char) : Prop where
  reads : ∀ {text answer}, recognise text = some answer →
    ∃ said after, text = said ++ after ∧ marker said after ∧ tells after answer
  takes : ∀ {said after}, said ++ after <:+ line → marker said after →
    (recognise (said ++ after)).isSome = true

variable {line text : List Char}

section search

variable {recognise other : List Char → Option α} {marker english chinese : List Char → List Char → Prop}
  {tells : List Char → α → Prop} {answer : α}

theorem Recognises.leftmost (known : Recognises recognise marker tells line)
    (found : firstAnswer? recognise line = some answer) :
    ∃ before said after, Leftmost marker line before said after ∧ tells after answer := by
  obtain ⟨before, text, rfl, answers, none⟩ := firstAnswer?_eq_some found
  obtain ⟨said, after, rfl, marked, told⟩ := known.reads answers
  refine ⟨before, said, after, ⟨(List.append_assoc ..).symm, marked, ?_⟩, told⟩
  intro earlier other rest parted stands
  rw [List.append_assoc earlier] at parted
  by_contra less
  have taken := known.takes ⟨earlier, parted.symm⟩ stands
  rw [none earlier _ parted (Nat.lt_of_not_le less)] at taken
  cases taken

theorem Recognises.nowhere (known : Recognises recognise marker tells line)
    (missed : firstAnswer? recognise line = none) : Nowhere marker line := by
  intro before said after parted marked
  rw [List.append_assoc] at parted
  have found := firstAnswer?_isSome.mpr
    ⟨before, _, parted, known.takes ⟨before, parted.symm⟩ marked⟩
  rw [missed] at found
  cases found

theorem FirstSaid.parted {before said after : List Char}
    (first : FirstSaid english chinese line before said after) : line = before ++ said ++ after := by
  cases first with
  | english first => exact first.parted
  | chinese _ first => exact first.parted

/-- The search for one marker and then for the other ends at the first marker. -/
theorem firstSaid_of_search (known : Recognises recognise english tells line)
    (alsoKnown : Recognises other chinese tells line)
    (found : ((firstAnswer? recognise line).orElse fun _ => firstAnswer? other line) = some answer) :
    ∃ before said after, FirstSaid english chinese line before said after ∧ tells after answer := by
  rw [Option.orElse_eq_or, Option.or_eq_some_iff] at found
  rcases found with found | ⟨missed, found⟩
  · obtain ⟨before, said, after, first, told⟩ := known.leftmost found
    exact ⟨before, said, after, .english first, told⟩
  · obtain ⟨before, said, after, first, told⟩ := alsoKnown.leftmost found
    exact ⟨before, said, after, .chinese (known.nowhere missed) first, told⟩

end search

section accounts

/-- The digits are a whole run: no digit stands next to them. Such a run of five to twelve can be
the number of an account. -/
structure WholeRun (before digits after : List Char) : Prop where
  begins : ∀ c ∈ before.getLast?, isDigit c = false
  inside : ∀ c ∈ digits, isDigit c = true
  ends : ∀ c ∈ after.head?, isDigit c = false
  least : 5 ≤ digits.length
  most : digits.length ≤ 12

/-- The number of 64 bits that a text of digits denotes, if there is a digit and the number is
within the range. -/
def number? (digits : List Char) : Option UInt64 :=
  if digits.isEmpty || UInt64.size ≤ numeral digits then none else some (.ofNat (numeral digits))

def EnglishLogin (said after : List Char) : Prop :=
  Says ["login", "success"] said ∧ NamesAccount after

def ChineseLogin (said after : List Char) : Prop :=
  said = "登录成功".toList ∧ NamesAccount after

variable {digits ends said after : List Char}

section numbers

private theorem digit_value {c : Char} (digit : isDigit c = true) : c.toNat - '0'.toNat < 10 := by
  have range := toNat_of_digit digit
  have zero : '0'.toNat = 48 := rfl
  omega

theorem numeral_lt (all : ∀ c ∈ digits, isDigit c = true) : numeral digits < 10 ^ digits.length := by
  induction digits using List.reverseRecOn with
  | nil => decide
  | append_singleton digits c ih =>
    have less := ih fun other member => all other (by simp [member])
    have last := digit_value (all c (by simp))
    have more : numeral (digits ++ [c]) = numeral digits * 10 + (c.toNat - '0'.toNat) := by
      simp [numeral]
    rw [more, List.length_append, List.length_singleton, Nat.pow_succ]
    omega

theorem FirstAccount.numeral_lt (account : FirstAccount text digits) : numeral digits < 10 ^ 12 := by
  obtain ⟨_, _, _, _, all, _, _, most⟩ := account
  exact Nat.lt_of_lt_of_le (Proofs.numeral_lt all) (Nat.pow_le_pow_right (by decide) most)

/-- The number of an account is within the range of the numbers of accounts. -/
theorem FirstAccount.number (account : FirstAccount text digits) :
    number? digits = some (.ofNat (numeral digits)) := by
  have inside : ¬UInt64.size ≤ numeral digits :=
    Nat.not_le.mpr (Nat.lt_trans account.numeral_lt (by decide))
  obtain ⟨_, _, _, _, _, _, least, _⟩ := account
  cases digits with
  | nil => simp at least
  | cons c digits => simp [number?, inside]

end numbers

section letters

private theorem not_digit_of_folded {c : Char} (lower : (folded c).isLower = true) :
    isDigit c = false := by
  apply Bool.eq_false_iff.mpr
  intro digit
  have range := toNat_of_digit digit
  have bounds := toNat_of_lower lower
  have lowered := toNat_toLower c
  have kelvin : c ≠ '\u212A' := by
    rintro rfl
    exact absurd range (by decide)
  have long : c ≠ '\u017F' := by
    rintro rfl
    exact absurd range (by decide)
  rw [folded, if_neg kelvin, if_neg long, lowered] at bounds
  split at bounds <;> omega

private theorem spelled_letters {word : String} (lower : Lower word) (spells : Spells word said) :
    said ≠ [] ∧ ∀ c ∈ said, isDigit c = false := by
  constructor
  · rintro rfl
    exact lower.1 spells.symm
  · intro c member
    exact not_digit_of_folded (lower.2 _ (spells ▸ List.mem_map_of_mem member))

/-- No phrase has a digit in it. -/
theorem said_letters {words : List String} (lower : ∀ word ∈ words, Lower word)
    (spoken : Says words said) : said ≠ [] ∧ ∀ c ∈ said, isDigit c = false := by
  induction spoken with
  | last spells => exact spelled_letters (lower _ (by simp)) spells
  | @more word words said gap rest spells apart blank spoken ih =>
    obtain ⟨_, letters⟩ := spelled_letters (lower word (by simp)) spells
    obtain ⟨_, others⟩ := ih fun word member => lower word (List.mem_cons_of_mem _ member)
    refine ⟨by simp [apart], fun c member => ?_⟩
    rcases List.mem_append.mp member with early | late
    · rcases List.mem_append.mp early with early | between
      · exact letters c early
      · apply Bool.eq_false_iff.mpr
        intro digit
        have isBlank := List.all_eq_true.mp blank c between
        rw [not_blank_of_digit digit] at isBlank
        cases isBlank
    · exact others c late

end letters

section lineEnds

theorem FirstAccount.append (account : FirstAccount text digits)
    (plain : ∀ c ∈ ends, isDigit c = false) : FirstAccount (text ++ ends) digits := by
  obtain ⟨between, rest, rfl, none, all, ended, long⟩ := account
  refine ⟨between, rest ++ ends, by simp, none, all, ?_, long⟩
  cases rest with
  | nil => exact fun c head => plain c (List.mem_of_head? head)
  | cons first more => exact ended

/-- What follows the number of an account without a digit does not belong to it. -/
theorem FirstAccount.of_append (account : FirstAccount after digits)
    (plain : ∀ c ∈ ends, isDigit c = false) (parted : text ++ ends = said ++ after) :
    ∃ left, text = said ++ left ∧ FirstAccount left digits := by
  obtain ⟨between, rest, rfl, none, all, ended, long⟩ := account
  have whole : text ++ ends = (said ++ between ++ digits) ++ rest := by simp [parted]
  rcases List.append_eq_append_iff.mp whole with ⟨beyond, same, _⟩ | ⟨left, same, split⟩
  · -- The last digit stands before all that has been appended.
    rcases List.eq_nil_or_concat beyond with rfl | ⟨front, last, rfl⟩
    · refine ⟨between ++ digits, by simpa using same.symm, between, [], by simp, none, all, ?_, long⟩
      simp
    · rcases List.eq_nil_or_concat digits with rfl | ⟨init, digit, rfl⟩
      · simp at long
      · have equal : digit = last := by simpa using congrArg List.getLast? same
        subst equal
        have isDigit := all digit (by simp)
        rw [plain digit (by simp_all)] at isDigit
        cases isDigit
  · refine ⟨between ++ digits ++ left, by simp [same], between, left, rfl, none, all, ?_, long⟩
    cases left with
    | nil => simp
    | cons first more =>
      rw [split] at ended
      exact ended

/-- A search at all places of a text goes on to what is appended if that matters at no place. -/
theorem firstAnswer?_append {recognise : List Char → Option α}
    (same : ∀ text rest, rest <:+ ends → recognise (text ++ rest) = recognise text) :
    firstAnswer? recognise (text ++ ends) = firstAnswer? recognise text := by
  induction text with
  | nil =>
    rw [List.nil_append]
    induction ends with
    | nil => rfl
    | cons c ends ih =>
      have here := same [] (c :: ends) (List.suffix_refl _)
      have later := ih fun text rest inside => same text rest (inside.trans (List.suffix_cons c ends))
      rw [List.nil_append] at here
      simp only [firstAnswer?, here] at later ⊢
      rw [later]
      cases recognise [] <;> rfl
  | cons c text ih =>
    have here := same (c :: text) ends (List.suffix_refl _)
    simp only [List.cons_append] at here
    simp only [List.cons_append, firstAnswer?, here, ih]

/-- What has no digit in it does not matter where accounts are read behind a marker. -/
theorem account_append {take : List Char → Option (List Char)} {marks : List Char → Prop}
    (takes : ∀ {text rest}, take text = some rest ↔ ∃ said, marks said ∧ text = said ++ rest)
    (plain : ∀ c ∈ ends, isDigit c = false) (text : List Char) :
    (take (text ++ ends)).bind accountDigits? = (take text).bind accountDigits? := by
  apply Option.ext
  intro digits
  simp only [Option.bind_eq_some_iff, takes, accountDigits?_eq_some]
  constructor
  · rintro ⟨after, ⟨said, marked, parted⟩, account⟩
    obtain ⟨left, rfl, account⟩ := account.of_append plain parted
    exact ⟨left, ⟨said, marked, rfl⟩, account⟩
  · rintro ⟨after, ⟨said, marked, rfl⟩, account⟩
    exact ⟨after ++ ends, ⟨said, marked, List.append_assoc ..⟩, account.append plain⟩

private theorem english_takes {rest : List Char} : afterPhrase? ["login", "success"] text = some rest ↔
    ∃ said, Says ["login", "success"] said ∧ text = said ++ rest :=
  afterPhrase?_eq_some (List.cons_ne_nil _ _) (by decide)

private theorem chinese_takes {rest : List Char} : after? "登录成功" text = some rest ↔
    ∃ said, said = "登录成功".toList ∧ text = said ++ rest := by
  simp [after?_eq_some]

private theorem loginDigits?_append (line : List Char) (plain : ∀ c ∈ ends, isDigit c = false) :
    loginDigits? (line ++ ends) = loginDigits? line := by
  have without {rest : List Char} (inside : rest <:+ ends) : ∀ c ∈ rest, isDigit c = false :=
    fun c member => plain c (inside.mem member)
  unfold loginDigits?
  rw [firstAnswer?_append fun text rest inside => account_append english_takes (without inside) text,
    firstAnswer?_append fun text rest inside => account_append chinese_takes (without inside) text]

end lineEnds

private theorem recognises_login {take : List Char → Option (List Char)} {marks : List Char → Prop}
    (takes : ∀ {text rest}, take text = some rest ↔ ∃ said, marks said ∧ text = said ++ rest)
    (line : List Char) :
    Recognises (fun text => (take text).bind accountDigits?)
      (fun said after => marks said ∧ NamesAccount after) FirstAccount line where
  reads := by
    intro text digits found
    obtain ⟨after, taken, read⟩ := Option.bind_eq_some_iff.mp found
    obtain ⟨said, marked, rfl⟩ := takes.mp taken
    have account := accountDigits?_eq_some.mp read
    exact ⟨said, after, rfl, ⟨marked, namesAccount_iff.mpr ⟨digits, account⟩⟩, account⟩
  takes := by
    rintro said after _ ⟨marked, named⟩
    rw [takes.mpr ⟨said, marked, rfl⟩, Option.bind_some]
    exact accountDigits?_isSome.mpr named

/-- The account that is found in a line is the one behind the first marker. -/
theorem loginDigits?_eq_some (found : loginDigits? line = some digits) : ∃ before said after,
    FirstSaid EnglishLogin ChineseLogin line before said after ∧ FirstAccount after digits :=
  firstSaid_of_search (recognises_login english_takes line) (recognises_login chinese_takes line) found

/-- No digit stands in a marker, so the digits behind it begin a run. -/
theorem FirstSaid.letters {before : List Char}
    (first : FirstSaid EnglishLogin ChineseLogin line before said after) :
    said ≠ [] ∧ ∀ c ∈ said, isDigit c = false := by
  cases first with
  | english first => exact said_letters (by decide) first.found.1
  | chinese _ first =>
    rw [first.found.1]
    simp [isDigit]

private theorem classify_login {output : String} {account : AccountId}
    (shown : classify output = some (.loginSuccess account)) :
    ∃ digits, loginDigits? (Classification.visible output.toList) = some digits ∧
      account = .ofNat (numeral digits) := by
  rcases classify_cases shown with ⟨_, _, other⟩ | ⟨_, _, other⟩ | ⟨digits, found, same⟩ | other
  · cases other
  · cases other
  · exact ⟨digits, found, LifecycleEvent.loginSuccess.inj same⟩
  · cases other

/-- Accounts are found in the whole of a stripped line as they are in its visible part. -/
theorem loginDigits?_visible (line : List Char) :
    loginDigits? (Classification.visible line) = loginDigits? (Ansi.strip line) := by
  obtain ⟨ends, parted, ended⟩ := trimLineEnd_split (Ansi.strip line)
  have plain : ∀ c ∈ ends, isDigit c = false := by
    intro c member
    have either : c = '\r' ∨ c = '\n' := by simpa [isLineEnd] using ended c member
    rcases either with rfl | rfl <;> rfl
  rw [Classification.visible, ← loginDigits?_append _ plain, ← parted]

/-- The account of a successful login is a whole run of digits in the stripped line: the first one
behind the first marker that has an account behind it. It is read as a number without fail. -/
theorem login_account_is_whole_run (output : String) :
    (∀ account, classify output = some (.loginSuccess account) →
      ∃ before said between digits after,
        FirstSaid EnglishLogin ChineseLogin (stripAnsi output).toList before said
          (between ++ digits ++ after) ∧
        (∀ c ∈ between, isDigit c = false) ∧ WholeRun (before ++ said ++ between) digits after ∧
        number? digits = some account ∧ account.toNat = numeral digits ∧
        account.toNat < 10 ^ 12) ∧
    ∀ digits, loginDigits? (Classification.visible output.toList) = some digits →
      (number? digits).isSome = true := by
  rw [stripAnsi, String.toList_ofList, loginDigits?_visible]
  constructor
  · intro account shown
    obtain ⟨digits, found, rfl⟩ := classify_login shown
    rw [loginDigits?_visible] at found
    obtain ⟨before, said, _, first, named⟩ := loginDigits?_eq_some found
    have small := named.numeral_lt
    have number := named.number
    obtain ⟨between, after, rfl, none, all, ended, least, most⟩ := named
    have value : (UInt64.ofNat (numeral digits)).toNat = numeral digits :=
      UInt64.toNat_ofNat_of_lt (Nat.lt_trans small (by decide))
    obtain ⟨present, letters⟩ := first.letters
    refine ⟨before, said, between, digits, after, first, none, ⟨?_, all, ended, least, most⟩, number,
      value, value.symm ▸ small⟩
    intro c last
    rw [List.append_assoc, List.getLast?_append_of_ne_nil _ (by simp [present])] at last
    rcases List.mem_append.mp (List.mem_of_getLast? last) with early | late
    · exact letters c early
    · exact none c late
  · intro digits found
    obtain ⟨_, _, _, _, named⟩ := loginDigits?_eq_some found
    rw [named.number]
    rfl

/-- The run behind the first English marker is too short, and the Chinese one stands before both. -/
theorem login_account_is_read_behind_second_marker :
    classify "登录成功 99999 login success 1234, \x1b[32mLogin \x1b[0m\u017Fuccess: 100001\r\n" =
        some (.loginSuccess 100001) ∧
      ∃ before said between digits after,
        FirstSaid EnglishLogin ChineseLogin
          (stripAnsi "登录成功 99999 login success 1234, \x1b[32mLogin \x1b[0m\u017Fuccess: 100001\r\n").toList
          before said (between ++ digits ++ after) ∧
        WholeRun (before ++ said ++ between) digits after ∧ number? digits = some 100001 := by
  have shown : classify "登录成功 99999 login success 1234, \x1b[32mLogin \x1b[0m\u017Fuccess: 100001\r\n" =
      some (.loginSuccess 100001) := by decide +kernel
  obtain ⟨before, said, between, digits, after, first, _, whole, number, _⟩ :=
    (login_account_is_whole_run _).1 100001 shown
  exact ⟨shown, before, said, between, digits, after, first, whole, number⟩

end accounts

section failures

def EnglishFailure (said _after : List Char) : Prop :=
  ∃ quick gap login space failure, Spells "quick" quick ∧ allBlank gap = true ∧
    Spells "login" login ∧ allBlank space = true ∧
    (Spells "error" failure ∨ Spells "failed" failure ∨ Spells "failure" failure) ∧
    said = quick ++ gap ++ login ++ space ++ failure

def ChineseFailure (said _after : List Char) : Prop :=
  said = "快速登录错误".toList ∨ said = "快速登录失败".toList

/-- What is left of a text behind the separators that it begins with. -/
def IsRest (after message : List Char) : Prop :=
  message = after.dropWhile isSeparator

variable {said after message : List Char}

theorem message?_eq_some (found : message? text = some message) : IsRest text message := by
  simp only [message?] at found
  split at found
  · cases found
  · cases found
    rfl

private theorem recognises_englishFailure (single : '\n' ∉ line) :
    Recognises quickLoginAt? EnglishFailure IsRest line where
  reads := by
    intro text message found
    have quick : Lower "quick" := by decide
    have login : Lower "login" := by decide
    simp only [quickLoginAt?, Option.bind_eq_bind, Option.bind_eq_some_iff,
      afterFolded?_eq_some quick, afterFolded?_dropBlanks login] at found
    obtain ⟨_, ⟨first, isQuick, rfl⟩, _, ⟨gap, second, blank, isLogin, rfl⟩, after, failed, told⟩ := found
    obtain ⟨space, failure, alsoBlank, fails, rfl⟩ := afterFailure?_dropBlanks failed
    exact ⟨first ++ gap ++ second ++ space ++ failure, after, by simp,
      ⟨first, gap, second, space, failure, isQuick, blank, isLogin, alsoBlank, fails, rfl⟩,
      message?_eq_some told⟩
  takes := by
    rintro said after inside ⟨quick, gap, login, space, failure, isQuick, blank, isLogin, also, fails, rfl⟩
    refine (quickLoginAt?_isSome fun member => single (inside.mem member)).mpr
      ⟨quick, gap, login, space, failure, after, isQuick, blank, isLogin, also, fails, by simp⟩

private theorem recognises_chineseFailure (single : '\n' ∉ line) :
    Recognises quickLoginChineseAt? ChineseFailure IsRest line where
  reads := by
    intro text message found
    simp only [quickLoginChineseAt?, Option.orElse_eq_or, Option.bind_eq_some_iff,
      Option.or_eq_some_iff, after?_eq_some] at found
    obtain ⟨after, parted | ⟨_, parted⟩, told⟩ := found
    · exact ⟨_, after, parted, .inl rfl, message?_eq_some told⟩
    · exact ⟨_, after, parted, .inr rfl, message?_eq_some told⟩
  takes := by
    intro said after inside marked
    exact (quickLoginChineseAt?_isSome fun member => single (inside.mem member)).mpr
      ⟨said, after, marked, rfl⟩

private theorem quickLoginMessage?_eq_some (single : '\n' ∉ line)
    (found : quickLoginMessage? line = some message) : ∃ before said after,
      FirstSaid EnglishFailure ChineseFailure line before said after ∧ IsRest after message :=
  firstSaid_of_search (recognises_englishFailure single) (recognises_chineseFailure single) found

private theorem visible_of_spells {word : String} (lower : Lower word) (spells : Spells word said) :
    Visible said := by
  cases said with
  | nil => exact absurd spells.symm lower.1
  | cons c rest =>
    refine ⟨c, List.mem_cons_self, not_blank_of_folded (lower.2 _ ?_)⟩
    rw [← spells]
    exact List.mem_cons_self

/-- Something else than white space stands in a line with a marker. -/
theorem FirstSaid.visible {before : List Char}
    (first : FirstSaid EnglishFailure ChineseFailure line before said after) : Visible line := by
  have visible : Visible said := by
    cases first with
    | english first =>
      obtain ⟨quick, gap, login, space, failure, isQuick, _, _, _, _, rfl⟩ := first.found
      obtain ⟨c, member, seen⟩ := visible_of_spells (by decide) isQuick
      exact ⟨c, by simp [member], seen⟩
    | chinese _ first =>
      rcases first.found with rfl | rfl
      · exact ⟨'快', by decide, by decide⟩
      · exact ⟨'快', by decide, by decide⟩
  obtain ⟨c, member, seen⟩ := visible
  exact ⟨c, by simp [first.parted, member], seen⟩

theorem trim_ne_nil (visible : Visible text) : trim text ≠ [] := by
  obtain ⟨c, member, seen⟩ := visible
  intro empty
  have blank := List.all_eq_true.mp (trim_eq_nil_iff.mp empty) c member
  rw [seen] at blank
  cases blank

private theorem trim_within (text : List Char) : trim text <:+: text := by
  have part : trim text <+: dropBlanks text := List.rdropWhile_prefix isBlank _
  exact part.isInfix.trans (List.dropWhile_suffix isBlank).isInfix

/-- What is left behind the separators is empty, or it begins with something that can be seen. -/
theorem IsRest.visible (rest : IsRest after message) (more : after.all isSeparator = false) :
    Visible message := by
  subst rest
  have present : after.dropWhile isSeparator ≠ [] := by
    intro empty
    have all := List.all_eq_true.mpr (List.dropWhile_eq_nil_iff.mp empty)
    rw [more] at all
    cases all
  obtain ⟨c, tail, split⟩ := List.exists_cons_of_ne_nil present
  have head := List.head?_dropWhile_not isSeparator after
  rw [split, List.head?_cons] at head
  refine ⟨c, by simp [split], ?_⟩
  simp only [isSeparator, Bool.or_eq_false_iff] at head
  exact head.1.1.1

private theorem quickLoginText_eq (rest : IsRest after message) :
    Classification.quickLoginText line message =
      if after.all isSeparator then trim line else trim message := by
  cases all : after.all isSeparator with
  | true =>
    have empty : message = [] :=
      rest.trans (List.dropWhile_eq_nil_iff.mpr (List.all_eq_true.mp all))
    subst empty
    rfl
  | false =>
    have present := trim_ne_nil (rest.visible all)
    unfold Classification.quickLoginText
    split
    · rename_i empty
      exact absurd empty present
    · rfl

private theorem classify_failure {output message : String}
    (shown : classify output = some (.quickLoginError message)) :
    ∃ rest, quickLoginMessage? (Classification.visible output.toList) = some rest ∧
      message.toList =
        Classification.quickLoginText (Classification.visible output.toList) rest := by
  rcases classify_cases shown with ⟨_, _, other⟩ | ⟨rest, found, same⟩ | ⟨_, _, other⟩ | other
  · cases other
  · rw [LifecycleEvent.quickLoginError.inj same, String.toList_ofList]
    exact ⟨rest, found, rfl⟩
  · cases other
  · cases other

/-- The message of a failed quick login is a tidy part of its line: what follows the first marker
and the separators behind it, or the whole line where nothing else follows. -/
theorem quick_login_message_follows_marker {output message : String} {line : List Char}
    (shown : Classification.visible output.toList = line) (single : '\n' ∉ line)
    (failed : classify output = some (.quickLoginError message)) :
    Tidy message.toList ∧ message.toList <:+: line ∧ ∃ before said after,
      FirstSaid EnglishFailure ChineseFailure line before said after ∧
      message.toList =
        if after.all isSeparator then trim line else trim (after.dropWhile isSeparator) := by
  obtain ⟨rest, found, text⟩ := classify_failure failed
  rw [shown] at found text
  obtain ⟨before, said, after, first, isRest⟩ := quickLoginMessage?_eq_some single found
  rw [quickLoginText_eq isRest] at text
  have inside : rest <:+: line := by
    rw [first.parted, isRest]
    exact ((List.dropWhile_suffix isSeparator).trans (List.suffix_append _ after)).isInfix
  refine ⟨?_, ?_, before, said, after, first, isRest ▸ text⟩
  · rw [text]
    split
    · exact trim_tidy (trim_ne_nil first.visible)
    · rename_i more
      exact trim_tidy (trim_ne_nil (isRest.visible (Bool.eq_false_iff.mpr more)))
  · rw [text]
    split
    · exact trim_within line
    · exact (trim_within rest).trans inside

/-- The Kelvin sign is a letter of the marker, and the Chinese marker before it does not count. -/
theorem quick_login_message_follows_english_marker :
    '\n' ∉ "快速登录失败 a, Quic\u212Alogin FAILED：- token expired ".toList ∧
      classify "快速登录失败 a, Quic\u212Alogin FAILED：- token expired \r\n" =
        some (.quickLoginError "token expired") ∧
      Tidy "token expired".toList ∧ ∃ before said after,
        FirstSaid EnglishFailure ChineseFailure
          "快速登录失败 a, Quic\u212Alogin FAILED：- token expired ".toList before said after ∧
        "token expired".toList = if after.all isSeparator then
          trim "快速登录失败 a, Quic\u212Alogin FAILED：- token expired ".toList
        else trim (after.dropWhile isSeparator) := by
  have shown : Classification.visible
      "快速登录失败 a, Quic\u212Alogin FAILED：- token expired \r\n".toList =
      "快速登录失败 a, Quic\u212Alogin FAILED：- token expired ".toList := by decide +kernel
  have single : '\n' ∉ "快速登录失败 a, Quic\u212Alogin FAILED：- token expired ".toList := by simp
  have failed : classify "快速登录失败 a, Quic\u212Alogin FAILED：- token expired \r\n" =
      some (.quickLoginError "token expired") := by decide +kernel
  obtain ⟨tidy, _, follows⟩ := quick_login_message_follows_marker shown single failed
  exact ⟨single, failed, tidy, follows⟩

end failures

end BotKeeper.Proofs
