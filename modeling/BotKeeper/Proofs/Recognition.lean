import BotKeeper.Classification
import BotKeeper.Proofs.Phrases

/-! Which lines mean something. Each family of markers is described by what stands anywhere in
a line, without regard to how the line is searched. A line of output means what the first
family says that stands in it, and nothing if none does. -/

namespace BotKeeper.Proofs
open Text Marker

def Visible (text : List Char) : Prop :=
  ∃ c ∈ text, isBlank c = false

/-- The first run of digits in the text, up to its end, is as long as the number of an account. -/
def NamesAccount (text : List Char) : Prop :=
  ∃ between digits rest, text = between ++ digits ++ rest ∧ (∀ c ∈ between, isDigit c = false) ∧
    (∀ c ∈ digits, isDigit c = true) ∧ (∀ c ∈ rest.head?, isDigit c = false) ∧
    5 ≤ digits.length ∧ digits.length ≤ 12

def FirstAccount (text digits : List Char) : Prop :=
  ∃ between rest, text = between ++ digits ++ rest ∧ (∀ c ∈ between, isDigit c = false) ∧
    (∀ c ∈ digits, isDigit c = true) ∧ (∀ c ∈ rest.head?, isDigit c = false) ∧
    5 ≤ digits.length ∧ digits.length ≤ 12

/-- A login code stands in the line: itself, as a link, or as the place of a picture. The
shortest of the three markers counts only where a word may begin. -/
inductive ShowsCode : List Char → Prop where
  | itself {before after : List Char}
      (opened : ∀ c ∈ before.getLast?, isBlank c = true ∨ c = ']') (code : Visible after) :
      ShowsCode (before ++ "QR:".toList ++ after)
  | link {before after : List Char} {colon : Char} (pointed : colon = ':' ∨ colon = '：')
      (code : Visible after) : ShowsCode (before ++ "二维码解码URL".toList ++ colon :: after)
  | picture {before after : List Char} (place : after ≠ []) :
      ShowsCode (before ++ "二维码已保存到".toList ++ after)

inductive TellsFailure : List Char → Prop where
  | english {before quick gap login space failure after : List Char}
      (isQuick : Spells "quick" quick) (blank : allBlank gap = true)
      (isLogin : Spells "login" login) (alsoBlank : allBlank space = true)
      (fails : Spells "error" failure ∨ Spells "failed" failure ∨ Spells "failure" failure) :
      TellsFailure (before ++ quick ++ gap ++ login ++ space ++ failure ++ after)
  | chinese {before marker after : List Char}
      (fails : marker = "快速登录错误".toList ∨ marker = "快速登录失败".toList) :
      TellsFailure (before ++ marker ++ after)

inductive TellsLogin : List Char → Prop where
  | english {before said after : List Char} (spoken : Says ["login", "success"] said)
      (account : NamesAccount after) : TellsLogin (before ++ said ++ after)
  | chinese {before after : List Char} (account : NamesAccount after) :
      TellsLogin (before ++ "登录成功".toList ++ after)

inductive TellsOffline : List Char → Prop where
  | english {before said after : List Char}
      (spoken : Says ["account", "status", "changed", "to", "offline"] said) :
      TellsOffline (before ++ said ++ after)
  | chinese {before after : List Char} :
      TellsOffline (before ++ "账号状态变更为离线".toList ++ after)

variable {line text : List Char}

/-- A search finds something if there is a place to find it at. -/
theorem firstAnswer?_isSome {recognise : List Char → Option α} :
    (firstAnswer? recognise line).isSome = true ↔
      ∃ before after, line = before ++ after ∧ (recognise after).isSome = true := by
  induction line with
  | nil =>
    simp only [firstAnswer?, List.nil_eq, List.append_eq_nil_iff]
    constructor
    · intro found
      exact ⟨[], [], ⟨rfl, rfl⟩, found⟩
    · rintro ⟨before, after, ⟨rfl, rfl⟩, found⟩
      exact found
  | cons c rest ih =>
    simp only [firstAnswer?]
    cases here : recognise (c :: rest) with
    | some answer =>
      simp only [Option.isSome_some, true_iff]
      exact ⟨[], c :: rest, rfl, by simp [here]⟩
    | none =>
      rw [ih]
      constructor
      · rintro ⟨before, after, rfl, found⟩
        exact ⟨c :: before, after, rfl, found⟩
      · rintro ⟨before, after, split, found⟩
        cases before with
        | nil =>
          obtain rfl : c :: rest = after := split
          simp [here] at found
        | cons first before =>
          obtain ⟨rfl, rfl⟩ := List.cons.inj split
          exact ⟨before, after, rfl, found⟩

section codes

theorem firstWord?_isSome : (firstWord? text).isSome = true ↔ Visible text := by
  obtain ⟨gap, blank, parted⟩ := exists_gap text
  have begins := dropBlanks_begins text
  simp only [firstWord?]
  cases left : dropBlanks text with
  | nil =>
    rw [left, List.append_nil] at parted
    subst parted
    simpa [Visible, allBlank] using blank
  | cons c rest =>
    rw [left] at parted begins
    have visible := begins c rfl
    simp only [List.takeWhile_cons, visible, Bool.not_false, if_true, Option.isSome_some, true_iff]
    exact ⟨c, by simp [parted], visible⟩

theorem shortCode?_isSome : (shortCode? line).isSome = true ↔
    ∃ before after, line = before ++ "QR:".toList ++ after ∧
      (∀ c ∈ before.getLast?, isBlank c = true ∨ c = ']') ∧ Visible after := by
  have marked : ∀ text, ((after? "QR:" text).bind firstWord?).isSome = true ↔
      ∃ after, text = "QR:".toList ++ after ∧ Visible after := by
    intro text
    simp only [Option.isSome_bind, Option.any_eq_true, after?_eq_some, firstWord?_isSome]
  have opened : ∀ text, (codeAfterOpening? text).isSome = true ↔
      ∃ c after, text = c :: ("QR:".toList ++ after) ∧ (isBlank c = true ∨ c = ']') ∧
        Visible after := by
    intro text
    cases text with
    | nil => simp [codeAfterOpening?]
    | cons c rest =>
      simp only [codeAfterOpening?]
      split
      · rename_i opens
        simp only [opensCode, Bool.or_eq_true, beq_iff_eq] at opens
        rw [marked]
        constructor
        · rintro ⟨after, rfl, visible⟩
          exact ⟨c, after, rfl, opens, visible⟩
        · rintro ⟨_, after, same, _, visible⟩
          exact ⟨after, (List.cons.inj same).2, visible⟩
      · rename_i closed
        simp only [opensCode, Bool.or_eq_true, beq_iff_eq] at closed
        simp only [Option.isSome_none, Bool.false_eq_true, false_iff]
        rintro ⟨_, after, same, opens, _⟩
        obtain ⟨rfl, _⟩ := List.cons.inj same
        exact closed opens
  have either : (shortCode? line).isSome = true ↔
      ((after? "QR:" line).bind firstWord?).isSome = true ∨
        (firstAnswer? codeAfterOpening? line).isSome = true := by
    simp only [shortCode?]
    split <;> rename_i here <;> simp [here]
  rw [either, marked, firstAnswer?_isSome]
  simp only [opened]
  constructor
  · rintro (⟨after, rfl, visible⟩ | ⟨before, _, rfl, c, after, rfl, opens, visible⟩)
    · exact ⟨[], after, rfl, by simp, visible⟩
    · refine ⟨before ++ [c], after, by simp, ?_, visible⟩
      intro last final
      obtain rfl : c = last := by simpa using final
      exact opens
  · rintro ⟨before, after, rfl, opens, visible⟩
    rcases List.eq_nil_or_concat before with rfl | ⟨earlier, c, rfl⟩
    · exact .inl ⟨after, rfl, visible⟩
    · exact .inr ⟨earlier, _, by simp, c, after, rfl, opens c (by simp), visible⟩

theorem linkAt?_isSome : (linkAt? text).isSome = true ↔
    ∃ colon after, text = "二维码解码URL".toList ++ colon :: after ∧ (colon = ':' ∨ colon = '：') ∧
      Visible after := by
  have pointed : ∀ c, isColon c = true ↔ c = ':' ∨ c = '：' := by
    simp [isColon]
  simp only [linkAt?]
  constructor
  · intro found
    split at found
    · rename_i c rest taken
      split at found
      · rename_i colon
        exact ⟨c, rest, after?_eq_some.mp taken, (pointed c).mp colon, firstWord?_isSome.mp found⟩
      · cases found
    · cases found
  · rintro ⟨c, rest, marked, colon, visible⟩
    rw [after?_eq_some.mpr marked]
    simp only [(pointed c).mpr colon, if_true]
    exact firstWord?_isSome.mpr visible

private theorem mem_of_mem_trimEnd {c : Char} (member : c ∈ trimEnd text) : c ∈ text := by
  rw [trimEnd, trimEndWhile, List.mem_reverse] at member
  exact List.mem_reverse.mp (List.dropWhile_subset isBlank member)

/-- Where no line feed is left, anything after the marker has something that can be shown. -/
theorem savedAs?_isSome (single : '\n' ∉ text) : (savedAs? text).isSome = true ↔ text ≠ [] := by
  simp only [savedAs?]
  split
  · simp only [Option.isSome_map, List.find?_isSome, List.mem_reverse, bne_iff_ne]
    constructor
    · rintro ⟨c, member, _⟩
      exact List.ne_nil_of_mem member
    · intro some
      obtain ⟨c, member⟩ := List.exists_mem_of_ne_nil text some
      exact ⟨c, member, fun feed => single (feed ▸ member)⟩
  · rename_i nonempty
    have inside : ∀ c ∈ trimEnd (dropBlanks text), c ∈ text := fun c member =>
      List.dropWhile_subset isBlank (mem_of_mem_trimEnd member)
    have whole : (trimEnd (dropBlanks text)).contains '\n' = false := by
      simpa using fun member => single (inside _ member)
    simp only [whole, Bool.false_eq_true, if_false, Option.isSome_some, true_iff]
    rintro rfl
    exact nonempty rfl

private theorem savedAt?_isSome (single : '\n' ∉ text) : (savedAt? text).isSome = true ↔
    ∃ after, text = "二维码已保存到".toList ++ after ∧ after ≠ [] := by
  simp only [savedAt?, Option.isSome_bind, Option.any_eq_true, after?_eq_some]
  constructor
  · rintro ⟨after, rfl, found⟩
    exact ⟨after, rfl, (savedAs?_isSome fun member => single (by simp [member])).mp found⟩
  · rintro ⟨after, rfl, some⟩
    exact ⟨after, rfl, (savedAs?_isSome fun member => single (by simp [member])).mpr some⟩

/-- A login code is found in a line without line feeds if one stands there. -/
theorem qrPayload?_isSome (single : '\n' ∉ line) :
    (qrPayload? line).isSome = true ↔ ShowsCode line := by
  simp only [qrPayload?, Option.orElse_eq_or, Option.isSome_or,
    Bool.or_eq_true, shortCode?_isSome, firstAnswer?_isSome, linkAt?_isSome]
  constructor
  · rintro (⟨before, after, rfl, opened, visible⟩ |
      ⟨before, _, rfl, colon, after, rfl, pointed, visible⟩ | ⟨before, after, rfl, found⟩)
    · exact .itself opened visible
    · rw [← List.append_assoc]
      exact .link pointed visible
    · obtain ⟨place, rfl, some⟩ := (savedAt?_isSome fun member => single (by simp [member])).mp found
      rw [← List.append_assoc]
      exact .picture some
  · intro shows
    cases shows with
    | @itself before after opened visible => exact .inl ⟨before, after, rfl, opened, visible⟩
    | @link before after colon pointed visible =>
      exact .inr (.inl ⟨before, _, by rw [List.append_assoc], colon, after, rfl, pointed, visible⟩)
    | @picture before after some =>
      refine .inr (.inr ⟨before, _, by rw [List.append_assoc], ?_⟩)
      apply (savedAt?_isSome _).mpr
      · exact ⟨after, rfl, some⟩
      · exact fun member => single (by rw [List.append_assoc]; exact List.mem_append_right _ member)

end codes

section failures

private theorem message?_isSome (single : '\n' ∉ text) : (message? text).isSome = true := by
  have whole : (text.dropWhile isSeparator).contains '\n' = false := by
    simpa using fun member => single (List.dropWhile_subset isSeparator member)
  simp only [message?, whole, Bool.false_eq_true, if_false, Option.isSome_some]

private theorem lower_failures : Lower "error" ∧ Lower "failed" ∧ Lower "failure" := by
  decide

theorem afterFailure?_dropBlanks {after : List Char}
    (taken : afterFailure? (dropBlanks text) = some after) :
    ∃ space failure, allBlank space = true ∧
      (Spells "error" failure ∨ Spells "failed" failure ∨ Spells "failure" failure) ∧
      text = space ++ (failure ++ after) := by
  obtain ⟨error, failed, failure⟩ := lower_failures
  simp only [afterFailure?, Option.orElse_eq_or, Option.or_eq_some_iff] at taken
  rcases taken with taken | ⟨_, taken | ⟨_, taken⟩⟩
  · obtain ⟨space, said, blank, spells, rfl⟩ := (afterFolded?_dropBlanks error).mp taken
    exact ⟨space, said, blank, .inl spells, rfl⟩
  · obtain ⟨space, said, blank, spells, rfl⟩ := (afterFolded?_dropBlanks failed).mp taken
    exact ⟨space, said, blank, .inr (.inl spells), rfl⟩
  · obtain ⟨space, said, blank, spells, rfl⟩ := (afterFolded?_dropBlanks failure).mp taken
    exact ⟨space, said, blank, .inr (.inr spells), rfl⟩

/-- One of the words for a failure, after a gap that may be empty, is enough. -/
theorem failureMessage_iff (single : '\n' ∉ text) :
    (∃ rest, afterFailure? (dropBlanks text) = some rest ∧ (message? rest).isSome = true) ↔
      ∃ space failure after, allBlank space = true ∧
        (Spells "error" failure ∨ Spells "failed" failure ∨ Spells "failure" failure) ∧
        text = space ++ (failure ++ after) := by
  obtain ⟨error, failed, failure⟩ := lower_failures
  constructor
  · rintro ⟨after, taken, _⟩
    obtain ⟨space, said, blank, spells, parted⟩ := afterFailure?_dropBlanks taken
    exact ⟨space, said, after, blank, spells, parted⟩
  · rintro ⟨space, said, after, blank, spells, parted⟩
    have found : (afterFailure? (dropBlanks text)).isSome = true := by
      simp only [afterFailure?, Option.orElse_eq_or, Option.isSome_or, Bool.or_eq_true,
        Option.isSome_iff_exists, afterFolded?_dropBlanks error, afterFolded?_dropBlanks failed,
        afterFolded?_dropBlanks failure]
      rcases spells with spells | spells | spells
      · exact .inl ⟨after, space, said, blank, spells, parted⟩
      · exact .inr (.inl ⟨after, space, said, blank, spells, parted⟩)
      · exact .inr (.inr ⟨after, space, said, blank, spells, parted⟩)
    -- The words overlap, so what is left may not be what stands after this one.
    obtain ⟨rest, taken⟩ := Option.isSome_iff_exists.mp found
    obtain ⟨_, _, _, _, same⟩ := afterFailure?_dropBlanks taken
    exact ⟨rest, taken, message?_isSome fun member => single (by simp [same, member])⟩

theorem quickLoginAt?_isSome (single : '\n' ∉ text) : (quickLoginAt? text).isSome = true ↔
    ∃ quick gap login space failure after, Spells "quick" quick ∧ allBlank gap = true ∧
      Spells "login" login ∧ allBlank space = true ∧
      (Spells "error" failure ∨ Spells "failed" failure ∨ Spells "failure" failure) ∧
      text = quick ++ (gap ++ (login ++ (space ++ (failure ++ after)))) := by
  have quick : Lower "quick" := by decide
  have login : Lower "login" := by decide
  simp only [quickLoginAt?, Option.bind_eq_bind, Option.isSome_bind, Option.any_eq_true,
    afterFolded?_eq_some quick, afterFolded?_dropBlanks login]
  constructor
  · rintro ⟨_, ⟨said, spells, rfl⟩, rest, ⟨gap, also, blank, agrees, rfl⟩, found⟩
    have within : '\n' ∉ rest := fun member => single (by simp [member])
    obtain ⟨space, failure, after, empty, fails, rfl⟩ := (failureMessage_iff within).mp found
    exact ⟨said, gap, also, space, failure, after, spells, blank, agrees, empty, fails, rfl⟩
  · rintro ⟨said, gap, also, space, failure, after, spells, blank, agrees, empty, fails, rfl⟩
    refine ⟨_, ⟨said, spells, rfl⟩, _, ⟨gap, also, blank, agrees, rfl⟩, ?_⟩
    apply (failureMessage_iff _).mpr
    · exact ⟨space, failure, after, empty, fails, rfl⟩
    · intro member
      exact single (List.mem_append_right _ (List.mem_append_right _ (List.mem_append_right _ member)))

theorem quickLoginChineseAt?_isSome (single : '\n' ∉ text) :
    (quickLoginChineseAt? text).isSome = true ↔ ∃ marker after,
      (marker = "快速登录错误".toList ∨ marker = "快速登录失败".toList) ∧ text = marker ++ after := by
  have told : ∀ {marker after}, text = marker ++ after → (message? after).isSome = true :=
    fun parted => message?_isSome fun member => single (by simp [parted, member])
  simp only [quickLoginChineseAt?, Option.orElse_eq_or, Option.isSome_bind, Option.any_eq_true,
    Option.or_eq_some_iff, after?_eq_some]
  constructor
  · rintro ⟨after, parted | ⟨_, parted⟩, _⟩
    · exact ⟨_, after, .inl rfl, parted⟩
    · exact ⟨_, after, .inr rfl, parted⟩
  · rintro ⟨marker, after, rfl | rfl, parted⟩
    · exact ⟨after, .inl parted, told parted⟩
    · refine ⟨after, .inr ⟨?_, parted⟩, told parted⟩
      rw [Option.eq_none_iff_forall_ne_some]
      intro rest other
      have differ := parted.symm.trans (after?_eq_some.mp other)
      simp at differ

/-- A failed quick login is found in a line without line feeds if one stands there. -/
theorem quickLoginMessage?_isSome (single : '\n' ∉ line) :
    (quickLoginMessage? line).isSome = true ↔ TellsFailure line := by
  have within : ∀ {before after}, line = before ++ after → '\n' ∉ after :=
    fun parted member => single (by simp [parted, member])
  simp only [quickLoginMessage?, Option.orElse_eq_or, Option.isSome_or, Bool.or_eq_true,
    firstAnswer?_isSome]
  constructor
  · rintro (⟨before, after, parted, found⟩ | ⟨before, after, parted, found⟩)
    · obtain ⟨quick, gap, login, space, failure, rest, isQuick, blank, isLogin, also, fails, rfl⟩ :=
        (quickLoginAt?_isSome (within parted)).mp found
      have tells : TellsFailure (before ++ quick ++ gap ++ login ++ space ++ failure ++ rest) :=
        .english isQuick blank isLogin also fails
      simpa [parted] using tells
    · obtain ⟨marker, rest, fails, rfl⟩ := (quickLoginChineseAt?_isSome (within parted)).mp found
      rw [parted, ← List.append_assoc]
      exact .chinese fails
  · intro tells
    cases tells with
    | @english before quick gap login space failure rest isQuick blank isLogin also fails =>
      have parted : before ++ quick ++ gap ++ login ++ space ++ failure ++ rest =
          before ++ (quick ++ (gap ++ (login ++ (space ++ (failure ++ rest))))) := by simp
      refine .inl ⟨_, _, parted, (quickLoginAt?_isSome (within parted)).mpr ?_⟩
      exact ⟨quick, gap, login, space, failure, rest, isQuick, blank, isLogin, also, fails, rfl⟩
    | @chinese before marker rest fails =>
      have parted : before ++ marker ++ rest = before ++ (marker ++ rest) := List.append_assoc ..
      exact .inr ⟨_, _, parted,
        (quickLoginChineseAt?_isSome (within parted)).mpr ⟨marker, rest, fails, rfl⟩⟩

end failures

section logins

theorem accountDigits?_eq_some {digits : List Char} :
    accountDigits? text = some digits ↔ FirstAccount text digits := by
  simp only [accountDigits?]
  constructor
  · intro found
    split at found
    · rename_i long
      simp only [Bool.and_eq_true, decide_eq_true_eq] at long
      cases found
      refine ⟨text.takeWhile fun c => !isDigit c,
        (text.dropWhile fun c => !isDigit c).dropWhile isDigit, ?_, ?_, ?_, ?_, long⟩
      · simp
      · intro c member
        simpa using List.all_eq_true.mp List.all_takeWhile c member
      · exact List.all_eq_true.mp List.all_takeWhile
      · intro c head
        have first := List.head?_dropWhile_not isDigit (text.dropWhile fun c => !isDigit c)
        rw [Option.mem_def.mp head] at first
        exact first
    · cases found
  · rintro ⟨between, rest, rfl, none, all, ended, least, most⟩
    have dropped : (between ++ digits ++ rest).dropWhile (fun c => !isDigit c) = digits ++ rest := by
      rw [List.append_assoc, List.dropWhile_append_of_pos (by simpa using none)]
      cases digits with
      | nil => simp at least
      | cons first more => exact List.dropWhile_cons_of_neg (by simp [all first])
    have taken : (digits ++ rest).takeWhile isDigit = digits := by
      rw [List.takeWhile_append_of_pos all]
      cases rest with
      | nil => simp
      | cons c rest => simp [ended c rfl]
    simp only [dropped, taken, least, most, decide_true, Bool.and_self, if_true]

theorem namesAccount_iff : NamesAccount text ↔ ∃ digits, FirstAccount text digits :=
  exists_comm

theorem accountDigits?_isSome : (accountDigits? text).isSome = true ↔ NamesAccount text := by
  simp only [Option.isSome_iff_exists, accountDigits?_eq_some, namesAccount_iff]

private theorem loginDigits?_isSome : (loginDigits? line).isSome = true ↔ TellsLogin line := by
  have words : ∀ word ∈ ["login", "success"], Lower word := by decide
  simp only [loginDigits?, Option.orElse_eq_or, Option.isSome_or, Bool.or_eq_true,
    firstAnswer?_isSome, loginAt?, loginChineseAt?, Option.isSome_bind, Option.any_eq_true,
    afterPhrase?_eq_some (List.cons_ne_nil _ _) words, after?_eq_some, accountDigits?_isSome]
  constructor
  · rintro (⟨before, _, rfl, after, ⟨said, spoken, rfl⟩, account⟩ | ⟨before, _, rfl, after, rfl, account⟩)
    · rw [← List.append_assoc]
      exact .english spoken account
    · rw [← List.append_assoc]
      exact .chinese account
  · intro tells
    cases tells with
    | @english before said after spoken account =>
      exact .inl ⟨before, _, List.append_assoc .., after, ⟨said, spoken, rfl⟩, account⟩
    | @chinese before after account =>
      exact .inr ⟨before, _, List.append_assoc .., after, rfl, account⟩

private theorem saysOffline_iff : saysOffline line = true ↔ TellsOffline line := by
  have words : ∀ word ∈ ["account", "status", "changed", "to", "offline"], Lower word := by decide
  have found : ∀ text, (offlineAt? text).isSome = true ↔
      (∃ after, text = "账号状态变更为离线".toList ++ after) ∨ ∃ after said,
        Says ["account", "status", "changed", "to", "offline"] said ∧ text = said ++ after := by
    intro text
    simp only [offlineAt?, Option.orElse_eq_or, Option.isSome_or, Bool.or_eq_true,
      Option.isSome_iff_exists, after?_eq_some, afterPhrase?_eq_some (List.cons_ne_nil _ _) words]
  simp only [saysOffline, firstAnswer?_isSome, found]
  constructor
  · rintro ⟨before, _, rfl, ⟨after, rfl⟩ | ⟨after, said, spoken, rfl⟩⟩
    · rw [← List.append_assoc]
      exact .chinese
    · rw [← List.append_assoc]
      exact .english spoken
  · intro tells
    cases tells with
    | @english before said after spoken =>
      exact ⟨before, _, List.append_assoc .., .inr ⟨after, said, spoken, rfl⟩⟩
    | @chinese before after => exact ⟨before, _, List.append_assoc .., .inl ⟨after, rfl⟩⟩

end logins

/-- A line of output without line feeds inside means what the first family says that stands in
it: a login code, a failed quick login, a login, or an account that went offline. -/
theorem classify_takes_first_family (output : String) {line : List Char}
    (shown : Classification.visible output.toList = line) (single : '\n' ∉ line) :
    ((∃ payload, classify output = some (.qrChallenge payload)) ↔ ShowsCode line) ∧
    ((∃ message, classify output = some (.quickLoginError message)) ↔
      ¬ShowsCode line ∧ TellsFailure line) ∧
    ((∃ account, classify output = some (.loginSuccess account)) ↔
      ¬ShowsCode line ∧ ¬TellsFailure line ∧ TellsLogin line) ∧
    (classify output = some .accountOffline ↔
      ¬ShowsCode line ∧ ¬TellsFailure line ∧ ¬TellsLogin line ∧ TellsOffline line) ∧
    (classify output = none ↔
      ¬ShowsCode line ∧ ¬TellsFailure line ∧ ¬TellsLogin line ∧ ¬TellsOffline line) := by
  rw [← qrPayload?_isSome single, ← quickLoginMessage?_isSome single, ← loginDigits?_isSome,
    ← saysOffline_iff]
  simp only [classify, shown, Classification.ofVisible?]
  cases qrPayload? line with
  | some payload => simp
  | none =>
    cases quickLoginMessage? line with
    | some message => simp
    | none =>
      cases loginDigits? line with
      | some digits => simp
      | none => cases saysOffline line <;> simp

/-- A line in colour tells of a failed quick login and of a login. -/
theorem classify_takes_failure_before_login :
    Classification.visible "\x1b[31mQuic\u212A loGin failed after login success 100001\x1b[0m\r\n".toList =
      "Quic\u212A loGin failed after login success 100001".toList ∧
    ¬ShowsCode "Quic\u212A loGin failed after login success 100001".toList ∧
    TellsFailure "Quic\u212A loGin failed after login success 100001".toList := by
  have shown : Classification.visible
      "\x1b[31mQuic\u212A loGin failed after login success 100001\x1b[0m\r\n".toList =
      "Quic\u212A loGin failed after login success 100001".toList := by decide +kernel
  obtain ⟨_, failure, _⟩ := classify_takes_first_family _ shown (by decide)
  exact ⟨shown, failure.mp ⟨"after login success 100001", by decide +kernel⟩⟩

end BotKeeper.Proofs
