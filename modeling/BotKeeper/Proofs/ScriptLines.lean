import BotKeeper.Proofs.DeclaredPaths
import Mathlib.Data.List.DropRight

/-! The lines of a launch script. Each value stands in quotes on one line, so a script can carry a
config exactly if its paths are texts, no value breaks a line, or the quotes of a batch file, and
the names of the variables need no quotes. Main statement: nothing else keeps a script from being
written, and cut at its line ends it has one line for each variable and a fixed number of others,
whatever the values are. -/

namespace BotKeeper.Proofs
open Script

/-- The pieces of a text, each up to where `ending` has been read, and some characters of the first
piece that were read before. What follows the last ending is a piece too, if there is anything. -/
def cutAt (ending read : List Char) : List Char → List (List Char)
  | [] => if read.isEmpty then [] else [read]
  | c :: rest =>
    if ending <:+ read ++ [c] then (read ++ [c]).rdrop ending.length :: cutAt ending [] rest
    else cutAt ending (read ++ [c]) rest

/-- A value with nothing in it that a line of a script for the target cannot hold. -/
structure Harmless (target : ScriptTarget) (value : String) : Prop where
  noFeed : '\n' ∉ value.toList
  noReturn : '\r' ∉ value.toList
  noNul : '\x00' ∉ value.toList
  noQuote : target = .batchFile → '"' ∉ value.toList

def IsLetter (c : Char) : Prop :=
  'A' ≤ c ∧ c ≤ 'Z' ∨ 'a' ≤ c ∧ c ≤ 'z'

def AsciiIdentifier (key : String) : Prop :=
  ∃ first rest, key.toList = first :: rest ∧ (IsLetter first ∨ first = '_') ∧
    ∀ c ∈ rest, IsLetter c ∨ '0' ≤ c ∧ c ≤ '9' ∨ c = '_'

def assignment : ScriptTarget → String × String → List Char
  | .shellScript, (key, value) => "export ".toList ++ key.toList ++ '=' :: Shell.word value.toList
  | .powerShell, (key, value) =>
    "$env:".toList ++ key.toList ++ " = ".toList ++ PowerShell.word value.toList
  | .batchFile, (key, value) =>
    "set \"".toList ++ key.toList ++ '=' :: Batch.word value.toList ++ ['"']

variable {target : ScriptTarget} {host : HostOs} {config : InstanceConfig} {text : String}

section cutting

variable {read piece start : List Char} {last : Char}

/-- A piece is cut off where the last character of the ending stands, if that is nowhere before. -/
theorem cutAt_ended (rest : List Char) (fresh : last ∉ piece) (ended : start <:+ read ++ piece) :
    cutAt (start ++ [last]) read (piece ++ last :: rest) =
      (read ++ piece).rdrop start.length :: cutAt (start ++ [last]) [] rest := by
  induction piece generalizing read with
  | nil =>
    rw [List.append_nil] at ended
    have whole : start ++ [last] <:+ read ++ [last] := by
      obtain ⟨front, rfl⟩ := ended
      exact ⟨front, by simp⟩
    simp [cutAt, whole, List.rdrop_concat_succ]
  | cons c piece ih =>
    have goesOn : ¬start ++ [last] <:+ read ++ [c] := by
      rintro ⟨front, same⟩
      rw [← List.append_assoc] at same
      have final : last = c := by simpa using congrArg List.getLast? same
      exact fresh (final ▸ List.mem_cons_self)
    have whole : read ++ c :: piece = read ++ [c] ++ piece := by simp
    rw [whole] at ended ⊢
    rw [← ih (fun member => fresh (List.mem_cons_of_mem _ member)) ended]
    simp [cutAt, goesOn]

private theorem cutAt_lines {lines : List (List Char)} (once : last ∉ start)
    (fresh : ∀ line ∈ lines, last ∉ line) :
    cutAt (start ++ [last]) [] (lines.flatMap (· ++ (start ++ [last]))) = lines := by
  induction lines with
  | nil => rfl
  | cons line lines ih =>
    have clean : last ∉ line ++ start := by simp [fresh line List.mem_cons_self, once]
    have split : (line :: lines).flatMap (· ++ (start ++ [last])) =
        (line ++ start) ++ last :: lines.flatMap (· ++ (start ++ [last])) := by simp
    have ended : start <:+ [] ++ (line ++ start) := ⟨line, rfl⟩
    rw [split, cutAt_ended _ clean ended,
      ih fun other member => fresh other (List.mem_cons_of_mem _ member)]
    simp [List.rdrop]

end cutting

/-- Cut at its line ends, a script falls into the lines that it was made of. -/
theorem cutAt_render (rendered : render config target host = .ok text) :
    cutAt target.lineEnd [] text.toList = scriptLines config target := by
  obtain ⟨_, carried, rfl⟩ := render_ok_iff.mp rendered
  have unfed : ∀ line ∈ scriptLines config target, '\n' ∉ line := fun line member feed =>
    Bool.noConfusion (scriptLines_oneLine carried line member _ feed)
  have ending : ∃ start, target.lineEnd = start ++ ['\n'] ∧ '\n' ∉ start := by
    cases target with
    | shellScript => exact ⟨[], rfl, by simp⟩
    | powerShell => exact ⟨['\r'], rfl, by simp⟩
    | batchFile => exact ⟨['\r'], rfl, by simp⟩
  obtain ⟨start, ending, once⟩ := ending
  rw [String.toList_ofList, ending]
  exact cutAt_lines once unfed

/-- Five lines of a batch file, or four of another script, stand before the variables, and two
behind them. -/
theorem scriptLines_eq (config : InstanceConfig) (target : ScriptTarget) :
    ∃ opening closing, scriptLines config target =
        opening ++ config.launchEnv.entries.map (assignment target) ++ closing ∧
      opening.length = (if target = .batchFile then 5 else 4) ∧ closing.length = 2 := by
  cases target with
  | shellScript => exact ⟨_, _, rfl, rfl, rfl⟩
  | powerShell => exact ⟨_, _, rfl, rfl, rfl⟩
  | batchFile => exact ⟨_, _, rfl, rfl, rfl⟩

section accepted

theorem oneLine_iff {text : List Char} :
    OneLine text ↔ '\n' ∉ text ∧ '\r' ∉ text ∧ '\x00' ∉ text := by
  constructor
  · intro oneLine
    exact ⟨fun feed => Bool.noConfusion (oneLine _ feed),
      fun carriage => Bool.noConfusion (oneLine _ carriage),
      fun nul => Bool.noConfusion (oneLine _ nul)⟩
  · rintro ⟨feed, carriage, nul⟩ c member
    apply Bool.eq_false_iff.mpr
    intro breaks
    simp only [breaksLine, Bool.or_eq_true, beq_iff_eq] at breaks
    rcases breaks with (rfl | rfl) | rfl
    · exact feed member
    · exact carriage member
    · exact nul member

private theorem harmless_iff {value : String} : Harmless target value ↔ Writable target value := by
  constructor
  · intro harmless
    exact ⟨oneLine_iff.mpr ⟨harmless.noFeed, harmless.noReturn, harmless.noNul⟩, harmless.noQuote⟩
  · intro writable
    obtain ⟨noFeed, noReturn, noNul⟩ := oneLine_iff.mp writable.oneLine
    exact ⟨noFeed, noReturn, noNul, writable.unquoted⟩

private theorem isAlpha_iff {c : Char} : c.isAlpha = true ↔ IsLetter c := by
  delta Char.isAlpha Char.isUpper Char.isLower
  simp [IsLetter, Char.le_def]

private theorem isNameStart_iff {c : Char} : isNameStart c = true ↔ IsLetter c ∨ c = '_' := by
  simp [isNameStart, isAlpha_iff]

private theorem isNameChar_iff {c : Char} :
    isNameChar c = true ↔ IsLetter c ∨ '0' ≤ c ∧ c ≤ '9' ∨ c = '_' := by
  simp [isNameChar, Char.isAlphanum, isAlpha_iff, Char.isDigit, Char.le_def, or_assoc]

private theorem asciiIdentifier_iff {key : String} :
    AsciiIdentifier key ↔ isIdentifier key = true := by
  unfold AsciiIdentifier isIdentifier
  cases key.toList with
  | nil => simp
  | cons first rest => simp [isNameStart_iff, isNameChar_iff]

private theorem isSupportedOn_iff : target.isSupportedOn host = true ↔
    (host = .unix ↔ target = .shellScript) := by
  cases target <;> cases host <;> decide

theorem carried_iff_harmless : Carried target config ↔
    (Harmless target config.executable ∧ Harmless target config.workingDir) ∧
    (∀ value ∈ config.name :: config.launchArgs ++ config.launchEnv.values,
      Harmless target value) ∧
    ∀ key ∈ config.launchEnv.keys, AsciiIdentifier key := by
  have values : (∀ value ∈ values config, Writable target value) ↔
      (Harmless target config.executable ∧ Harmless target config.workingDir) ∧
      ∀ value ∈ config.name :: config.launchArgs ++ config.launchEnv.values,
        Harmless target value := by
    simp only [Script.values, harmless_iff, List.cons_append, List.nil_append,
      List.forall_mem_cons, and_assoc]
  rw [carried_iff, values, and_assoc]
  exact and_congr Iff.rfl (and_congr Iff.rfl (forall₂_congr fun _ _ => asciiIdentifier_iff.symm))

private theorem carried_plain_iff {given : InstanceConfig SystemPath} :
    (∃ config : InstanceConfig, given = config ∧ Carried target config) ↔
    (∀ path ∈ [given.executable, given.workingDir],
      ∃ text, path = .ofText text ∧ Harmless target text) ∧
    (∀ value ∈ given.name :: given.launchArgs ++ given.launchEnv.values, Harmless target value) ∧
    ∀ key ∈ given.launchEnv.keys, AsciiIdentifier key := by
  simp only [List.forall_mem_cons, List.not_mem_nil, false_imp_iff, implies_true, and_true]
  constructor
  · rintro ⟨config, rfl, carried⟩
    obtain ⟨⟨executable, workingDir⟩, values, keys⟩ := carried_iff_harmless.mp carried
    exact ⟨⟨⟨_, rfl, executable⟩, _, rfl, workingDir⟩, values, keys⟩
  · rintro ⟨⟨⟨executable, program, fits⟩, workingDir, directory, suits⟩, values, keys⟩
    refine ⟨{ given with executable, workingDir }, ?_,
      carried_iff_harmless.mpr ⟨⟨fits, suits⟩, values, keys⟩⟩
    simp [InstanceConfig.onSystem, ← program, ← directory]

private theorem render_succeeds_iff {given : InstanceConfig SystemPath} :
    (∃ text, render given target host = .ok text) ↔
      target.isSupportedOn host = true ∧
        ∃ config : InstanceConfig, given = config ∧ Carried target config := by
  constructor
  · rintro ⟨text, rendered⟩
    obtain ⟨config, rfl⟩ := plain_of_render rendered
    obtain ⟨supported, carried, _⟩ := render_ok_iff.mp rendered
    exact ⟨supported, config, rfl, carried⟩
  · rintro ⟨supported, config, rfl, carried⟩
    exact ⟨_, render_ok_iff.mpr ⟨supported, carried, rfl⟩⟩

end accepted

/-- A script is written exactly if the host runs it, both paths are texts, no value in it breaks a
line, or a quote of a batch file, and the names of the variables are identifiers. Cut at its line
ends it has a line for each variable, in the order of their names, and beside these always as many
lines. -/
theorem render_succeeds_iff_harmless (config : InstanceConfig SystemPath) (target : ScriptTarget)
    (host : HostOs) :
    ((∃ text, render config target host = .ok text) ↔
      (host = .unix ↔ target = .shellScript) ∧
      (∀ path ∈ [config.executable, config.workingDir],
        ∃ text, path = .ofText text ∧ Harmless target text) ∧
      (∀ value ∈ config.name :: config.launchArgs ++ config.launchEnv.values,
        Harmless target value) ∧
      ∀ key ∈ config.launchEnv.keys, AsciiIdentifier key) ∧
    ∀ text, render config target host = .ok text → ∃ opening closing,
      cutAt target.lineEnd [] text.toList =
        opening ++ config.launchEnv.entries.map (assignment target) ++ closing ∧
      opening.length = (if target = .batchFile then 5 else 4) ∧ closing.length = 2 ∧
      (cutAt target.lineEnd [] text.toList).length =
        config.launchEnv.entries.length + (if target = .batchFile then 7 else 6) ∧
      config.launchEnv.keys.Pairwise (· < ·) ∧
      ∀ line ∈ cutAt target.lineEnd [] text.toList, '\n' ∉ line ∧ '\r' ∉ line ∧ '\x00' ∉ line := by
  rw [render_succeeds_iff, isSupportedOn_iff, carried_plain_iff]
  refine ⟨Iff.rfl, fun text rendered => ?_⟩
  obtain ⟨config, rfl⟩ := plain_of_render rendered
  obtain ⟨_, carried, _⟩ := render_ok_iff.mp rendered
  obtain ⟨opening, closing, lines, before, behind⟩ := scriptLines_eq config target
  have oneLine := scriptLines_oneLine carried
  rw [cutAt_render rendered]
  refine ⟨opening, closing, lines, before, behind, ?_, ?_, fun line member =>
    oneLine_iff.mp (oneLine line member)⟩
  · rw [lines, List.length_append, List.length_append, List.length_map, before, behind]
    simp only [InstanceConfig.onSystem_launchEnv]
    split <;> omega
  · exact List.Pairwise.map _ (fun _ _ less => less) config.launchEnv.ascending

/-- Values that end a word, go on to another line, or start a command, as far as texts can. -/
def hostileConfig : InstanceConfig where
  accountId := 100001
  name := "x) & del *"
  executable := "C:\\bots\\50%\\it's.exe"
  args := ["$(reboot)", "\u2028%PATH%", ""]
  workingDir := "'; rm -rf / #"
  env := .ofList [("Z_9", "\\"), ("BOT_DEBUG", "\u0085' | exit")]

theorem render_succeeds_for_hostile : ∃ text, render hostileConfig .batchFile .windows = .ok text ∧
    (cutAt ['\r', '\n'] [] text.toList).length = 15 := by
  obtain ⟨text, rendered⟩ : ∃ text, render hostileConfig .batchFile .windows = .ok text :=
    exists_render rfl (by decide +kernel)
  obtain ⟨_, _, _, _, _, number, _⟩ :=
    (render_succeeds_iff_harmless hostileConfig .batchFile .windows).2 _ rendered
  have count : hostileConfig.launchEnv.entries.length = 8 := by decide +kernel
  rw [InstanceConfig.onSystem_launchEnv, count] at number
  exact ⟨text, rendered, number⟩

/-- A program whose name ends in a byte that no text has. -/
def unreadableConfig : InstanceConfig SystemPath where
  accountId := 100001
  name := "main"
  executable := ⟨[0x2F, 0xFF]⟩
  workingDir := .ofText "/opt"

/-- Nothing in this config breaks a line or a quote, and no script is written. -/
theorem unreadable_program_is_refused :
    (HostOs.unix = .unix ↔ ScriptTarget.shellScript = .shellScript) ∧
    (∀ path ∈ [unreadableConfig.executable, unreadableConfig.workingDir],
      ∀ byte ∈ path.bytes, byte ≠ 0x0A ∧ byte ≠ 0x0D ∧ byte ≠ 0x00 ∧ byte ≠ 0x22) ∧
    (∀ value ∈ unreadableConfig.name :: unreadableConfig.launchArgs ++
      unreadableConfig.launchEnv.values, Harmless .shellScript value) ∧
    (∀ key ∈ unreadableConfig.launchEnv.keys, AsciiIdentifier key) ∧
    render unreadableConfig .shellScript .unix = .error (.unreadablePath ⟨[0x2F, 0xFF]⟩) ∧
    (Fault.unreadablePath ⟨[0x2F, 0xFF]⟩).error = .config "Path /\uFFFD is not valid UTF-8" ∧
    ¬∃ text, render unreadableConfig .shellScript .unix = .ok text := by
  have refused : render unreadableConfig .shellScript .unix =
      .error (.unreadablePath ⟨[0x2F, 0xFF]⟩) := render_refuses_unreadable rfl (by decide)
  have carried : Carried .shellScript
      { unreadableConfig with executable := "", workingDir := "/opt" } :=
    check_ok_iff.mp (by decide +kernel)
  obtain ⟨_, values, keys⟩ := carried_iff_harmless.mp carried
  refine ⟨by decide, by decide +kernel, values, keys, refused, by decide, ?_⟩
  rintro ⟨text, rendered⟩
  cases refused.symm.trans rendered

end BotKeeper.Proofs
