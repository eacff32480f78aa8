import BotKeeper.Proofs.TextBytes
import BotKeeper.Script.Render

/-! What a rendered script is made of. A config is rendered exactly if its paths are texts, each of
its values fits on a line and each name of a variable is an identifier. Then no line of the script holds a line end
of its own, so the lines of the text are the lines that were put there. -/

namespace BotKeeper.Proofs
open Script

def OneLine (text : List Char) : Prop :=
  ∀ c ∈ text, breaksLine c = false

instance (text : List Char) : Decidable (OneLine text) :=
  List.decidableBAll (fun c => breaksLine c = false) text

structure Writable (target : ScriptTarget) (value : String) : Prop where
  oneLine : OneLine value.toList
  unquoted : target = .batchFile → '"' ∉ value.toList

structure Carried (target : ScriptTarget) (config : InstanceConfig) : Prop where
  executable : Writable target config.executable
  workingDir : Writable target config.workingDir
  name : Writable target config.name
  args : ∀ arg ∈ config.launchArgs, Writable target arg
  keys : ∀ entry ∈ config.launchEnv.entries, isIdentifier entry.1 = true
  environment : ∀ entry ∈ config.launchEnv.entries, Writable target entry.2

variable {target : ScriptTarget} {host : HostOs} {config : InstanceConfig}

theorem forM_ok_iff {ε : Type} (check : α → Except ε Unit) (items : List α) :
    items.forM check = .ok () ↔ ∀ item ∈ items, check item = .ok () := by
  induction items with
  | nil => simp [List.forM, pure, Except.pure]
  | cons item rest ih =>
    rw [List.forall_mem_cons, ← ih]
    cases checked : check item with
    | error fault => simp [List.forM, bind, Except.bind, checked]
    | ok nothing => simp [List.forM, bind, Except.bind, checked]

private theorem checkValue_ok_iff (value : String) :
    checkValue target value = .ok () ↔ Writable target value := by
  unfold checkValue
  split
  · rename_i breaks
    obtain ⟨c, member, breaks⟩ := List.any_eq_true.mp breaks
    refine ⟨fun impossible => (by cases impossible), fun writable => ?_⟩
    exact absurd breaks (by simp [writable.oneLine c member])
  · rename_i fits
    have oneLine : OneLine value.toList := by
      intro c member
      apply Bool.eq_false_iff.mpr
      intro breaks
      exact fits (List.any_eq_true.mpr ⟨c, member, breaks⟩)
    split
    · rename_i quoted
      exact ⟨fun impossible => (by cases impossible),
        fun writable => absurd quoted.2 (writable.unquoted quoted.1)⟩
    · rename_i unquoted
      exact ⟨fun _ => ⟨oneLine, fun batch quoted => unquoted ⟨batch, quoted⟩⟩, fun _ => rfl⟩

theorem carried_iff : Carried target config ↔
    (∀ value ∈ values config, Writable target value) ∧
      ∀ key ∈ config.launchEnv.keys, isIdentifier key = true := by
  unfold values OrderedMap.keys OrderedMap.values
  rw [List.forall_mem_append, List.forall_mem_append, List.forall_mem_map, List.forall_mem_map]
  constructor
  · intro carried
    refine ⟨⟨⟨?_, carried.args⟩, carried.environment⟩, carried.keys⟩
    simp [carried.executable, carried.workingDir, carried.name]
  · rintro ⟨⟨⟨paths, args⟩, environment⟩, keys⟩
    exact ⟨paths _ (by simp), paths _ (by simp), paths _ (by simp), args, keys, environment⟩

theorem check_ok_iff : check config target = .ok () ↔ Carried target config := by
  have writable : (values config).forM (checkValue target) = .ok () ↔
      ∀ value ∈ values config, Writable target value := by
    rw [forM_ok_iff]
    exact forall₂_congr fun value _ => checkValue_ok_iff value
  rw [carried_iff, ← writable]
  unfold check
  cases (values config).forM (checkValue target) with
  | error fault => simp [bind, Except.bind]
  | ok nothing =>
    simp only [bind, Except.bind, true_and]
    cases found : config.launchEnv.keys.find? (fun key => !isIdentifier key) with
    | some key =>
      have member := List.mem_of_find?_eq_some found
      have fails := List.find?_some found
      refine ⟨fun impossible => (by cases impossible), fun named => ?_⟩
      simp [named key member] at fails
    | none =>
      refine ⟨fun _ key member => ?_, fun _ => rfl⟩
      simpa using List.find?_eq_none.mp found key member

section paths

variable {path : SystemPath} {given : InstanceConfig SystemPath}

private theorem text?_eq_some_iff {text : String} : path.text? = some text ↔ path = .ofText text := by
  rw [SystemPath.text?, Option.map_eq_some_iff]
  constructor
  · rintro ⟨characters, read, rfl⟩
    cases path
    rw [SystemPath.ofText, String.toList_ofList, ← decode?_eq_some_iff.mp read]
  · rintro rfl
    exact ⟨text.toList, decode?_eq_some_iff.mpr rfl, String.ofList_toList⟩

@[simp] theorem pathText_ofText (text : String) : pathText (.ofText text) = .ok text := by
  rw [pathText, text?_eq_some_iff.mpr rfl]

private theorem pathText_eq_ok_iff {text : String} :
    pathText path = .ok text ↔ path = .ofText text := by
  constructor
  · intro read
    apply text?_eq_some_iff.mp
    unfold pathText at read
    split at read
    · rename_i found
      rw [found, Except.ok.inj read]
    · cases read
  · rintro rfl
    exact pathText_ofText text

/-- The paths of a config can be read exactly if they are those of a config of texts. -/
theorem readPaths_eq_ok_iff : readPaths given = .ok config ↔ given = config := by
  constructor
  · intro read
    unfold readPaths at read
    cases first : pathText given.executable with
    | error fault => simp [first, bind, Except.bind] at read
    | ok executable =>
      cases second : pathText given.workingDir with
      | error fault => simp [first, second, bind, Except.bind] at read
      | ok workingDir =>
        obtain rfl : { given with executable, workingDir } = config := by
          simpa [first, second, bind, Except.bind, pure, Except.pure] using read
        simp [InstanceConfig.onSystem, ← pathText_eq_ok_iff.mp first,
          ← pathText_eq_ok_iff.mp second]
  · rintro rfl
    simp [readPaths, InstanceConfig.onSystem, bind, Except.bind, pure, Except.pure]

/-- The program is looked at before the directory. -/
theorem readPaths_refuses
    (first : [given.executable, given.workingDir].find? (·.text?.isNone) = some path) :
    readPaths given = .error (.unreadablePath path) := by
  unfold readPaths pathText
  cases program : given.executable.text? with
  | none =>
    simp only [List.find?_cons, program, Option.isNone_none, Option.some_inj] at first
    simp [first, bind, Except.bind]
  | some executable =>
    cases directory : given.workingDir.text? with
    | none =>
      simp only [List.find?_cons, program, directory, Option.isNone_none, Option.isNone_some,
        Option.some_inj] at first
      simp [first, bind, Except.bind]
    | some workingDir => simp [program, directory] at first

/-- A path that is no text is refused before anything else of the config is looked at. -/
theorem render_refuses_unreadable (supported : target.isSupportedOn host = true)
    (first : [given.executable, given.workingDir].find? (·.text?.isNone) = some path) :
    render given target host = .error (.unreadablePath path) := by
  unfold render
  rw [if_pos supported, readPaths_refuses first]
  rfl

end paths

/-- A script is rendered exactly if the host runs it and it can hold the config. -/
theorem render_ok_iff {text : String} : render config target host = .ok text ↔
    target.isSupportedOn host = true ∧ Carried target config ∧
    text = .ofList ((scriptLines config target).flatMap (· ++ target.lineEnd)) := by
  rw [← check_ok_iff]
  unfold render
  rw [readPaths_eq_ok_iff.mpr rfl]
  cases target.isSupportedOn host with
  | false => simp
  | true =>
    cases checked : check config target with
    | error fault => simp [bind, Except.bind, checked]
    | ok nothing => simp [bind, Except.bind, pure, Except.pure, checked, eq_comm]

theorem exists_render (supported : target.isSupportedOn host = true)
    (checked : check config target = .ok ()) : ∃ text, render config target host = .ok text :=
  ⟨_, render_ok_iff.mpr ⟨supported, check_ok_iff.mp checked, rfl⟩⟩

/-- Nothing is rendered but configs whose paths are texts, so what is said of these is said of all. -/
theorem plain_of_render {given : InstanceConfig SystemPath} {text : String}
    (rendered : render given target host = .ok text) : ∃ config : InstanceConfig, given = config := by
  unfold render at rendered
  split at rendered
  · cases read : readPaths given with
    | error fault => simp [read, bind, Except.bind] at rendered
    | ok config => exact ⟨config, readPaths_eq_ok_iff.mp read⟩
  · cases rendered

/-- A space before each word, as they follow the word before them. -/
theorem space_spaced (word : List Char) (words : List (List Char)) :
    ' ' :: spaced (word :: words) = (word :: words).flatMap (' ' :: ·) := by
  induction words generalizing word with
  | nil => simp [spaced]
  | cons next rest ih =>
    rw [List.flatMap_cons, ← ih next, spaced, List.intercalate_cons_cons]
    simp [spaced]

theorem nameChar_of_identifier {key : String} (named : isIdentifier key = true) :
    ∀ c ∈ key.toList, isNameChar c = true := by
  unfold isIdentifier at named
  split at named
  · rename_i first rest same
    obtain ⟨start, others⟩ := Bool.and_eq_true_iff.mp named
    rw [same]
    intro c member
    rcases List.mem_cons.mp member with rfl | inside
    · simp only [isNameStart, Bool.or_eq_true] at start
      rcases start with letter | underscore
      · simp [isNameChar, Char.isAlphanum, letter]
      · simp [isNameChar, underscore]
    · exact List.all_eq_true.mp others c inside
  · cases named

section oneLine

theorem OneLine.append {first second : List Char} (one : OneLine first) (other : OneLine second) :
    OneLine (first ++ second) := by
  intro c member
  exact (List.mem_append.mp member).elim (one c) (other c)

private theorem oneLine_flatMap {text : List Char} (oneLine : OneLine text)
    {written : Char → List Char}
    (fits : ∀ c, breaksLine c = false → OneLine (written c)) : OneLine (text.flatMap written) := by
  intro c member
  obtain ⟨origin, inside, member⟩ := List.mem_flatMap.mp member
  exact fits origin (oneLine origin inside) c member

theorem oneLine_doubled {text : List Char} (oneLine : OneLine text) (mark : Char) :
    OneLine (doubled mark text) := by
  apply oneLine_flatMap oneLine
  intro c fits
  by_cases marked : c = mark
  · subst c
    simp [OneLine, fits]
  · simp [OneLine, marked, fits]

theorem oneLine_shellWord {value : List Char} (oneLine : OneLine value) :
    OneLine (Shell.word value) := by
  have quotes : OneLine [quote] := by decide
  refine .append (.append quotes (oneLine_flatMap oneLine fun c fits => ?_)) quotes
  by_cases quoted : c = quote
  · simp only [quoted, if_true]
    decide
  · simp [OneLine, quoted, fits]

theorem oneLine_powerShellWord {value : List Char} (oneLine : OneLine value) :
    OneLine (PowerShell.word value) := by
  have quotes : OneLine [quote] := by decide
  exact .append (.append quotes (oneLine_doubled oneLine quote)) quotes

private theorem oneLine_spaced {words : List (List Char)} (oneLine : ∀ word ∈ words, OneLine word) :
    OneLine (spaced words) := by
  cases words with
  | nil => exact fun _ impossible => by cases impossible
  | cons word rest =>
    have spaces : OneLine (' ' :: spaced (word :: rest)) := by
      rw [space_spaced]
      intro c member
      obtain ⟨part, inside, member⟩ := List.mem_flatMap.mp member
      exact OneLine.append (by decide : OneLine [' ']) (oneLine part inside) c member
    exact fun c member => spaces c (List.mem_cons_of_mem _ member)

theorem oneLine_arguments (carried : Carried target config) (written : List Char → List Char)
    (keeps : ∀ {value}, OneLine value → OneLine (written value)) :
    OneLine (spaced (config.launchArgs.map fun argument => written argument.toList)) :=
  oneLine_spaced (List.forall_mem_map.mpr fun argument member =>
    keeps (carried.args argument member).oneLine)

private theorem oneLine_identifier {key : String} (named : isIdentifier key = true) :
    OneLine key.toList := by
  intro c member
  apply Bool.eq_false_iff.mpr
  intro breaks
  have name := nameChar_of_identifier named c member
  simp only [breaksLine, Bool.or_eq_true, beq_iff_eq] at breaks
  rcases breaks with (rfl | rfl) | rfl <;> exact absurd name (by decide)

/-- The account stands in the header as it stands among the arguments. -/
theorem oneLine_header (carried : Carried target config) : OneLine (header config).toList := by
  have account : OneLine (toString config.accountId).toList :=
    (carried.args _ (by simp [InstanceConfig.launchArgs])).oneLine
  have title : OneLine "Launch script for bot ".toList := by decide
  have before : OneLine " (".toList := by decide
  have after : OneLine ")".toList := by decide
  have parts : (header config).toList = "Launch script for bot ".toList ++
      (toString config.accountId).toList ++ " (".toList ++ config.name.toList ++ ")".toList := by
    unfold header
    simp only [String.toList_append]
    rfl
  rw [parts]
  exact (((title.append account).append before).append carried.name.oneLine).append after

theorem oneLine_lines {first last : List (List Char)} {entries : List (String × String)}
    {written : String × String → List Char} (begins : ∀ line ∈ first, OneLine line)
    (assigns : ∀ entry ∈ entries, OneLine (written entry)) (ends : ∀ line ∈ last, OneLine line) :
    ∀ line ∈ first ++ entries.map written ++ last, OneLine line := by
  intro line member
  rcases List.mem_append.mp member with earlier | late
  · rcases List.mem_append.mp earlier with early | assignment
    · exact begins line early
    · obtain ⟨entry, inside, rfl⟩ := List.mem_map.mp assignment
      exact assigns entry inside
  · exact ends line late

end oneLine

/-- Nothing that a script holds adds to its lines. -/
theorem scriptLines_oneLine (carried : Carried target config) :
    ∀ line ∈ scriptLines config target, OneLine line := by
  have head := oneLine_header carried
  have executable := carried.executable.oneLine
  have workingDir := carried.workingDir.oneLine
  have key : ∀ entry ∈ config.launchEnv.entries, OneLine entry.1.toList := fun entry member =>
    oneLine_identifier (carried.keys entry member)
  have value : ∀ entry ∈ config.launchEnv.entries, OneLine entry.2.toList := fun entry member =>
    (carried.environment entry member).oneLine
  have quoted : OneLine ['"'] := by decide
  cases target with
  | shellScript =>
    have arguments := oneLine_arguments carried Shell.word oneLine_shellWord
    refine oneLine_lines ?_ ?_ ?_
    · simp only [List.forall_mem_cons]
      exact ⟨by decide, .append (by decide) head, .append (by decide) (oneLine_shellWord executable),
        .append (by decide) (oneLine_shellWord workingDir), by simp⟩
    · intro entry member
      have assigned : OneLine ['='] := by decide
      exact .append (.append (by decide) (key entry member))
        (assigned.append (oneLine_shellWord (value entry member)))
    · simp only [List.forall_mem_cons]
      exact ⟨by decide, .append (by decide) arguments, by simp⟩
  | powerShell =>
    have arguments := oneLine_arguments carried PowerShell.word oneLine_powerShellWord
    refine oneLine_lines ?_ ?_ ?_
    · simp only [List.forall_mem_cons]
      exact ⟨.append (by decide) head, by decide,
        .append (by decide) (oneLine_powerShellWord executable),
        .append (by decide) (oneLine_powerShellWord workingDir), by simp⟩
    · intro entry member
      exact .append (.append (.append (by decide) (key entry member)) (by decide))
        (oneLine_powerShellWord (value entry member))
    · simp only [List.forall_mem_cons]
      exact ⟨by decide, .append (by decide) arguments, by simp⟩
  | batchFile =>
    have arguments := oneLine_arguments carried (fun text => '"' :: Batch.word text ++ ['"'])
      fun oneLine => (quoted.append (oneLine_doubled oneLine '%')).append quoted
    refine oneLine_lines ?_ ?_ ?_
    · simp only [List.forall_mem_cons]
      exact ⟨by decide, by decide, .append (by decide) head,
        .append (.append (by decide) (oneLine_doubled executable '%')) quoted,
        .append (.append (by decide) (oneLine_doubled workingDir '%')) quoted, by simp⟩
    · intro entry member
      have assigned : OneLine ['='] := by decide
      exact .append (.append (.append (by decide) (key entry member))
        (assigned.append (oneLine_doubled (value entry member) '%'))) quoted
    · simp only [List.forall_mem_cons]
      exact ⟨by decide, .append (by decide) arguments, by simp⟩

/-- The lines of a rendered script are those that it was made of. -/
theorem lines_of_render {text : String} (rendered : render config target host = .ok text) :
    Text.lines text.toList = scriptLines config target := by
  obtain ⟨_, carried, rfl⟩ := render_ok_iff.mp rendered
  rw [String.toList_ofList]
  apply Text.lines_flatMap
  · cases target <;> simp [ScriptTarget.lineEnd]
  · intro line member
    have oneLine := scriptLines_oneLine carried line member
    exact ⟨fun feed => Bool.noConfusion (oneLine _ feed),
      fun carriage => Bool.noConfusion (oneLine _ carriage)⟩

end BotKeeper.Proofs
