import BotKeeper.Proofs.Session

/-! How the command interpreter reads the lines of a batch file. Percent signs come first: a pair
of them is one, and a name between two of them stands for the value of a variable. What the line
says is seen after that. Whether names that differ in case are the same is left to the
interpreter, which folds a name before it looks for the variable. -/

namespace BotKeeper.Proofs
open Script

namespace Batch

/-- The rest of a line with its percent signs resolved, of which one was read, with a part of the
name after it, or none. One that has no other is left out. -/
def expanded (value : String → List Char) : Option (List Char) → List Char → List Char
  | none, [] => []
  | some name, [] => name
  | none, c :: rest =>
    if c = '%' then expanded value (some []) rest else c :: expanded value none rest
  | some name, c :: rest =>
    if c = '%' then
      (if name.isEmpty then ['%'] else value (.ofList name)) ++ expanded value none rest
    else expanded value (some (name ++ [c])) rest

inductive Place where
  | between
  | inside (word : List Char)
  | closed

def words? : Place → List Char → Option (List String)
  | .between, [] => some []
  | .closed, [] => some []
  | .inside _, [] => none
  | .between, c :: rest =>
    if c = ' ' then words? .between rest
    else if c = '"' then words? (.inside []) rest
    else none
  | .inside word, c :: rest =>
    if c = '"' then (words? .closed rest).map (.ofList word :: ·)
    else words? (.inside (word ++ [c])) rest
  | .closed, c :: rest => if c = ' ' then words? .between rest else none

def assignment? (text : List Char) : Option (String × String) :=
  (withoutLast? '"' text).bind fun inner =>
    match inner.dropWhile (· != '=') with
    | _ :: value => some (.ofList (inner.takeWhile (· != '=')), .ofList value)
    | [] => none

/-- A line that says nothing to what follows. -/
def isSilent (line : List Char) : Bool :=
  line == "@echo off".toList || line == "chcp 65001 > nul".toList ||
    "rem ".toList.isPrefixOf line

def obey? (fold : String → String) (session : Session) (line : List Char) : Option Reading :=
  if isSilent line then some (.goesOn session)
  else
    match "set \"".toList.isPrefixOf? line, "cd /d \"".toList.isPrefixOf? line with
    | some rest, _ =>
      (assignment? rest).map fun (name, value) => .goesOn (session.assign (fold name) value)
    | none, some rest =>
      (withoutLast? '"' rest).map fun directory => .goesOn (session.change (.ofList directory))
    | none, none =>
      match words? .between line with
      | some (program :: arguments) => some (.starts
          { directory := session.directory, program, arguments
            value? := fun name => session.value? (fold name) })
      | _ => none

def read (fold : String → String) (session : Session) (line : List Char) : Option Reading :=
  obey? fold session (expanded (fun name => session.expansion (fold name)) none line)

section expanded

variable (value : String → List Char) (rest : List Char)

/-- A value is read as it is, whatever stands in it. -/
theorem expanded_word (text : List Char) :
    expanded value none (Batch.word text ++ rest) = text ++ expanded value none rest := by
  unfold Batch.word
  induction text with
  | nil => rfl
  | cons c text ih =>
    unfold doubled at ih ⊢
    rw [List.flatMap_cons, List.append_assoc, List.cons_append, ← ih]
    by_cases marked : c = '%'
    · subst c
      simp [expanded]
    · simp [expanded, marked]

theorem expanded_plain {text : List Char} (plain : '%' ∉ text) :
    expanded value none (text ++ rest) = text ++ expanded value none rest := by
  induction text with
  | nil => rfl
  | cons c text ih =>
    have other : c ≠ '%' := fun same => plain (by simp [same])
    have later : '%' ∉ text := fun member => plain (List.mem_cons_of_mem _ member)
    simp only [List.cons_append, expanded, other, if_false, ih later]

theorem expanded_arguments (arguments : List String) :
    expanded value none
        (arguments.flatMap fun argument => ' ' :: '"' :: Batch.word argument.toList ++ ['"']) =
      arguments.flatMap fun argument => ' ' :: '"' :: argument.toList ++ ['"'] := by
  induction arguments with
  | nil => rfl
  | cons argument arguments ih =>
    have opening := expanded_plain value (Batch.word argument.toList ++ '"' ::
      arguments.flatMap fun argument => ' ' :: '"' :: Batch.word argument.toList ++ ['"'])
      (by decide : '%' ∉ [' ', '"'])
    have closing := expanded_plain value
      (arguments.flatMap fun argument => ' ' :: '"' :: Batch.word argument.toList ++ ['"'])
      (by decide : '%' ∉ ['"'])
    simp only [List.flatMap_cons, List.cons_append, List.append_assoc, List.nil_append] at opening closing ih ⊢
    rw [opening, expanded_word, closing, ih]

end expanded

/-- A word goes up to the next double quote. -/
theorem words?_inside {text : List Char} (unquoted : '"' ∉ text) (word rest : List Char) :
    words? (.inside word) (text ++ '"' :: rest) =
      (words? .closed rest).map (.ofList (word ++ text) :: ·) := by
  induction text generalizing word with
  | nil => simp [words?]
  | cons c text ih =>
    have other : c ≠ '"' := fun same => unquoted (by simp [same])
    have later : '"' ∉ text := fun member => unquoted (List.mem_cons_of_mem _ member)
    simp only [List.cons_append, words?, other, if_false, ih later, List.append_assoc,
      List.nil_append]

theorem words?_arguments {arguments : List String}
    (unquoted : ∀ argument ∈ arguments, '"' ∉ argument.toList) :
    words? .closed (arguments.flatMap fun argument => ' ' :: '"' :: argument.toList ++ ['"']) =
      some arguments := by
  induction arguments with
  | nil => rfl
  | cons argument arguments ih =>
    have here := words?_inside (unquoted argument (by simp)) []
      (arguments.flatMap fun argument => ' ' :: '"' :: argument.toList ++ ['"'])
    have later := ih fun other member => unquoted other (List.mem_cons_of_mem _ member)
    simp only [List.flatMap_cons, List.cons_append, List.append_assoc, List.nil_append] at here later ⊢
    simp only [words?, if_true, here, later, Option.map_some, String.ofList_toList]
    simp

section lines

variable (fold : String → String) (session : Session)

theorem read_silent {line : List Char}
    (silent : isSilent (expanded (fun name => session.expansion (fold name)) none line) = true) :
    read fold session line = some (.goesOn session) :=
  if_pos silent

theorem read_remark (text : List Char) :
    read fold session ("rem ".toList ++ text) = some (.goesOn session) := by
  apply read_silent
  have remark : expanded (fun name => session.expansion (fold name)) none ("rem ".toList ++ text) =
      "rem ".toList ++ expanded (fun name => session.expansion (fold name)) none text :=
    expanded_plain _ _ (by decide)
  rw [remark]
  simp [isSilent]

theorem assignment?_pair {key : String} (plain : '=' ∉ key.toList) (value : String) :
    assignment? (key.toList ++ '=' :: value.toList ++ ['"']) = some (key, value) := by
  have names : ∀ c ∈ key.toList, (c != '=') = true := by
    intro c member
    exact bne_iff_ne.mpr fun same => plain (same ▸ member)
  rw [assignment?, withoutLast?_append, Option.bind_some,
    List.takeWhile_append_of_pos names, List.dropWhile_append_of_pos names]
  simp

theorem read_assignment {key : String} (named : isIdentifier key = true) (value : String) :
    read fold session ("set \"".toList ++ key.toList ++ '=' :: Batch.word value.toList ++ ['"']) =
      some (.goesOn (session.assign (fold key) value)) := by
  have names := nameChar_of_identifier named
  have other : ∀ {mark : Char}, isNameChar mark = false → mark ∉ key.toList := by
    intro mark unnamed member
    exact Bool.noConfusion ((names mark member).symm.trans unnamed)
  have before : '%' ∉ "set \"".toList ++ key.toList ++ ['='] := by
    simp [other (rfl : isNameChar '%' = false)]
  have line : expanded (fun name => session.expansion (fold name)) none
      ("set \"".toList ++ key.toList ++ '=' :: Batch.word value.toList ++ ['"']) =
      "set \"".toList ++ (key.toList ++ '=' :: value.toList ++ ['"']) := by
    have closing := expanded_plain (fun name => session.expansion (fold name)) []
      (by decide : '%' ∉ ['"'])
    have parts := expanded_plain (fun name => session.expansion (fold name))
      (Batch.word value.toList ++ ['"']) before
    rw [List.append_nil] at closing
    rw [expanded_word, closing] at parts
    simpa [expanded] using parts
  have sets : ∀ text, obey? fold session ("set \"".toList ++ text) =
      (assignment? text).map fun (name, value) => .goesOn (session.assign (fold name) value) :=
    fun _ => rfl
  rw [read, line, sets, assignment?_pair (other rfl), Option.map_some]

theorem read_change :
    read fold session "cd /d \"%BOT_WORKDIR%\"".toList =
      some (.goesOn (session.change ((session.value? (fold "BOT_WORKDIR")).getD ""))) := by
  have line : expanded (fun name => session.expansion (fold name)) none
      "cd /d \"%BOT_WORKDIR%\"".toList =
      "cd /d \"".toList ++ (session.expansion (fold "BOT_WORKDIR") ++ ['"']) := rfl
  have changes : ∀ text, obey? fold session ("cd /d \"".toList ++ text) =
      (withoutLast? '"' text).map fun directory => .goesOn (session.change (.ofList directory)) :=
    fun _ => rfl
  rw [read, line, changes, withoutLast?_append, Option.map_some, Session.expansion,
    String.ofList_toList]

theorem read_program (unquoted : '"' ∉ session.expansion (fold "BOT_EXECUTABLE"))
    {arguments : List String} (plain : ∀ argument ∈ arguments, '"' ∉ argument.toList) :
    read fold session ("\"%BOT_EXECUTABLE%\"".toList ++
        arguments.flatMap fun argument => ' ' :: '"' :: Batch.word argument.toList ++ ['"']) =
      some (.starts
        { directory := session.directory
          program := (session.value? (fold "BOT_EXECUTABLE")).getD ""
          arguments
          value? := fun name => session.value? (fold name) }) := by
  have line : expanded (fun name => session.expansion (fold name)) none
      ("\"%BOT_EXECUTABLE%\"".toList ++
        arguments.flatMap fun argument => ' ' :: '"' :: Batch.word argument.toList ++ ['"']) =
      '"' :: (session.expansion (fold "BOT_EXECUTABLE") ++ '"' ::
        arguments.flatMap fun argument => ' ' :: '"' :: argument.toList ++ ['"']) := by
    rw [← expanded_arguments (fun name => session.expansion (fold name))]
    rfl
  have calls : ∀ text, obey? fold session ('"' :: text) =
      match words? (.inside []) text with
      | some (program :: arguments) => some (.starts
          { directory := session.directory, program, arguments
            value? := fun name => session.value? (fold name) })
      | _ => none := fun _ => rfl
  rw [read, line, calls, words?_inside unquoted, words?_arguments plain]
  simp [Session.expansion]

end lines

end Batch

/-- The program that a batch file ends up with. -/
def batchLaunch? (fold : String → String) (session : Session) (script : String) : Option Started :=
  launch? (Batch.read fold) session (Text.lines script.toList)

end BotKeeper.Proofs
