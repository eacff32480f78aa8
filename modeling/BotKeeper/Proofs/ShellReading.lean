import BotKeeper.Proofs.Session

/-! How a POSIX shell reads the lines of a launch script. A line is taken apart into words, in
which quotes are resolved and variables are replaced. Only what stands outside of quotes can make
a word an assignment or a command. A line that uses more of the language is not read. -/

namespace BotKeeper.Proofs
open Script

namespace Shell

/-- A character of a word. It is bare if no quote or backslash has protected it. -/
structure Letter where
  char : Char
  bare : Bool
  deriving DecidableEq

abbrev Word := List Letter

def bare (text : List Char) : Word :=
  text.map (⟨·, true⟩)

def quoted (text : List Char) : Word :=
  text.map (⟨·, false⟩)

namespace Word

def text (word : Word) : String :=
  .ofList (word.map (·.char))

def assignment? (word : Word) : Option (String × String) :=
  let name := word.takeWhile (· != ⟨'=', true⟩)
  match word.dropWhile (· != ⟨'=', true⟩) with
  | _ :: value =>
    if name.all (·.bare) && isIdentifier (text name) then some (text name, text value) else none
  | [] => none

end Word

inductive Token where
  | word (word : Word)
  | orElse
  deriving DecidableEq

def command (name : String) : Token :=
  .word (bare name.toList)

inductive Place where
  | between
  | plain
  | escaped
  | single
  | double
  /-- A dollar sign was read between double quotes, and a part of the name after it. -/
  | name (letters : List Char)
  | bar

/-- What a character outside of quotes begins. Those with any other meaning are not read. -/
def begun? (c : Char) : Option (Place × Word) :=
  if c = quote then some (.single, [])
  else if c = '"' then some (.double, [])
  else if c = '\\' then some (.escaped, [])
  else if isNameChar c || c == '=' then some (.plain, bare [c])
  else none

def tokens? (value : String → List Char) : Place → Word → List Char → Option (List Token)
  | .between, _, [] => some []
  | .plain, word, [] => some [.word word]
  | _, _, [] => none
  | .between, word, c :: rest =>
    if c = ' ' then tokens? value .between word rest
    else if c = '#' then some []
    else if c = '|' then tokens? value .bar word rest
    else
      match begun? c with
      | some (place, begun) => tokens? value place begun rest
      | none => none
  | .plain, word, c :: rest =>
    if c = ' ' then (tokens? value .between [] rest).map (.word word :: ·)
    else if c = '|' then (tokens? value .bar [] rest).map (.word word :: ·)
    else
      match begun? c with
      | some (place, begun) => tokens? value place (word ++ begun) rest
      | none => none
  | .escaped, word, c :: rest => tokens? value .plain (word ++ quoted [c]) rest
  | .single, word, c :: rest =>
    if c = quote then tokens? value .plain word rest
    else tokens? value .single (word ++ quoted [c]) rest
  | .double, word, c :: rest =>
    if c = '"' then tokens? value .plain word rest
    else if c = '$' then tokens? value (.name []) word rest
    else if c = '\\' ∨ c = '\x60' then none
    else tokens? value .double (word ++ quoted [c]) rest
  | .name letters, word, c :: rest =>
    if isNameStart c || !letters.isEmpty && isNameChar c then
      tokens? value (.name (letters ++ [c])) word rest
    else if c = '"' ∧ letters ≠ [] then
      tokens? value .plain (word ++ quoted (value (.ofList letters))) rest
    else none
  | .bar, _, c :: rest =>
    if c = '|' then (tokens? value .between [] rest).map (.orElse :: ·) else none

def words? : List Token → Option (List String)
  | [] => some []
  | .word word :: rest => (words? rest).map (word.text :: ·)
  | .orElse :: _ => none

/-- What a command does. The directory of a launch script exists, so nothing else is tried. -/
def obey? (session : Session) : List Token → Option Reading
  | [] => some (.goesOn session)
  | [.word word] => word.assignment?.map fun (name, value) => .goesOn (session.assign name value)
  | first :: .word word :: rest =>
    if first = command "export" ∧ rest = [] then
      word.assignment?.map fun (name, value) => .goesOn ((session.assign name value).passOn name)
    else if first = command "cd" ∧
        (rest = [] ∨ rest = [.orElse, command "exit", command "1"]) then
      some (.goesOn (session.change word.text))
    else if first = command "exec" then
      (words? rest).map fun arguments => .starts
        { directory := session.directory
          program := word.text
          arguments
          value? := fun name => if session.passesOn name then session.value? name else none }
    else none
  | _ => none

def read (session : Session) (line : List Char) : Option Reading :=
  (tokens? session.expansion .between [] line).bind (obey? session)

section tokens

variable (value : String → List Char) (word : Word) (rest : List Char)

/-- What stands between the outer quotes of a word is protected, up to the closing quote. -/
theorem tokens?_escaped (text : List Char) :
    tokens? value .single word
        ((text.flatMap fun c => if c = quote then [quote, '\\', quote, quote] else [c]) ++
          quote :: rest) =
      tokens? value .plain (word ++ quoted text) rest := by
  induction text generalizing word with
  | nil => simp [tokens?, quoted]
  | cons c text ih =>
    have letter : word ++ quoted (c :: text) = (word ++ quoted [c]) ++ quoted text := by
      simp [quoted]
    rw [List.flatMap_cons, List.append_assoc, letter, ← ih (word ++ quoted [c])]
    by_cases same : c = quote
    · subst c
      simp [tokens?, begun?, quote]
    · simp [tokens?, same]

theorem tokens?_begun {c : Char} {place : Place} {begun : Word} (blank : c ≠ ' ') (comment : c ≠ '#')
    (pipe : c ≠ '|') (begins : begun? c = some (place, begun)) :
    tokens? value .between word (c :: rest) = tokens? value place begun rest := by
  simp [tokens?, blank, comment, pipe, begins]

theorem tokens?_plain {c : Char} {place : Place} {begun : Word} (blank : c ≠ ' ') (pipe : c ≠ '|')
    (begins : begun? c = some (place, begun)) :
    tokens? value .plain word (c :: rest) = tokens? value place (word ++ begun) rest := by
  simp [tokens?, blank, pipe, begins]

/-- A value is read as it is, whatever stands in it. -/
theorem tokens?_word (text : List Char) :
    tokens? value .plain word (Shell.word text ++ rest) =
      tokens? value .plain (word ++ quoted text) rest := by
  have opens : begun? quote = some (.single, []) := rfl
  unfold Shell.word
  rw [List.cons_append, List.cons_append, List.append_assoc, List.singleton_append,
    tokens?_plain value word _ (by decide) (by decide) opens, List.append_nil, tokens?_escaped]

theorem begun?_name {c : Char} (named : isNameChar c = true) : begun? c = some (.plain, bare [c]) ∧
    c ≠ ' ' ∧ c ≠ '#' ∧ c ≠ '|' := by
  have other : ∀ {mark : Char}, isNameChar mark = false → c ≠ mark := by
    rintro mark unnamed rfl
    exact Bool.noConfusion (named.symm.trans unnamed)
  have quoted : c ≠ quote := other rfl
  have twice : c ≠ '"' := other rfl
  have slash : c ≠ '\\' := other rfl
  exact ⟨by simp [begun?, quoted, twice, slash, named], other rfl, other rfl, other rfl⟩

/-- A name outside of quotes stays bare. -/
theorem tokens?_name {name : List Char} (named : ∀ c ∈ name, isNameChar c = true) :
    tokens? value .plain word (name ++ rest) = tokens? value .plain (word ++ bare name) rest := by
  induction name generalizing word with
  | nil => simp [bare]
  | cons c name ih =>
    obtain ⟨begins, blank, _, pipe⟩ := begun?_name (named c (by simp))
    rw [List.cons_append, tokens?_plain value word _ blank pipe begins,
      ih _ fun other member => named other (List.mem_cons_of_mem _ member)]
    simp [bare]

/-- A word may begin with a name. -/
theorem tokens?_identifier {key : String} (named : isIdentifier key = true) :
    tokens? value .between [] (key.toList ++ rest) = tokens? value .plain (bare key.toList) rest := by
  have names := nameChar_of_identifier named
  unfold isIdentifier at named
  cases letters : key.toList with
  | nil => simp [letters] at named
  | cons first others =>
    rw [letters] at names
    obtain ⟨begins, blank, comment, pipe⟩ := begun?_name (names first (by simp))
    rw [List.cons_append, tokens?_begun value [] _ blank comment pipe begins,
      tokens?_name value _ _ fun other member => names other (List.mem_cons_of_mem _ member)]
    rfl

def assigning (key value : String) : Word :=
  bare key.toList ++ ⟨'=', true⟩ :: quoted value.toList

theorem tokens?_assignment {key : String} (named : isIdentifier key = true) (text : String) :
    tokens? value .between [] (key.toList ++ '=' :: Shell.word text.toList) =
      some [.word (assigning key text)] := by
  have equals : begun? '=' = some (.plain, bare ['=']) := rfl
  have closed := tokens?_word value (bare key.toList ++ bare ['=']) [] text.toList
  rw [List.append_nil] at closed
  rw [tokens?_identifier value _ named,
    tokens?_plain value _ _ (by decide) (by decide) equals, closed]
  simp [tokens?, assigning, bare]

theorem tokens?_arguments (arguments : List String) :
    tokens? value .plain word (arguments.flatMap fun argument => ' ' :: Shell.word argument.toList) =
      some (.word word :: arguments.map fun argument => .word (quoted argument.toList)) := by
  induction arguments generalizing word with
  | nil => simp [tokens?]
  | cons argument arguments ih =>
    have opens : begun? quote = some (.single, []) := rfl
    have begins : tokens? value .between [] (Shell.word argument.toList ++
        arguments.flatMap fun argument => ' ' :: Shell.word argument.toList) =
        tokens? value .plain (quoted argument.toList)
          (arguments.flatMap fun argument => ' ' :: Shell.word argument.toList) := by
      unfold Shell.word
      rw [List.cons_append, List.cons_append, List.append_assoc, List.singleton_append,
        tokens?_begun value [] _ (by decide) (by decide) (by decide) opens, tokens?_escaped]
      rfl
    rw [List.flatMap_cons, List.cons_append]
    simp only [tokens?, if_true, begins, ih, Option.map_some, List.map_cons]

end tokens

theorem text_quoted (text : String) : (quoted text.toList).text = text := by
  simp [Word.text, quoted, Function.comp_def]

theorem assignment?_assigning {key : String} (named : isIdentifier key = true) (value : String) :
    (assigning key value).assignment? = some (key, value) := by
  have names : ∀ letter ∈ bare key.toList, (letter != ⟨'=', true⟩) = true := by
    intro letter member
    obtain ⟨c, inside, rfl⟩ := List.mem_map.mp member
    have name := nameChar_of_identifier named c inside
    have other : c ≠ '=' := by
      rintro rfl
      exact Bool.noConfusion name
    simp [other]
  have before : (assigning key value).takeWhile (· != ⟨'=', true⟩) = bare key.toList := by
    rw [assigning, List.takeWhile_append_of_pos names]
    simp
  have after : (assigning key value).dropWhile (· != ⟨'=', true⟩) =
      ⟨'=', true⟩ :: quoted value.toList := by
    rw [assigning, List.dropWhile_append_of_pos names]
    simp
  have name : Word.text (bare key.toList) = key := by
    simp [Word.text, bare, Function.comp_def]
  have all : (bare key.toList).all (·.bare) = true := by simp [bare]
  simp only [Word.assignment?, before, after, all, name, named, text_quoted, Bool.and_true, if_true]

theorem words?_quoted (arguments : List String) :
    words? (arguments.map fun argument => .word (quoted argument.toList)) = some arguments := by
  induction arguments with
  | nil => rfl
  | cons argument arguments ih =>
    simp only [List.map_cons, words?, ih, Option.map_some, text_quoted]

section lines

variable (session : Session)

theorem read_comment (text : List Char) :
    read session ('#' :: text) = some (.goesOn session) := by
  simp [read, tokens?, obey?]

theorem read_assignment {key : String} (named : isIdentifier key = true) (value : String) :
    read session (key.toList ++ '=' :: Shell.word value.toList) =
      some (.goesOn (session.assign key value)) := by
  simp only [read, tokens?_assignment _ named, Option.bind_some, obey?,
    assignment?_assigning named, Option.map_some]

theorem read_export {key : String} (named : isIdentifier key = true) (value : String) :
    read session ("export ".toList ++ key.toList ++ '=' :: Shell.word value.toList) =
      some (.goesOn ((session.assign key value).passOn key)) := by
  have word : tokens? session.expansion .between []
      ("export ".toList ++ key.toList ++ '=' :: Shell.word value.toList) =
      some [command "export", .word (assigning key value)] := by
    have begins : "export ".toList ++ key.toList ++ '=' :: Shell.word value.toList =
        "export".toList ++ ' ' :: (key.toList ++ '=' :: Shell.word value.toList) := by
      simp
    rw [begins, tokens?_identifier _ _ (by decide)]
    simp only [tokens?, if_true, tokens?_assignment _ named, Option.map_some]
    rfl
  simp only [read, word, Option.bind_some, obey?, assignment?_assigning named, and_self, if_true,
    Option.map_some]

theorem read_change :
    read session "cd \"$BOT_WORKDIR\" || exit 1".toList =
      some (.goesOn (session.change ((session.value? "BOT_WORKDIR").getD ""))) := by
  have words : tokens? session.expansion .between [] "cd \"$BOT_WORKDIR\" || exit 1".toList =
      some [command "cd", .word (quoted (session.expansion "BOT_WORKDIR")), .orElse,
        command "exit", command "1"] := rfl
  have other : command "cd" ≠ command "export" := by decide
  rw [read, words, Option.bind_some]
  simp only [obey?, other, false_and, if_false, or_true, and_self, if_true, Session.expansion,
    text_quoted]

theorem read_exec (arguments : List String) :
    read session ("exec \"$BOT_EXECUTABLE\"".toList ++
        arguments.flatMap fun argument => ' ' :: Shell.word argument.toList) =
      some (.starts
        { directory := session.directory
          program := (session.value? "BOT_EXECUTABLE").getD ""
          arguments
          value? := fun name => if session.passesOn name then session.value? name else none }) := by
  have words : tokens? session.expansion .between []
      ("exec \"$BOT_EXECUTABLE\"".toList ++
        arguments.flatMap fun argument => ' ' :: Shell.word argument.toList) =
      some (command "exec" :: .word (quoted (session.expansion "BOT_EXECUTABLE")) ::
        arguments.map fun argument => .word (quoted argument.toList)) := by
    have program : ∀ rest, tokens? session.expansion .between []
        ("exec \"$BOT_EXECUTABLE\"".toList ++ rest) =
        (tokens? session.expansion .plain (quoted (session.expansion "BOT_EXECUTABLE")) rest).map
          (command "exec" :: ·) := fun _ => rfl
    rw [program, tokens?_arguments, Option.map_some]
  have exports : command "exec" ≠ command "export" := by decide
  have changes : command "exec" ≠ command "cd" := by decide
  rw [read, words, Option.bind_some]
  simp only [obey?, exports, changes, false_and, if_false, if_true, words?_quoted, Option.map_some,
    Session.expansion, text_quoted]

end lines

end Shell

/-- The program that a shell script ends up with. -/
def shellLaunch? (session : Session) (script : String) : Option Started :=
  launch? Shell.read session (Text.lines script.toList)

end BotKeeper.Proofs
