import BotKeeper.Script.Render

/-! The program and the directory that a script declares. The first line with the
opening of a declaration counts. -/

namespace BotKeeper.Script

structure DeclaredPaths where
  executable : String
  workingDir : String
  deriving DecidableEq, Repr

/-- What follows the opening on the first line that has it. -/
def declaration? (opening : String) (text : List Char) : Option (List Char) :=
  (Text.lines text).findSome? opening.toList.isPrefixOf?

def value? : ScriptTarget → List Char → Option (List Char)
  | .shellScript => Shell.value?
  | .powerShell => PowerShell.value?
  | .batchFile => Batch.value?

def declaredValue (target : ScriptTarget) (opening : String) (text : List Char) :
    Except Fault String :=
  match declaration? opening text with
  | none => .error (.undeclared (.ofList (Text.trim opening.toList)))
  | some raw =>
    match value? target raw with
    | none => .error (.malformed target (.ofList raw))
    | some value => .ok (.ofList value)

def declaredPaths (text : String) (target : ScriptTarget) : Except Fault DeclaredPaths := do
  let executable ← declaredValue target (executableOpening target) text.toList
  let workingDir ← declaredValue target (workingDirOpening target) text.toList
  return { executable, workingDir }

end BotKeeper.Script
