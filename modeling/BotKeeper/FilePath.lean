import BotKeeper.Text.Split

/-! Paths as texts: their pieces, and the path of the directory that holds them. -/

namespace BotKeeper

namespace FilePath

def pieces (path : String) : List String :=
  (Text.splitAt '/' path.toList).map String.ofList

/-- A piece that leads nowhere: an empty one, or a dot that is not at the start. -/
def isIdle (piece : String × Nat) : Bool :=
  piece.1.isEmpty || (piece.1 == "." && piece.2 != 0)

/-- The path of the directory that holds the last step of a path, if it has a
text. Between the steps that remain nothing is changed. -/
def parent? (path : String) : Option String :=
  let steps := (pieces path).zipIdx.reverse.dropWhile isIdle
  let outer := (steps.drop 1).dropWhile isIdle
  match outer.reverse.map (·.1) with
  | [] => none
  | kept => some (String.intercalate "/" kept)

/-- The path and, as far as the fuel lasts, the directories that hold it, from the inside. -/
def outward : Nat → String → List String
  | 0, _ => []
  | fuel + 1, path =>
    path :: match parent? path with
      | none => []
      | some outer => outward fuel outer

/-- The path and all directories that hold it, from the inside. Each has fewer pieces. -/
def withParents (path : String) : List String :=
  outward (pieces path).length path

/-- What follows the last dot of a name, unless it is the first character. -/
def extension? (name : String) : Option String :=
  let (after, before) := name.toList.reverse.span (· != '.')
  match before with
  | '.' :: _ :: _ => some (.ofList after.reverse)
  | _ => none

end FilePath

end BotKeeper
