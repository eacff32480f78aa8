import BotKeeper.FilePath
import BotKeeper.OrderedMap
import BotKeeper.SystemError

/-! Directories and regular files below one directory, and what the operating
system does with a path: it walks from piece to piece through directories and
treats only the last piece specially. -/

namespace BotKeeper

inductive FileNode where
  | dir
  | file (content : String) (executable : Bool)
  deriving DecidableEq, Repr

/-- The names that lead from the top to a node. -/
abbrev Place := List String

/-- The node at each place below the top, which is a directory itself. -/
structure FileTree where
  nodes : OrderedMap Place FileNode := .empty
  deriving DecidableEq

/-- Where a path leads: the directory of its last piece, and that piece's name
unless it is made of dots. -/
structure Destination where
  parent : Place
  name : Option String
  /-- Whether a slash follows the name. -/
  slash : Bool
  deriving DecidableEq, Repr

namespace FileTree

def maxNameBytes : Nat := 255
def maxPathBytes : Nat := 4095

def node? (tree : FileTree) (place : Place) : Option FileNode :=
  if place = [] then some .dir else tree.nodes.get? place

def step (tree : FileTree) (place : Place) (piece : String) : Except SystemError Place :=
  if piece = "" ∨ piece = "." then .ok place
  else if piece = ".." then .ok place.dropLast
  else if maxNameBytes < piece.utf8ByteSize then .error .nameTooLong
  else
    match tree.node? (place ++ [piece]) with
    | some .dir => .ok (place ++ [piece])
    | some (.file _ _) => .error .notDirectory
    | none => .error .noEntry

def walk (tree : FileTree) (start : Place) (pieces : List String) : Except SystemError Place :=
  pieces.foldlM tree.step start

/-- The destination of a path, from the directory at a place, whose pieces before the
last one are directories. -/
def locateFrom (tree : FileTree) (start : Place) (path : String) : Except SystemError Destination :=
  if path.toList.contains '\x00' then .error .nulInPath
  else if path.isEmpty then .error .noEntry
  else if maxPathBytes < path.utf8ByteSize then .error .nameTooLong
  else
    let pieces := FilePath.pieces path
    match pieces.reverse.dropWhile String.isEmpty with
    | [] => .ok ⟨[], none, true⟩
    | last :: front => do
      let parent ← tree.walk start front.reverse
      let slash := pieces.getLast? == some ""
      if last = "." then return ⟨parent, none, slash⟩
      else if last = ".." then return ⟨parent.dropLast, none, slash⟩
      else return ⟨parent, some last, slash⟩

/-- The place that a path names, where a name of that length may be. -/
def placeOf (destination : Destination) (name : String) : Except SystemError Place :=
  if maxNameBytes < name.utf8ByteSize then .error .nameTooLong
  else .ok (destination.parent ++ [name])

/-- The place and the node that a path leads to from the directory at a place. -/
def resolve (tree : FileTree) (start : Place) (path : String) :
    Except SystemError (Place × FileNode) := do
  let destination ← tree.locateFrom start path
  match destination.name with
  | none => return (destination.parent, .dir)
  | some name =>
    let place ← placeOf destination name
    match tree.node? place with
    | none => .error .noEntry
    | some .dir => return (place, .dir)
    | some (.file content executable) =>
      if destination.slash then .error .notDirectory
      else return (place, .file content executable)

/-! Paths are looked at from the top, unless another directory is given. -/

def find (tree : FileTree) (path : String) (start : Place := []) : Except SystemError FileNode :=
  (tree.resolve start path).map (·.2)

def isDir (tree : FileTree) (path : String) (start : Place := []) : Bool :=
  match tree.find path start with
  | .ok .dir => true
  | _ => false

def put (tree : FileTree) (place : Place) (node : FileNode) : FileTree :=
  ⟨tree.nodes.insert place node⟩

def makeDir (tree : FileTree) (path : String) (start : Place := []) :
    Except SystemError FileTree := do
  let destination ← tree.locateFrom start path
  match destination.name with
  | none => .error .fileExists
  | some name =>
    let place ← placeOf destination name
    match tree.node? place with
    | some _ => .error .fileExists
    | none => return tree.put place .dir

/-- The error, unless the path is a directory after all. -/
def unlessDir (tree : FileTree) (path : String) (error : SystemError) (start : Place := []) :
    Except SystemError Unit :=
  if tree.isDir path start then .ok () else .error error

/-- Makes the first path, and before it, from the outside, those of the rest that
are missing. What was made stays, also when the next one cannot be made. -/
def makeDirs (tree : FileTree) (paths : List String) (start : Place := []) :
    FileTree × Except SystemError Unit :=
  match paths with
  | [] => (tree, .ok ())
  | path :: outer =>
    match tree.makeDir path start with
    | .ok made => (made, .ok ())
    | .error .noEntry =>
      match tree.makeDirs outer start with
      | (tree, .error error) => (tree, .error error)
      | (tree, .ok ()) =>
        match tree.makeDir path start with
        | .ok made => (made, .ok ())
        | .error error => (tree, tree.unlessDir path error start)
    | .error error => (tree, tree.unlessDir path error start)

def removeDir (tree : FileTree) (path : String) (start : Place := []) :
    Except SystemError FileTree := do
  let destination ← tree.locateFrom start path
  match destination.name with
  | none => .error .invalidArgument
  | some name =>
    let place ← placeOf destination name
    match tree.node? place with
    | none => .error .noEntry
    | some (.file _ _) => .error .notDirectory
    | some .dir =>
      if tree.nodes.keys.any (fun other => other != place && place.isPrefixOf other) then
        .error .directoryNotEmpty
      else return ⟨tree.nodes.erase place⟩

/-- The place of the regular file that is opened for writing: a new one, or one
that may be replaced. -/
def openFile (tree : FileTree) (path : String) (replace : Bool) (start : Place := []) :
    Except SystemError Place := do
  let destination ← tree.locateFrom start path
  match destination.name with
  | none => if replace then .error .isDirectory else .error .fileExists
  | some name =>
    if destination.slash then .error .isDirectory
    else
      let place ← placeOf destination name
      match tree.node? place with
      | none => return place
      | some .dir => if replace then .error .isDirectory else .error .fileExists
      | some (.file _ _) => if replace then return place else .error .fileExists

/-- The tree with the text in the file at a place. A file that was there keeps its mode. -/
def writeFile (tree : FileTree) (place : Place) (text : String) : FileTree :=
  match tree.node? place with
  | some (.file _ executable) => tree.put place (.file text executable)
  | _ => tree.put place (.file text false)

def makeExecutable (tree : FileTree) (place : Place) : FileTree :=
  match tree.node? place with
  | some (.file content _) => tree.put place (.file content true)
  | _ => tree

/-- The text of a node with the path that leads to it; a slash marks a directory. -/
def entryText (entry : Place × FileNode) : String :=
  let path := String.intercalate "/" entry.1
  match entry.2 with
  | .dir => path ++ "/"
  | .file _ _ => path

def listing (tree : FileTree) : List String :=
  (tree.nodes.entries.map entryText).mergeSort (fun left right => decide (left ≤ right))

end FileTree

end BotKeeper
