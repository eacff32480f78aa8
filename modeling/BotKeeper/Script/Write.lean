import BotKeeper.Error
import BotKeeper.FileTree

/-! A script on disk. Missing directories are made, and an existing file is
replaced only where that is asked for. Paths are relative: they lead from the
directory in which the keeper runs. -/

namespace BotKeeper.Script

/-- Whether a file of this name is run by the shell. -/
def isShellScript (place : Place) : Bool :=
  place.getLast?.bind FilePath.extension? == some "sh"

def makeParent (tree : FileTree) (path : String) (start : Place := []) :
    FileTree × Except Error Unit :=
  match FilePath.parent? path with
  | none => (tree, .ok ())
  | some parent =>
    match tree.makeDirs (FilePath.withParents parent) start with
    | (tree, .ok ()) => (tree, .ok ())
    | (tree, .error error) =>
      (tree, .error (.io ("Failed to create " ++ parent ++ ": " ++ error.text)))

def openError (path : String) : SystemError → Error
  | .fileExists => .alreadyExists path
  | error => .io ("Failed to open " ++ path ++ ": " ++ error.text)

/-- Writes the text to the file at a path, executable if it is a shell script. -/
def write (tree : FileTree) (path text : String) (overwrite : Bool) (start : Place := []) :
    FileTree × Except Error Unit :=
  match makeParent tree path start with
  | (tree, .error error) => (tree, .error error)
  | (tree, .ok ()) =>
    match tree.openFile path overwrite start with
    | .error error => (tree, .error (openError path error))
    | .ok place =>
      let written := tree.writeFile place text
      (if isShellScript place then written.makeExecutable place else written, .ok ())

end BotKeeper.Script
