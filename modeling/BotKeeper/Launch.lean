import BotKeeper.Config
import BotKeeper.Error
import BotKeeper.FileTree
import BotKeeper.Text.Split
import BotKeeper.Validation

/-! Whether the system can launch a config. The working directory is entered
before the program is looked for. A program without a slash in its name is looked
for in a list of directories, from the first to the last. -/

namespace BotKeeper

/-- What a launch finds on a host. -/
structure Host where
  /-- The programs that are found by their names, as long as the config does not say
  itself where to look. -/
  programs : List String := []
  /-- The directories in which a program is looked for, with colons between them. -/
  searchPath : String := ""
  files : FileTree := {}

/-- A directory: below the root of a host, or below the directory of the keeper. -/
structure Position where
  tree : FileTree
  place : Place := []

def SpawnReason.ofSystem : SystemError → SpawnReason
  | .noEntry => .executableNotFound
  | .permissionDenied => .permissionDenied
  | _ => .other

namespace Host

/-- The node at a path as it is seen from a directory, and the position of that node. -/
def look (host : Host) (here : Position) (path : String) :
    Except SystemError (Position × FileNode) := do
  let start := if path.toList.head? = some '/' then ⟨host.files, []⟩ else here
  let (place, node) ← start.tree.resolve start.place path
  return (⟨start.tree, place⟩, node)

/-- Whether one of the texts that are handed to the system cannot be. -/
def holdsNul (config : InstanceConfig) : Bool :=
  hasNul config.executable || hasNul config.workingDir || config.launchArgs.any hasNul ||
    config.launchEnv.entries.any fun (key, value) => hasNul key || hasNul value

def enter (host : Host) (here : Position) (path : String) : Except SystemError Position :=
  match host.look here path with
  | .ok (position, .dir) => .ok position
  | .ok (_, .file _ _) => .error .notDirectory
  | .error error => .error error

/-- Whether the node at a path is a program that may be run. -/
def probe (host : Host) (here : Position) (path : String) : Except SystemError Unit :=
  match host.look here path with
  | .ok (_, .file _ true) => .ok ()
  | .ok _ => .error .permissionDenied
  | .error error => .error error

/-- The paths of a program in the directories of a list. An empty entry of the list
is the working directory. -/
def candidates (searchPath name : String) : List String :=
  (Text.splitAt ':' searchPath.toList).map fun dir =>
    if dir.isEmpty then name else .ofList dir ++ "/" ++ name

def isPassedOver (error : SystemError) : Bool :=
  error == .permissionDenied || error == .noEntry || error == .notDirectory

/-- The error after all candidates have been passed over: that one may not be run
counts more than that the last one is missing. -/
def searchError (errors : List SystemError) : SystemError :=
  if errors.contains .permissionDenied then .permissionDenied else errors.getLast?.getD .noEntry

/-- The first candidate that can be run ends the search, and so does an error that
says more than that a candidate cannot be run. `errors` are those passed over before. -/
def search (probe : String → Except SystemError Unit) (errors : List SystemError) :
    List String → Except SystemError Unit
  | [] => .error (searchError errors)
  | path :: rest =>
    match probe path with
    | .ok () => .ok ()
    | .error error =>
      if isPassedOver error then search probe (errors ++ [error]) rest else .error error

/-- A program with a slash in its name is at that path; any other one is searched. -/
def findProgram (host : Host) (here : Position) (config : InstanceConfig) :
    Except SystemError Unit :=
  if config.executable.isEmpty then .error .noEntry
  else if config.executable.toList.contains '/' then host.probe here config.executable
  else
    match config.env.get? "PATH" with
    | some searchPath => search (host.probe here) [] (candidates searchPath config.executable)
    | none =>
      if config.executable ∈ host.programs then .ok ()
      else search (host.probe here) [] (candidates host.searchPath config.executable)

/-- Nothing if the config can be launched from the directory of the keeper with these files. -/
def launch (host : Host) (files : FileTree) (config : InstanceConfig) : Except SystemError Unit := do
  if holdsNul config then .error .nulInData
  let here ← host.enter { tree := files } config.workingDir
  host.findProgram here config

end Host

end BotKeeper
