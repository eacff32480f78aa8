import BotKeeper.Keeper.Happening

/-! A rehearsal: bots that do what they are told to, on a host that is known. -/

namespace BotKeeper

namespace Keeper

/-- Each text is printed with a line feed and has its effect before the next one.
Where no process is left, the rest is not printed. -/
def printLines (keeper : Keeper) (id : AccountId) : List String → Keeper
  | [] => keeper
  | line :: rest =>
    match keeper.print? id (line ++ "\n").toUTF8.toList with
    | none => keeper
    | some keeper => keeper.settle.printLines id rest

def argumentsLine (bot : Bot) : String :=
  "args " ++ String.intercalate "|" bot.config.launchArgs

def variableLine (bot : Bot) (key : String) : String :=
  match bot.config.launchEnv.get? key with
  | some value => "env " ++ key ++ "=" ++ value
  | none => "env " ++ key ++ "(unset)"

end Keeper

namespace Host

def commonDirs : List (List String) :=
  [["bin"], ["boot"], ["dev"], ["dev", "pts"], ["dev", "shm"], ["etc"], ["etc", "default"], ["home"],
    ["lib"], ["lib64"], ["media"], ["mnt"], ["opt"], ["proc"], ["proc", "sys"], ["root"], ["run"],
    ["sbin"], ["srv"], ["sys"], ["tmp"], ["usr"], ["usr", "bin"], ["usr", "include"], ["usr", "lib"],
    ["usr", "local"], ["usr", "local", "bin"], ["usr", "local", "lib"], ["usr", "local", "sbin"],
    ["usr", "local", "share"], ["usr", "sbin"], ["usr", "share"], ["usr", "src"], ["var"],
    ["var", "cache"], ["var", "lib"], ["var", "log"], ["var", "mail"], ["var", "spool"],
    ["var", "tmp"]]

def commonFiles : List (List String) :=
  [["dev", "full"], ["dev", "null"], ["dev", "random"], ["dev", "tty"], ["dev", "urandom"],
    ["dev", "zero"], ["etc", "fstab"], ["etc", "group"], ["etc", "hostname"], ["etc", "hosts"],
    ["etc", "nsswitch.conf"], ["etc", "os-release"], ["etc", "passwd"], ["etc", "profile"],
    ["etc", "resolv.conf"], ["etc", "shadow"], ["etc", "shells"], ["proc", "cpuinfo"],
    ["proc", "meminfo"], ["proc", "version"]]

/-- A host on which a bot of one name can be launched. -/
def rehearsal (program : String) : Host where
  programs := [program]
  searchPath := "/usr/local/sbin:/usr/local/bin:/usr/sbin:/usr/bin:/sbin:/bin"
  files := ⟨.ofList ((commonDirs.map (·, FileNode.dir)) ++
    commonFiles.map (·, FileNode.file "" false))⟩

end Host

end BotKeeper
