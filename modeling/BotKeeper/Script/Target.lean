import BotKeeper.Codec.Record

/-! The kinds of launch scripts and the hosts that they run on. -/

namespace BotKeeper

inductive HostOs where
  | windows
  | unix
  deriving DecidableEq, Repr

def HostOs.name : HostOs → String
  | windows => "windows"
  | unix => "unix"

inductive ScriptTarget where
  | powerShell
  | batchFile
  | shellScript
  deriving DecidableEq, Repr

namespace ScriptTarget

def shortName : ScriptTarget → String
  | powerShell => "powershell"
  | batchFile => "batch"
  | shellScript => "shell"

def name : ScriptTarget → String
  | powerShell => "power_shell"
  | batchFile => "batch_file"
  | shellScript => "shell_script"

def all : List ScriptTarget :=
  [powerShell, batchFile, shellScript]

def defaultFileName : ScriptTarget → String
  | powerShell => "start.ps1"
  | batchFile => "start.bat"
  | shellScript => "start.sh"

def host : ScriptTarget → HostOs
  | powerShell => .windows
  | batchFile => .windows
  | shellScript => .unix

def isSupportedOn (target : ScriptTarget) (host : HostOs) : Bool :=
  target.host == host

def lineEnd : ScriptTarget → List Char
  | powerShell => ['\r', '\n']
  | batchFile => ['\r', '\n']
  | shellScript => ['\n']

def decode? (value : Value) : Option ScriptTarget :=
  Codec.option? name all value

def encode (target : ScriptTarget) : Value :=
  .str target.name

end ScriptTarget

end BotKeeper
