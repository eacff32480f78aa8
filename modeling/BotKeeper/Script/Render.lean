import BotKeeper.Error
import BotKeeper.Script.Quoting
import BotKeeper.Script.Target
import BotKeeper.SystemPath
import BotKeeper.Text.Lines
import BotKeeper.Text.Quoted

/-! Scripts that start a bot without its keeper. A script says on lines of their
own which program it runs and in which directory, so that both can be read back. -/

namespace BotKeeper.Script

inductive Fault where
  | unsupported (target : ScriptTarget) (host : HostOs)
  | unreadablePath (path : SystemPath)
  | unwritable (value : String)
  | quoteInBatch (value : String)
  | variableName (key : String)
  | undeclared (opening : String)
  | malformed (target : ScriptTarget) (raw : String)
  deriving DecidableEq, Repr

/-- What a value is called in the language of the target. -/
def valueTitle : ScriptTarget → String
  | .powerShell => "PowerShell"
  | .batchFile => "batch"
  | .shellScript => "shell"

def Fault.error : Fault → Error
  | unsupported target host => .unsupportedTarget target.shortName host.name
  | unreadablePath path => .config ("Path " ++ path.shown ++ " is not valid UTF-8")
  | unwritable value =>
    .config ("Value " ++ Text.quoted value ++ " cannot be written to a launch script")
  | quoteInBatch value =>
    .config ("Value " ++ Text.quoted value ++
      " contains a double quote, which batch files cannot carry")
  | variableName key =>
    .config s!"Environment variable '{key}' cannot be written to a launch script"
  | undeclared opening =>
    .config s!"Script does not declare '{opening}'"
  | malformed target raw =>
    .config ("Malformed " ++ valueTitle target ++ " value: " ++ raw)

/-- A line of a script may hold neither of these. -/
def breaksLine (c : Char) : Bool :=
  c == '\n' || c == '\r' || c == '\x00'

def checkValue (target : ScriptTarget) (value : String) : Except Fault Unit :=
  if value.toList.any breaksLine then .error (.unwritable value)
  else if target = .batchFile ∧ '"' ∈ value.toList then .error (.quoteInBatch value)
  else .ok ()

def isNameStart (c : Char) : Bool :=
  c.isAlpha || c == '_'

def isNameChar (c : Char) : Bool :=
  c.isAlphanum || c == '_'

def isIdentifier (key : String) : Bool :=
  match key.toList with
  | first :: rest => isNameStart first && rest.all isNameChar
  | [] => false

def values (config : InstanceConfig) : List String :=
  [config.executable, config.workingDir, config.name] ++ config.launchArgs ++
    config.launchEnv.values

/-- The texts before the program and before the directory on their lines. -/
def executableOpening : ScriptTarget → String
  | .shellScript => "BOT_EXECUTABLE="
  | .powerShell => "$BotExecutable = "
  | .batchFile => "set \"BOT_EXECUTABLE="

def workingDirOpening : ScriptTarget → String
  | .shellScript => "BOT_WORKDIR="
  | .powerShell => "$BotWorkDir = "
  | .batchFile => "set \"BOT_WORKDIR="

def header (config : InstanceConfig) : String :=
  s!"Launch script for bot {config.accountId} (" ++ config.name ++ ")"

def spaced (words : List (List Char)) : List Char :=
  [' '].intercalate words

def shellLines (config : InstanceConfig) : List (List Char) :=
  ["#!/bin/sh".toList,
    "# ".toList ++ (header config).toList,
    (executableOpening .shellScript).toList ++ Shell.word config.executable.toList,
    (workingDirOpening .shellScript).toList ++ Shell.word config.workingDir.toList] ++
  config.launchEnv.entries.map (fun (key, value) =>
    "export ".toList ++ key.toList ++ '=' :: Shell.word value.toList) ++
  ["cd \"$BOT_WORKDIR\" || exit 1".toList,
    "exec \"$BOT_EXECUTABLE\" ".toList ++
      spaced (config.launchArgs.map fun arg => Shell.word arg.toList)]

def powerShellLines (config : InstanceConfig) : List (List Char) :=
  ["# ".toList ++ (header config).toList,
    "[Console]::OutputEncoding = [System.Text.Encoding]::UTF8".toList,
    (executableOpening .powerShell).toList ++ PowerShell.word config.executable.toList,
    (workingDirOpening .powerShell).toList ++ PowerShell.word config.workingDir.toList] ++
  config.launchEnv.entries.map (fun (key, value) =>
    "$env:".toList ++ key.toList ++ " = ".toList ++ PowerShell.word value.toList) ++
  ["Set-Location -LiteralPath $BotWorkDir".toList,
    "& $BotExecutable ".toList ++
      spaced (config.launchArgs.map fun arg => PowerShell.word arg.toList)]

def batchLines (config : InstanceConfig) : List (List Char) :=
  ["@echo off".toList,
    "chcp 65001 > nul".toList,
    "rem ".toList ++ (header config).toList,
    (executableOpening .batchFile).toList ++ Batch.word config.executable.toList ++ ['"'],
    (workingDirOpening .batchFile).toList ++ Batch.word config.workingDir.toList ++ ['"']] ++
  config.launchEnv.entries.map (fun (key, value) =>
    "set \"".toList ++ key.toList ++ '=' :: Batch.word value.toList ++ ['"']) ++
  ["cd /d \"%BOT_WORKDIR%\"".toList,
    "\"%BOT_EXECUTABLE%\" ".toList ++
      spaced (config.launchArgs.map fun arg => '"' :: Batch.word arg.toList ++ ['"'])]

def scriptLines (config : InstanceConfig) : ScriptTarget → List (List Char)
  | .shellScript => shellLines config
  | .powerShell => powerShellLines config
  | .batchFile => batchLines config

/-- Whether a script can carry the config: the first value that it cannot hold is
reported, and after the values the first name of a variable. -/
def check (config : InstanceConfig) (target : ScriptTarget) : Except Fault Unit := do
  (values config).forM (checkValue target)
  match config.launchEnv.keys.find? (fun key => !isIdentifier key) with
  | some key => .error (.variableName key)
  | none => .ok ()

def pathText (path : SystemPath) : Except Fault String :=
  match path.text? with
  | some text => .ok text
  | none => .error (.unreadablePath path)

/-- The config with its paths as texts, if they are texts. The program is looked at first. -/
def readPaths (config : InstanceConfig SystemPath) : Except Fault InstanceConfig := do
  let executable ← pathText config.executable
  let workingDir ← pathText config.workingDir
  return { config with executable, workingDir }

def render (config : InstanceConfig SystemPath) (target : ScriptTarget) (host : HostOs) :
    Except Fault String := do
  if target.isSupportedOn host then
    let config ← readPaths config
    check config target
    return .ofList ((scriptLines config target).flatMap (· ++ target.lineEnd))
  else .error (.unsupported target host)

end BotKeeper.Script
