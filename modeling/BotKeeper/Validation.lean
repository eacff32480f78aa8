import BotKeeper.Config

/-! The conditions that a config has to meet before an instance may have it. The
first one that fails is reported, in the order in which they stand here. -/

namespace BotKeeper

def minAccountDigits : Nat := 5
def maxAccountDigits : Nat := 12
def maxJitterSecs : Nat := 3600
def maxRestartIntervalDays : Nat := 365

inductive ConfigFault where
  | accountId (id : AccountId)
  | emptyExecutable
  | emptyWorkingDir
  | emptyHost (label : String)
  | zeroPort (label : String)
  | variableName (key : String)
  | variableValue (key : String)
  | jitter
  | restartInterval
  deriving DecidableEq, Repr

namespace ConfigFault

def message : ConfigFault → String
  | accountId id =>
    s!"Invalid account id {id}: expected {minAccountDigits}-{maxAccountDigits} digits"
  | emptyExecutable => "Executable path is empty"
  | emptyWorkingDir => "Working directory is empty"
  | emptyHost label => s!"{label} endpoint host is empty"
  | zeroPort label => s!"{label} endpoint port is zero"
  | variableName key => s!"Invalid environment variable name '{key}'"
  | variableValue key => s!"Environment variable '{key}' contains a NUL byte"
  | jitter => s!"Auto-restart jitter must be at most {maxJitterSecs}s"
  | restartInterval => s!"Auto-restart interval must be at most {maxRestartIntervalDays}d"

end ConfigFault

def require (condition : Bool) (fault : ConfigFault) : Except ConfigFault Unit :=
  if condition then .ok () else .error fault

def checkAccountId (id : AccountId) : Except ConfigFault Unit :=
  let digits := (toString id).length
  require (minAccountDigits ≤ digits && digits ≤ maxAccountDigits) (.accountId id)

/-- An endpoint that is in use has a host and a port. -/
def checkEndpoint (label : String) (endpoint : Endpoint) : Except ConfigFault Unit := do
  require (!endpoint.enable || !Text.allBlank endpoint.host.toList) (.emptyHost label)
  require (!endpoint.enable || endpoint.port != 0) (.zeroPort label)

def hasNul (text : String) : Bool :=
  text.toList.contains '\x00'

def checkVariable (key value : String) : Except ConfigFault Unit := do
  require (!(key.isEmpty || key.toList.contains '=' || hasNul key)) (.variableName key)
  require (!hasNul value) (.variableValue key)

namespace InstanceConfig

def validate (config : InstanceConfig) : Except ConfigFault Unit := do
  checkAccountId config.accountId
  require (!config.executable.isEmpty) .emptyExecutable
  require (!config.workingDir.isEmpty) .emptyWorkingDir
  checkEndpoint "http" config.connection.http
  checkEndpoint "websocket" config.connection.websocket
  config.env.entries.forM fun (key, value) => checkVariable key value
  require (config.autoRestart.jitterSecs.toNat ≤ maxJitterSecs) .jitter
  require (config.autoRestart.interval.seconds ≤ maxRestartIntervalDays * TimeUnit.day.seconds)
    .restartInterval

end InstanceConfig

end BotKeeper
