import BotKeeper.Interval
import BotKeeper.Lifecycle
import BotKeeper.OrderedMap

/-! The settings of one bot account, and what its launch makes of them. -/

namespace BotKeeper

/-- Names of variables and their values, in ascending order of the names. -/
abbrev Environment := OrderedMap String String

structure Endpoint where
  enable : Bool := false
  host : String := ""
  port : UInt16 := 0
  deriving DecidableEq

structure ConnectionSettings where
  http : Endpoint := {}
  websocket : Endpoint := {}
  secret : String := ""
  heartbeatIntervalMs : UInt64 := 30000
  deriving DecidableEq

inductive LogLevel where
  | debug
  | info
  | error
  deriving DecidableEq, Repr

namespace LogLevel

def name : LogLevel → String
  | debug => "debug"
  | info => "info"
  | error => "error"

def all : List LogLevel :=
  [debug, info, error]

end LogLevel

structure AdvancedSettings where
  debug : Bool := false
  fileLog : Bool := false
  consoleLog : Bool := true
  fileLogLevel : LogLevel := .debug
  consoleLogLevel : LogLevel := .info
  deriving DecidableEq

structure AutoRestartSchedule where
  enable : Bool := false
  interval : Interval := .sixHours
  /-- The largest random delay that is added to an interval, in seconds. -/
  jitterSecs : UInt32 := 0
  deriving DecidableEq

/-- Everything known of one bot account before it is started. Where nothing is said
of them, its paths are texts. -/
structure InstanceConfig (Path : Type := String) where
  accountId : AccountId
  name : String := ""
  executable : Path
  args : List String := []
  workingDir : Path
  env : Environment := .empty
  connection : ConnectionSettings := {}
  advanced : AdvancedSettings := {}
  autoRestart : AutoRestartSchedule := {}
  deriving DecidableEq

namespace AutoRestartSchedule

/-- The seconds until the next restart, where one is scheduled and within the
range of durations. The draw decides how much of the jitter is added. -/
def nextDelay? (schedule : AutoRestartSchedule) (draw : Nat) : Option Nat :=
  if schedule.enable then
    let delay := schedule.interval.seconds + draw % (schedule.jitterSecs.toNat + 1)
    if delay < secondLimit then some delay else none
  else none

/-- Whether some draw leads out of the range of durations. -/
def mayOverflow (schedule : AutoRestartSchedule) : Bool :=
  decide (secondLimit ≤ schedule.interval.seconds + schedule.jitterSecs.toNat)

end AutoRestartSchedule

/-- A display name drawn at random: eight ASCII letters. -/
structure DrawnName where
  letters : List Char
  eight : letters.length = 8 := by decide
  alphabetic : letters.all Char.isAlpha := by decide
  deriving DecidableEq

namespace InstanceConfig

variable {Path : Type}

/-- The config under the drawn name, if its own says nothing. -/
def withDefaultName (config : InstanceConfig) (drawn : DrawnName) : InstanceConfig :=
  if Text.allBlank config.name.toList then { config with name := .ofList drawn.letters } else config

/-- The arguments of a launch: the configured ones, then the account. -/
def launchArgs (config : InstanceConfig Path) : List String :=
  config.args ++ ["-q", toString config.accountId]

def flag (on : Bool) : String :=
  if on then "1" else "0"

/-- The variables that tell a bot where to listen, if it is to. -/
def endpointVariables (host port : String) (endpoint : Endpoint) : List (String × String) :=
  if endpoint.enable then [(host, endpoint.host), (port, toString endpoint.port)] else []

def derivedVariables (config : InstanceConfig Path) : List (String × String) :=
  [("BOT_ACCOUNT_ID", toString config.accountId),
    ("BOT_DEBUG", flag config.advanced.debug),
    ("BOT_FILE_LOG", flag config.advanced.fileLog),
    ("BOT_FILE_LOG_LEVEL", config.advanced.fileLogLevel.name),
    ("BOT_CONSOLE_LOG", flag config.advanced.consoleLog),
    ("BOT_CONSOLE_LOG_LEVEL", config.advanced.consoleLogLevel.name),
    ("BOT_HEARTBEAT_INTERVAL_MS", toString config.connection.heartbeatIntervalMs)] ++
  (if config.connection.secret.isEmpty then [] else [("BOT_SECRET", config.connection.secret)]) ++
  endpointVariables "BOT_HTTP_HOST" "BOT_HTTP_PORT" config.connection.http ++
  endpointVariables "BOT_WS_HOST" "BOT_WS_PORT" config.connection.websocket

/-- The variables of a launch: the derived ones, and over them the configured ones. -/
def launchEnv (config : InstanceConfig Path) : Environment :=
  .ofList (config.derivedVariables ++ config.env.entries)

end InstanceConfig

end BotKeeper
