import BotKeeper.Codec.Record
import BotKeeper.Config

/-! Configs as values, and back. -/

namespace BotKeeper
open Codec

def Interval.decode? (value : Value) : Option Interval := do
  let text ← value.string?
  (Interval.parse text).toOption

def Interval.encode (interval : Interval) : Value :=
  .str interval.text

def LogLevel.decode? (value : Value) : Option LogLevel :=
  option? LogLevel.name LogLevel.all value

def LogLevel.encode (level : LogLevel) : Value :=
  .str level.name

namespace Endpoint

def fieldNames : List String :=
  ["enable", "host", "port"]

def decode? (value : Value) : Option Endpoint := do
  let fields ← fields? .refused fieldNames value
  return {
    enable := ← fields.withDefault "enable" Value.bool? false
    host := ← fields.withDefault "host" Value.string? ""
    port := ← fields.withDefault "port" Value.uint16? 0 }

def encode (endpoint : Endpoint) : Value :=
  .obj [("enable", .bool endpoint.enable), ("host", .str endpoint.host),
    ("port", .ofNat endpoint.port.toNat)]

end Endpoint

namespace ConnectionSettings

def fieldNames : List String :=
  ["http", "websocket", "secret", "heartbeat_interval_ms"]

def decode? (value : Value) : Option ConnectionSettings := do
  let fields ← fields? .refused fieldNames value
  return {
    http := ← fields.withDefault "http" Endpoint.decode? {}
    websocket := ← fields.withDefault "websocket" Endpoint.decode? {}
    secret := ← fields.withDefault "secret" Value.string? ""
    heartbeatIntervalMs := ← fields.withDefault "heartbeat_interval_ms" Value.uint64? 30000 }

def encode (connection : ConnectionSettings) : Value :=
  .obj [("http", connection.http.encode),
    ("websocket", connection.websocket.encode), ("secret", .str connection.secret),
    ("heartbeat_interval_ms", .ofNat connection.heartbeatIntervalMs.toNat)]

end ConnectionSettings

namespace AdvancedSettings

def fieldNames : List String :=
  ["debug", "file_log", "console_log", "file_log_level", "console_log_level"]

def decode? (value : Value) : Option AdvancedSettings := do
  let fields ← fields? .refused fieldNames value
  return {
    debug := ← fields.withDefault "debug" Value.bool? false
    fileLog := ← fields.withDefault "file_log" Value.bool? false
    consoleLog := ← fields.withDefault "console_log" Value.bool? true
    fileLogLevel := ← fields.withDefault "file_log_level" LogLevel.decode? .debug
    consoleLogLevel := ← fields.withDefault "console_log_level" LogLevel.decode? .info }

def encode (advanced : AdvancedSettings) : Value :=
  .obj [("debug", .bool advanced.debug), ("file_log", .bool advanced.fileLog),
    ("console_log", .bool advanced.consoleLog),
    ("file_log_level", advanced.fileLogLevel.encode),
    ("console_log_level", advanced.consoleLogLevel.encode)]

end AdvancedSettings

namespace AutoRestartSchedule

def fieldNames : List String :=
  ["enable", "interval", "jitter_secs"]

def decode? (value : Value) : Option AutoRestartSchedule := do
  let fields ← fields? .refused fieldNames value
  let absent : AutoRestartSchedule := {}
  return {
    enable := ← fields.withDefault "enable" Value.bool? absent.enable
    interval := ← fields.withDefault "interval" Interval.decode? absent.interval
    jitterSecs := ← fields.withDefault "jitter_secs" Value.uint32? absent.jitterSecs }

def encode (schedule : AutoRestartSchedule) : Value :=
  .obj [("enable", .bool schedule.enable), ("interval", schedule.interval.encode),
    ("jitter_secs", .ofNat schedule.jitterSecs.toNat)]

end AutoRestartSchedule

namespace Environment

def decode? (value : Value) : Option Environment :=
  (value.entries? Value.string?).map OrderedMap.ofList

def encode (env : Environment) : Value :=
  .obj (env.entries.map fun (key, value) => (key, .str value))

end Environment

namespace InstanceConfig

def fieldNames : List String :=
  ["account_id", "name", "executable", "args", "working_dir", "env", "connection", "advanced",
    "auto_restart"]

def decode? (value : Value) : Option InstanceConfig := do
  let fields ← fields? .refused fieldNames value
  return {
    accountId := ← fields.required "account_id" Value.uint64?
    name := ← fields.withDefault "name" Value.string? ""
    executable := ← fields.required "executable" Value.string?
    args := ← fields.withDefault "args" (Value.list? Value.string?) []
    workingDir := ← fields.required "working_dir" Value.string?
    env := ← fields.withDefault "env" Environment.decode? .empty
    connection := ← fields.withDefault "connection" ConnectionSettings.decode? {}
    advanced := ← fields.withDefault "advanced" AdvancedSettings.decode? {}
    autoRestart := ← fields.withDefault "auto_restart" AutoRestartSchedule.decode? {} }

def encode (config : InstanceConfig) : Value :=
  .obj [("account_id", .ofNat config.accountId.toNat), ("name", .str config.name),
    ("executable", .str config.executable), ("args", .ofStrings config.args),
    ("working_dir", .str config.workingDir), ("env", Environment.encode config.env),
    ("connection", config.connection.encode),
    ("advanced", config.advanced.encode),
    ("auto_restart", config.autoRestart.encode)]

end InstanceConfig

end BotKeeper
