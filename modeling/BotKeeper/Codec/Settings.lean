import BotKeeper.Codec.Record
import BotKeeper.Settings

/-! The settings of the keeper as values, and back. Some documents may give an
array more items than its record has fields, so the reading is told. -/

namespace BotKeeper
open Codec

namespace RestartPolicy

def fieldNames : List String :=
  ["max_restarts", "window_secs"]

def decode? (surplus : Surplus) (value : Value) : Option RestartPolicy := do
  let fields ← fields? surplus fieldNames value
  return {
    maxRestarts := ← fields.withDefault "max_restarts" Value.uint32? 5
    windowSecs := ← fields.withDefault "window_secs" Value.uint64? 300 }

def encode (policy : RestartPolicy) : Value :=
  .obj [("max_restarts", .ofNat policy.maxRestarts.toNat),
    ("window_secs", .ofNat policy.windowSecs.toNat)]

end RestartPolicy

namespace KeeperSettings

def fieldNames : List String :=
  ["graceful_shutdown_timeout_secs", "event_capacity", "output_history_lines", "restart_policy"]

def decode? (surplus : Surplus) (value : Value) : Option KeeperSettings := do
  let fields ← fields? surplus fieldNames value
  return {
    gracefulTimeoutSecs :=
      ← fields.withDefault "graceful_shutdown_timeout_secs" Value.uint64? 10
    eventCapacity := ← fields.withDefault "event_capacity" Value.uint64? 256
    outputHistoryLines := ← fields.withDefault "output_history_lines" Value.uint64? 500
    restartPolicy := ← fields.withDefault "restart_policy" (RestartPolicy.decode? surplus) {} }

def encode (settings : KeeperSettings) : Value :=
  .obj [("graceful_shutdown_timeout_secs", .ofNat settings.gracefulTimeoutSecs.toNat),
    ("event_capacity", .ofNat settings.eventCapacity.toNat),
    ("output_history_lines", .ofNat settings.outputHistoryLines.toNat),
    ("restart_policy", settings.restartPolicy.encode)]

end KeeperSettings

end BotKeeper
