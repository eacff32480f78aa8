import BotKeeper.Codec.Record
import BotKeeper.Lifecycle
import BotKeeper.Phase

/-! Phases, lifecycle events and notices as values, and back. -/

namespace BotKeeper
open Codec

def Phase.decode? (value : Value) : Option Phase :=
  option? Phase.name Phase.all value

def Phase.encode (phase : Phase) : Value :=
  .str phase.name

def encodeCode (code : Option Int32) : Value :=
  nullOr (fun code => .int code.toInt) code

namespace LifecycleEvent

def decode? (value : Value) : Option LifecycleEvent := do
  let (kind, rest) ← choice? value
  match kind with
  | "qr_challenge" =>
    let fields ← fields? .refused ["payload"] rest
    return .qrChallenge (← fields.required "payload" Value.string?)
  | "quick_login_error" =>
    let fields ← fields? .refused ["message"] rest
    return .quickLoginError (← fields.required "message" Value.string?)
  | "login_success" =>
    let fields ← fields? .refused ["account_id"] rest
    return .loginSuccess (← fields.required "account_id" Value.uint64?)
  | "account_offline" =>
    let _ ← fields? .refused [] rest
    return .accountOffline
  | "process_exited" =>
    let fields ← fields? .refused ["code"] rest
    return .processExited (← fields.nullable "code" Value.int32?)
  | _ => none

def encode : LifecycleEvent → Value
  | qrChallenge payload => .obj [("kind", .str "qr_challenge"), ("payload", .str payload)]
  | quickLoginError message =>
    .obj [("kind", .str "quick_login_error"), ("message", .str message)]
  | loginSuccess account =>
    .obj [("kind", .str "login_success"), ("account_id", .ofNat account.toNat)]
  | accountOffline => .obj [("kind", .str "account_offline")]
  | processExited code => .obj [("kind", .str "process_exited"), ("code", encodeCode code)]

end LifecycleEvent

namespace Notice

def decode? (value : Value) : Option Notice := do
  let (kind, rest) ← choice? value
  match kind with
  | "auto_restarting" =>
    let fields ← fields? .refused ["attempt", "reason"] rest
    return .autoRestarting (← fields.required "attempt" Value.uint32?)
      (← fields.required "reason" Value.string?)
  | "restart_limit_reached" =>
    let fields ← fields? .refused ["restarts"] rest
    return .restartLimitReached (← fields.required "restarts" Value.uint32?)
  | "start_failed" =>
    let fields ← fields? .refused ["code"] rest
    return .startFailed (← fields.nullable "code" Value.int32?)
  | "unexpected_exit" =>
    let fields ← fields? .refused ["code"] rest
    return .unexpectedExit (← fields.nullable "code" Value.int32?)
  | "login_succeeded" =>
    let fields ← fields? .refused ["account_id"] rest
    return .loginSucceeded (← fields.required "account_id" Value.uint64?)
  | "account_offline" =>
    let _ ← fields? .refused [] rest
    return .accountOffline
  | "scheduled_restart" =>
    let _ ← fields? .refused [] rest
    return .scheduledRestart
  | _ => none

def encode : Notice → Value
  | autoRestarting attempt reason =>
    .obj [("kind", .str "auto_restarting"), ("attempt", .ofNat attempt.toNat),
      ("reason", .str reason)]
  | restartLimitReached restarts =>
    .obj [("kind", .str "restart_limit_reached"), ("restarts", .ofNat restarts.toNat)]
  | startFailed code => .obj [("kind", .str "start_failed"), ("code", encodeCode code)]
  | unexpectedExit code => .obj [("kind", .str "unexpected_exit"), ("code", encodeCode code)]
  | loginSucceeded account =>
    .obj [("kind", .str "login_succeeded"), ("account_id", .ofNat account.toNat)]
  | accountOffline => .obj [("kind", .str "account_offline")]
  | scheduledRestart => .obj [("kind", .str "scheduled_restart")]

end Notice

end BotKeeper
