import BotKeeper.Codec.Lifecycle
import BotKeeper.Error
import BotKeeper.Feed
import BotKeeper.Machine

/-! Published events, snapshots, outcomes and errors as values. -/

namespace BotKeeper
open Codec

def FeedEvent.encode : FeedEvent → Value
  | phaseChanged id before after =>
    .obj [("type", .str "phase_changed"), ("id", .ofNat id.toNat), ("from", before.encode),
      ("to", after.encode)]
  | lifecycle id event =>
    .obj [("type", .str "lifecycle"), ("id", .ofNat id.toNat), ("event", event.encode)]
  | output id line =>
    .obj [("type", .str "output"), ("id", .ofNat id.toNat), ("line", .str line)]
  | notice id told =>
    .obj [("type", .str "notice"), ("id", .ofNat id.toNat), ("notice", told.encode)]

def Snapshot.encode (snapshot : Snapshot) : Value :=
  .obj [("id", .ofNat snapshot.id.toNat), ("name", .str snapshot.name),
    ("phase", snapshot.phase.encode), ("last_qr_payload", nullOr .str snapshot.lastQrPayload),
    ("restart_count", .ofNat snapshot.restartCount.toNat),
    ("started_at", nullOr (fun instant => .str instant.text) snapshot.startedAt),
    ("pid", nullOr (fun pid => .ofNat pid.toNat) snapshot.pid)]

def Effect.encode : Effect → Value
  | spawn => .str "spawn"
  | terminate graceful => .obj [("terminate", .obj [("graceful", .bool graceful)])]
  | notify notice => .obj [("notify", notice.encode)]

def Outcome.encode (outcome : Outcome) : Value :=
  .obj [("from", outcome.before.encode), ("to", outcome.after.encode),
    ("changed", .bool outcome.changed), ("effects", .arr (outcome.effects.map Effect.encode))]

def Payload.encode (payload : Payload) : Value :=
  .obj (payload.map fun (key, text) => (key, .str text))

def Error.encode (error : Error) : Value :=
  .obj [("code", .ofNat error.code), ("payload", error.payload.encode)]

end BotKeeper
