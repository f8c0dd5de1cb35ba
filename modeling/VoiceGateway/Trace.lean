import VoiceGateway.Json.Value
import VoiceGateway.Snowflake

/-!
# Trace events

The structured record of what the voice system does: one event for every
decision that someone reading the log would ask about. An event is written as
one JSON object whose first member names it; ids are numbers here.
-/

namespace VoiceGateway

/-- A decision of the voice system. -/
inductive TraceEvent where
  | joinRequested (guild channel : Snowflake) (shard : UInt32) (existingSession : Bool)
  | handshakeCompleted (guild : Snowflake) (shard : UInt32) (endpoint : String)
    (durationMs : UInt64)
  | handshakeFailed (guild : Snowflake) (shard : UInt32) (reason : String)
  | raceLost (guild : Snowflake)
  | sessionEvicted (guild : Snowflake)
  | cleanupFailed (guild : Snowflake) (error : String)
  | reconnectFailed (shard attempt maxAttempts : UInt32) (abandoned : Bool)
  | reconnected (shard attempts : UInt32)
deriving DecidableEq, Repr

namespace TraceEvent

/-- The guild an event is about; reconnects concern a shard only. -/
def guild? : TraceEvent → Option Snowflake
  | .joinRequested g _ _ _ | .handshakeCompleted g _ _ _ | .handshakeFailed g _ _
  | .raceLost g | .sessionEvicted g | .cleanupFailed g _ => some g
  | .reconnectFailed _ _ _ _ | .reconnected _ _ => none

/-- An object that begins with the name of the event. -/
def named (name : String) (members : List (String × Json)) : Json :=
  .object (("event", .text name) :: members)

/-- An id as a bare number. -/
def idNumber (id : Snowflake) : Json := .number id.raw.toNat

/-- A 32-bit count. -/
def count (n : UInt32) : Json := .number n.toNat

def toJson : TraceEvent → Json
  | .joinRequested guild channel shard existing =>
    named "VoiceJoinRequested" [("guild_id", idNumber guild), ("channel_id", idNumber channel),
      ("shard_id", count shard), ("existing_session", .bool existing)]
  | .handshakeCompleted guild shard endpoint durationMs =>
    named "VoiceHandshakeCompleted" [("guild_id", idNumber guild), ("shard_id", count shard),
      ("endpoint", .text endpoint), ("duration_ms", .number durationMs.toNat)]
  | .handshakeFailed guild shard reason =>
    named "VoiceHandshakeFailed" [("guild_id", idNumber guild), ("shard_id", count shard),
      ("reason", .text reason)]
  | .raceLost guild => named "VoiceSessionRaceLost" [("guild_id", idNumber guild)]
  | .sessionEvicted guild => named "VoiceSessionEvicted" [("guild_id", idNumber guild)]
  | .cleanupFailed guild error =>
    named "VoiceCleanupFailed" [("guild_id", idNumber guild), ("error", .text error)]
  | .reconnectFailed shard attempt maxAttempts abandoned =>
    named "ShardReconnectFailed" [("shard_id", count shard), ("current_attempt", count attempt),
      ("max_attempts", count maxAttempts), ("abandoned", .bool abandoned)]
  | .reconnected shard attempts =>
    named "ShardReconnected" [("shard_id", count shard), ("attempts", count attempts)]

end TraceEvent

end VoiceGateway
