import VoiceGateway.Json.Decode
import VoiceGateway.Json.Value
import VoiceGateway.Shard

/-!
# Voice commands

What a client sends to the gateway: a voice state update says which channel of
a guild it wants to be in, if any, and whether muted or deafened. A command is
an update addressed to the shard that owns the guild.
-/

namespace VoiceGateway

/-- A wish to join or move to a voice channel, or to leave the guild's channels. -/
structure VoiceUpdate where
  guild : Snowflake
  channel : Option Snowflake
  selfMute : Bool
  selfDeaf : Bool
deriving DecidableEq, Repr

namespace VoiceUpdate

/-- The update that joins or moves to a channel. -/
def join (guild channel : Snowflake) (selfMute selfDeaf : Bool) : VoiceUpdate :=
  ⟨guild, some channel, selfMute, selfDeaf⟩

/-- The update that leaves: no channel, and both flags cleared. -/
def leave (guild : Snowflake) : VoiceUpdate := ⟨guild, none, false, false⟩

/-- Whether the update leaves. -/
def isLeave (u : VoiceUpdate) : Bool := u.channel.isNone

def toJson (u : VoiceUpdate) : Json :=
  .object [("guild_id", .text u.guild.text),
    ("channel_id", Json.ofOption (fun c => .text c.text) u.channel),
    ("self_mute", .bool u.selfMute), ("self_deaf", .bool u.selfDeaf)]

/-- The fields in the order in which an array gives them. -/
def fields : List Json.Field :=
  [.of "guild_id" Json.decodeSnowflake,
    .of "channel_id" (Json.decodeNullable Json.decodeSnowflake),
    .of "self_mute" Json.decodeBool, .of "self_deaf" Json.decodeBool]

def decode : Json.Decoder VoiceUpdate := fun d => do
  let given ← Json.readRecord .text "VoiceStateUpdate" fields d
  let guild ← given.required "guild_id" Json.decodeSnowflake
  let channel ← given.nullable "channel_id" Json.decodeSnowflake
  let selfMute ← given.required "self_mute" Json.decodeBool
  let selfDeaf ← given.required "self_deaf" Json.decodeBool
  return ⟨guild, channel, selfMute, selfDeaf⟩

end VoiceUpdate

/-- A voice state update addressed to one shard. -/
structure ShardCommand where
  shard : UInt32
  update : VoiceUpdate
deriving DecidableEq, Repr

namespace ShardCommand

/-- Addresses an update to the shard that owns its guild. -/
def route (u : VoiceUpdate) (shardCount : UInt32) : ShardCommand :=
  ⟨shardOf u.guild shardCount, u⟩

def toJson (c : ShardCommand) : Json :=
  .object [("shard_id", .number c.shard.toNat), ("payload", c.update.toJson)]

/-- The fields in the order in which an array gives them. -/
def fields : List Json.Field :=
  [.of "shard_id" Json.decodeUInt32, .of "payload" VoiceUpdate.decode]

def decode : Json.Decoder ShardCommand := fun d => do
  let given ← Json.readRecord .text "ShardPayload" fields d
  let shard ← given.required "shard_id" Json.decodeUInt32
  let update ← given.required "payload" VoiceUpdate.decode
  return ⟨shard, update⟩

end ShardCommand

end VoiceGateway
