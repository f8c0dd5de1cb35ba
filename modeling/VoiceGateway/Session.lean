import VoiceGateway.Json.Value
import VoiceGateway.Snowflake

/-!
# Voice sessions

A session is what a completed handshake leaves behind: where the media layer is
to connect, and as whom. Its facts never change. Whether it is still connected
is kept beside it, by whoever keeps the session.

A snapshot is what may be shown of a session; the token is not.
-/

namespace VoiceGateway

/-- Where the media layer connects, and the token that admits it there. -/
structure ServerOptions where
  endpoint : String
  token : String
deriving DecidableEq, Repr

def ServerOptions.toJson (s : ServerOptions) : Json :=
  .object [("endpoint", .text s.endpoint), ("token", .text s.token)]

/-- An established voice session of one guild. -/
structure Session where
  guild : Snowflake
  channel : Snowflake
  selfId : Snowflake
  shard : UInt32
  sessionId : String
  server : ServerOptions
deriving DecidableEq, Repr

/-- Whether a session is still good. -/
inductive SessionState where
  | connected
  | disconnected
deriving DecidableEq, Repr

def SessionState.text : SessionState → String
  | .connected => "connected"
  | .disconnected => "disconnected"

/-- What may be shown of a session. -/
structure SessionInfo where
  guild : Snowflake
  channel : Snowflake
  selfId : Snowflake
  shard : UInt32
  endpoint : String
  state : SessionState
deriving DecidableEq, Repr

/-- The snapshot of a session in the given state. -/
def Session.info (s : Session) (state : SessionState) : SessionInfo :=
  ⟨s.guild, s.channel, s.selfId, s.shard, s.server.endpoint, state⟩

/-- A snapshot in JSON, with the text of the time at which the session was made. -/
def SessionInfo.toJson (i : SessionInfo) (createdAt : String) : Json :=
  .object [("guild_id", .text i.guild.text), ("channel_id", .text i.channel.text),
    ("self_id", .text i.selfId.text), ("shard_id", .number i.shard.toNat),
    ("endpoint", .text i.endpoint), ("state", .text i.state.text),
    ("created_at", .text createdAt)]

end VoiceGateway
