import VoiceGateway.Transport

/-!
# The loopback transport

A transport that is its own gateway: it takes every command for a shard it has
and answers as a gateway would after a round trip. Each command it takes is
echoed as a state event of its user with a session id of its own. A join is also
answered by two server assignments, the first without an endpoint, as from a
server that is still being allocated, the second with one.

The commands are counted without a bound. A counter of 64 bits would begin again at
zero after 2⁶⁴ commands, and the session ids and tokens with it.
-/

namespace VoiceGateway

namespace Loopback

/-- The endpoint that is assigned to every guild. -/
def endpoint : String := "loopback.voxlink.invalid:443"

/-- The session id in the answer to the command after `n` others. -/
def sessionId (n : Nat) : String := "loopback-" ++ Decimal.text n

/-- The token in the answer to the command after `n` others. -/
def token (n : Nat) : String := "token-" ++ Decimal.text n

/-- The echo of an update. -/
def echo (user : Snowflake) (n : Nat) (u : VoiceUpdate) : StateEvent :=
  ⟨u.guild, user, u.channel, sessionId n⟩

/-- The two assignments that answer a join. -/
def assignments (n : Nat) (u : VoiceUpdate) : List ServerEvent :=
  [⟨u.guild, none, ""⟩, ⟨u.guild, some endpoint, token n⟩]

/-- Everything that answers an update. -/
def events (user : Snowflake) (assignsServers : Bool) (n : Nat) (u : VoiceUpdate) :
    List GatewayEvent :=
  .state (echo user n u) ::
    if u.isLeave || !assignsServers then [] else (assignments n u).map .server

end Loopback

/-- The loopback transport of a user; its state is the number of commands taken. -/
def Transport.loopback (user : Snowflake) (shardCount : UInt32) (assignsServers : Bool) :
    Transport Nat where
  shardCount
  send n c :=
    if shardsInUse shardCount ≤ c.shard then
      (.settled (some (.shardUnavailable c.shard)), [], n)
    else (.settled none, Loopback.events user assignsServers n c.update, n + 1)

end VoiceGateway
