import VoiceGateway.Transport

/-!
# A scripted transport

A transport that does what its mode says, to rehearse what can go wrong on the
way to a gateway. It publishes nothing; the mode is changed from outside.
-/

namespace VoiceGateway

/-- What a scripted transport does with commands. -/
inductive LineMode where
  | accepts
  | refuses
  | refusesLeaves
  | refusesJoins
  | broken
  /-- Takes a command and accepts it at the next release. -/
  | stalls
  /-- Takes a command and fails it at the next release. -/
  | stallsAndFails
deriving DecidableEq, Repr

namespace LineMode

/-- The answer to a command. -/
def reply (m : LineMode) (c : ShardCommand) : SendReply :=
  match m with
  | .accepts => .settled none
  | .refuses => .settled (some (.shardUnavailable c.shard))
  | .refusesLeaves =>
    .settled (if c.update.isLeave then some (.shardUnavailable c.shard) else none)
  | .refusesJoins =>
    .settled (if c.update.isLeave then none else some (.shardUnavailable c.shard))
  | .broken => .settled (some (.send "connection reset"))
  | .stalls => .held none
  | .stallsAndFails => .held (some (.send "gave up"))

end LineMode

/-- The scripted transport with the given number of shards. -/
def Transport.scripted (shardCount : UInt32) : Transport LineMode where
  shardCount
  send m c := (m.reply c, [], m)

end VoiceGateway
