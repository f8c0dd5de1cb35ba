import VoiceGateway.Failure
import VoiceGateway.Wire.Command
import VoiceGateway.Wire.Event

/-!
# Transports

What carries commands to the gateway. A transport has a number of shards, a
state of its own, and an answer to each command. The answer may be held back
until the transport is released, and in the course of taking a command the
transport may publish events.
-/

namespace VoiceGateway

/-- The answer of a transport to a command; no refusal means that the gateway
has it. -/
inductive SendReply where
  /-- The answer is there at once. -/
  | settled (refusal : Option TransportError)
  /-- The command is taken; the answer comes with the next release. -/
  | held (refusal : Option TransportError)
deriving DecidableEq, Repr

/-- Whether the transport has taken the command, whatever it answers in the end. -/
def SendReply.isTaken : SendReply → Bool
  | .settled refusal => refusal.isNone
  | .held _ => true

/-- A way to the gateway, with states of type `σ`. -/
structure Transport (σ : Type) where
  shardCount : UInt32
  /-- What happens to a command: the answer, the events that are published
  meanwhile, and the state after it. -/
  send : σ → ShardCommand → SendReply × List GatewayEvent × σ

end VoiceGateway
