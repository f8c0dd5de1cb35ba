import VoiceGateway.Duration

/-!
# Failures of commands and joins

A command may not reach the gateway, and a join may fail for a handful of
reasons. Failures are values with a cause; their wording is kept in one place.
-/

namespace VoiceGateway

/-- Why a command could not be handed to the gateway. -/
inductive TransportError where
  | shardUnavailable (shard : UInt32)
  | send (reason : String)
deriving DecidableEq, Repr

def TransportError.message : TransportError → String
  | .shardUnavailable shard => "shard " ++ Decimal.text shard.toNat ++ " is not connected"
  | .send reason => "send failed: " ++ reason

/-- The two streams of events a handshake listens to. -/
inductive StreamName where
  | state
  | server
deriving DecidableEq, Repr

def StreamName.text : StreamName → String
  | .state => "voice_state"
  | .server => "voice_server"

/-- Why a join failed. -/
inductive JoinError where
  | config (reason : String)
  | timeout (after : Duration)
  | missingSelfId
  | transport (cause : TransportError)
  | streamClosed (stream : StreamName)
deriving DecidableEq, Repr

namespace JoinError

def message : JoinError → String
  | .config reason => "config: " ++ reason
  | .timeout after => "voice handshake timed out after " ++ after.text
  | .missingSelfId => "missing self id"
  | .transport cause => "transport: " ++ cause.message
  | .streamClosed stream => stream.text ++ " event stream closed"

/-- Whether the same join may succeed when it is tried again. -/
def isRetryable : JoinError → Bool
  | .timeout _ | .transport _ => true
  | .config _ | .missingSelfId | .streamClosed _ => false

end JoinError

end VoiceGateway
