import VoiceGateway.Config
import VoiceGateway.Toml.Writer

/-!
# Settings as TOML

All settings, defaults included, as a document that reads back as the same
settings: a section after the other, with a blank line between. Numbers beyond
64 bits with sign cannot be written.
-/

namespace VoiceGateway.Config

open Toml (entryLine headerLine writeBool writeFloat writeInteger writeText)

/-- The document of a set of settings. -/
def render (c : Config) : Option String := do
  let shardCount ← writeInteger c.gateway.shardCount.toNat
  let joinTimeout ← writeInteger c.voice.joinTimeoutSecs.toNat
  let maxAttempts ← writeInteger c.reconnect.maxAttempts.toNat
  let initialDelay ← writeInteger c.reconnect.initialDelayMs.toNat
  let maxDelay ← writeInteger c.reconnect.maxDelayMs.toNat
  return String.ofList (headerLine "gateway" ++ entryLine "shard_count" shardCount ++
    '\n' :: headerLine "voice" ++ entryLine "join_timeout_secs" joinTimeout ++
    entryLine "self_mute" (writeBool c.voice.selfMute) ++
    entryLine "self_deaf" (writeBool c.voice.selfDeaf) ++
    '\n' :: headerLine "reconnect" ++ entryLine "max_attempts" maxAttempts ++
    entryLine "initial_delay_ms" initialDelay ++ entryLine "max_delay_ms" maxDelay ++
    entryLine "backoff_factor" (writeFloat c.reconnect.backoffFactor) ++
    '\n' :: headerLine "observability" ++ entryLine "log_filter" (writeText c.log.filter) ++
    entryLine "json_logs" (writeBool c.log.asJson))

end VoiceGateway.Config
