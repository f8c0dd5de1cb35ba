import VoiceGateway.Duration

/-!
# Settings

What an operator can set, in four sections, each setting with a default. A set
of settings is checked as a whole: an error makes it unusable, a warning only
says that it may not do what was meant.
-/

namespace VoiceGateway

def GatewaySettings.defaultShardCount : UInt32 := 1

/-- How many shards the gateway runs. -/
structure GatewaySettings where
  shardCount : UInt32 := GatewaySettings.defaultShardCount

def VoiceSettings.defaultJoinTimeoutSecs : UInt64 := 5

/-- Defaults for joins that do not choose themselves. -/
structure VoiceSettings where
  joinTimeoutSecs : UInt64 := VoiceSettings.defaultJoinTimeoutSecs
  selfMute : Bool := false
  selfDeaf : Bool := false

namespace ReconnectSettings

def defaultMaxAttempts : UInt32 := 5

def defaultInitialDelayMs : UInt64 := 1000

def defaultMaxDelayMs : UInt64 := 60000

def defaultBackoffFactor : Float := 2.0

end ReconnectSettings

/-- When a shard that lost its connection tries again, and how often. -/
structure ReconnectSettings where
  maxAttempts : UInt32 := ReconnectSettings.defaultMaxAttempts
  initialDelayMs : UInt64 := ReconnectSettings.defaultInitialDelayMs
  maxDelayMs : UInt64 := ReconnectSettings.defaultMaxDelayMs
  backoffFactor : Float := ReconnectSettings.defaultBackoffFactor

def LogSettings.defaultFilter : String := "info,vl_voice=debug"

/-- What is logged, and how. -/
structure LogSettings where
  filter : String := LogSettings.defaultFilter
  asJson : Bool := false

/-- All settings. A section that is not given has the defaults. -/
structure Config where
  gateway : GatewaySettings := {}
  voice : VoiceSettings := {}
  reconnect : ReconnectSettings := {}
  log : LogSettings := {}

/-- How long a join waits for its handshake. -/
def VoiceSettings.joinTimeout (v : VoiceSettings) : Duration := .ofSecs v.joinTimeoutSecs

def ReconnectSettings.initialDelay (r : ReconnectSettings) : Duration :=
  .ofMillis r.initialDelayMs

def ReconnectSettings.maxDelay (r : ReconnectSettings) : Duration := .ofMillis r.maxDelayMs

/-- How bad an issue is. -/
inductive Severity where
  | error
  | warning
deriving DecidableEq, Repr

/-- Something wrong with a setting. -/
structure Issue where
  severity : Severity
  setting : String
  message : String
deriving DecidableEq, Repr

def Severity.tag : Severity → String
  | .error => "ERROR"
  | .warning => "WARN"

/-- The line that reports an issue. -/
def Issue.text (i : Issue) : String := "[" ++ i.severity.tag ++ "] " ++ i.setting ++ ": " ++ i.message

namespace Config

/-- Everything that can be wrong, each with the settings it is about. -/
def checks (c : Config) : List (Bool × Issue) :=
  [(c.gateway.shardCount == 0,
      ⟨.error, "gateway.shard_count", "shard_count must be greater than 0"⟩),
    (c.voice.joinTimeoutSecs == 0,
      ⟨.error, "voice.join_timeout_secs", "join timeout must be greater than 0"⟩),
    (c.reconnect.maxAttempts == 0,
      ⟨.warning, "reconnect.max_attempts",
        "shards are abandoned after the first failed reconnect"⟩),
    (c.reconnect.backoffFactor < 1.0,
      ⟨.warning, "reconnect.backoff_factor",
        "a factor below 1.0 shrinks the delay between attempts"⟩),
    (c.reconnect.maxDelayMs < c.reconnect.initialDelayMs,
      ⟨.warning, "reconnect.max_delay_ms", "max_delay_ms is lower than initial_delay_ms"⟩)]

/-- The issues of a set of settings, in the order of the checks. -/
def issues (c : Config) : List Issue :=
  c.checks.filterMap fun (wrong, issue) => if wrong then some issue else none

/-- Whether the settings can be used: no issue is an error. -/
def isValid (c : Config) : Bool := c.issues.all (·.severity != .error)

/-- The number of issues of a severity. -/
def issueCount (c : Config) (severity : Severity) : Nat :=
  c.issues.countP (·.severity == severity)

/-- What checking the settings at `path` prints. -/
def report (c : Config) (path : String) : String :=
  if c.issues.isEmpty then "Config OK (" ++ path ++ ")\n"
  else
    String.join (c.issues.map fun i => i.text ++ "\n") ++ "\n" ++
      Decimal.text (c.issueCount .error) ++ " error(s), " ++
      Decimal.text (c.issueCount .warning) ++ " warning(s) in " ++ path ++ "\n"

end Config

end VoiceGateway
