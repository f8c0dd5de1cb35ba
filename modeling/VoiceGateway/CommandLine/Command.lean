import VoiceGateway.CommandLine.Arguments
import VoiceGateway.Duration
import VoiceGateway.Snowflake

/-!
# Commands

What the program can be asked to do, as a value, and how it is read off the
command line. Arguments that make no command, for whatever reason, are answered
in one way.
-/

namespace VoiceGateway

/-- What a simulated join is to do. -/
structure SimulationOptions where
  guild : Snowflake := ⟨81384788765712384⟩
  channel : Snowflake := ⟨1⟩
  /-- The gateway does not assign a voice server. -/
  noServer : Bool := false
  /-- How long the join waits, if not as configured. -/
  timeout : Option Duration := none
deriving DecidableEq, Repr

/-- What a simulated reconnect is to do. -/
structure ReconnectOptions where
  shard : UInt32 := 0
  /-- The number of attempts that fail before one succeeds. -/
  failures : UInt32 := 2
  maxAttempts : Option UInt32 := none
deriving DecidableEq, Repr

/-- What the program is to do. -/
inductive Command where
  /-- To tell the shard of a guild, for a number of shards if one is given. -/
  | shard (guild : Snowflake) (shards : Option UInt32)
  | simulate (options : SimulationOptions)
  | reconnect (options : ReconnectOptions)
  | validateConfig
  | showConfig
  | version
deriving DecidableEq, Repr

namespace Command

/-- An optional sign, taken off a number. -/
def splitSign : List Char → Bool × List Char
  | '+' :: cs => (false, cs)
  | '-' :: cs => (true, cs)
  | cs => (false, cs)

/-- A number in digits with an optional sign, less than a bound; with a minus sign
only zero is one. -/
def readNumber (bound : Nat) (s : String) : Option Nat :=
  let (negative, ds) := splitSign s.toList
  let n := Decimal.value ds
  if ds ≠ [] ∧ ds.all (·.isDigit) ∧ n < bound ∧ (negative → n = 0) then some n else none

def readUInt32 (s : String) : Option UInt32 := (readNumber 0x100000000 s).map (·.toUInt32)

/-- A number of 64 bits, which may have a plus sign but no minus sign. -/
def readUInt64 (s : String) : Option UInt64 :=
  if s.startsWith "-" then none else (readNumber 0x10000000000000000 s).map (·.toUInt64)

def readId (s : String) : Option Snowflake := (Snowflake.ofText s).toOption

/-- The value of an option, or the given one where the option is left out. -/
def optional {α : Type} (read : String → Option α) (a : Arguments) (name : String)
    (otherwise : α) : Option α :=
  match a.value? name with
  | none => some otherwise
  | some s => read s

def ofShard (words : List String) : Option Command := do
  let a ← Layout.gather ⟨[("shards", .value)], 1⟩ words
  let guild ← readId (a.operands.headD "")
  let shards ← optional (fun s => (readUInt32 s).map some) a "shards" none
  return .shard guild shards

def ofSimulate (words : List String) : Option Command := do
  let layout : Layout :=
    ⟨[("guild", .value), ("channel", .value), ("no-server", .switch), ("timeout-secs", .value)], 0⟩
  let a ← layout.gather words
  let standard : SimulationOptions := {}
  let guild ← optional readId a "guild" standard.guild
  let channel ← optional readId a "channel" standard.channel
  let timeoutSecs ← optional (fun s => (readUInt64 s).map some) a "timeout-secs" none
  return .simulate ⟨guild, channel, a.has "no-server", timeoutSecs.map .ofSecs⟩

def ofReconnect (words : List String) : Option Command := do
  let layout : Layout :=
    ⟨[("shard", .value), ("failures", .value), ("max-attempts", .value)], 0⟩
  let a ← layout.gather words
  let standard : ReconnectOptions := {}
  let shard ← optional readUInt32 a "shard" standard.shard
  let failures ← optional readUInt32 a "failures" standard.failures
  let maxAttempts ← optional (fun s => (readUInt32 s).map some) a "max-attempts" none
  return .reconnect ⟨shard, failures, maxAttempts⟩

/-- A command that takes nothing. -/
def ofBare (command : Command) (words : List String) : Option Command :=
  (Layout.gather {} words).map fun _ => command

def ofConfig : List String → Option Command
  | "validate" :: words => ofBare .validateConfig words
  | "show" :: words => ofBare .showConfig words
  | _ => none

/-- The command that arguments make, if they make one. The short option for the
version counts as soon as its letter is met. -/
def ofArguments : List String → Option Command
  | [] => none
  | word :: words =>
    if word = "shard" then ofShard words
    else if word = "simulate" then ofSimulate words
    else if word = "reconnect" then ofReconnect words
    else if word = "config" then ofConfig words
    else if word = "version" then ofBare .version words
    else if word = "--version" then some .version
    else if word.startsWith "-V" then some .version
    else none

end Command

end VoiceGateway
