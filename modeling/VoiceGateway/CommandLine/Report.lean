import VoiceGateway.Config.Render
import VoiceGateway.Config.Source
import VoiceGateway.Reconnect.Demonstration
import VoiceGateway.Simulation

/-!
# Reports

What the program answers to a command: the text it prints, the text of an error
if there is one, and its exit code. The settings are loaded by every command but
the one that tells the version, before anything else is done.
-/

namespace VoiceGateway

/-- The answer of the program. -/
structure Report where
  code : UInt8 := 0
  error : Option String := none
  output : String := ""
deriving DecidableEq, Repr

/-- Where the program is run. -/
structure Environment where
  /-- The path at which the settings are looked for. -/
  configPath : String := "voxlink.toml"
  /-- What is there. -/
  source : ConfigSource := .missing
  /-- The text of the present time. -/
  now : String

namespace Report

/-- Some text was printed. -/
def printed (output : String) : Report := { output }

/-- Nothing was printed and something went wrong. -/
def failed (message : String) : Report := { code := 1, error := some message }

/-- The arguments made no command. -/
def usage : Report := { code := 2, error := some "usage" }

end Report

namespace Command

def versionText : String := "voxlink 0.1.0\n"

/-- The line that tells the shard of a guild. -/
def shardText (guild : Snowflake) (count : UInt32) : String :=
  "guild " ++ guild.text ++ " -> shard " ++ Decimal.text (shardOf guild count).toNat ++ " of " ++
    Decimal.text (shardsInUse count).toNat ++ "\n"

def runSimulation (c : Config) (o : SimulationOptions) (now : String) : Report :=
  match (Simulation.run c o).1 with
  | .ok info => .printed ((info.toJson now).indented ++ "\n")
  | .error e => .failed e.message

/-- The last line of a demonstration. -/
def reconnectText (shard : UInt32) (r : ReconnectReport) : String :=
  "shard " ++ Decimal.text shard.toNat ++
    (if r.abandoned then " abandoned after " ++ Decimal.text r.attempts.toNat ++ " attempt(s)"
      else " connected on attempt " ++ Decimal.text r.attempts.toNat) ++ "\n"

def runReconnect (c : Config) (o : ReconnectOptions) : Report :=
  let d := (Demonstration.start c.reconnect o).play
  let lines := String.join (d.lines.map (· ++ "\n"))
  match d.report with
  | some r => .printed (lines ++ reconnectText o.shard r)
  | none => { Report.failed "the loop has not ended" with output := lines }

/-- What a command with loaded settings does. -/
def runWith (c : Config) (env : Environment) : Command → Report
  | .shard guild shards => .printed (shardText guild (shards.getD c.gateway.shardCount))
  | .simulate o => runSimulation c o env.now
  | .reconnect o => runReconnect c o
  | .validateConfig =>
    { code := if c.isValid then 0 else 1, output := c.report env.configPath }
  | .showConfig =>
    match c.render with
    | some text => .printed text
    | none => .failed "serializing config: out-of-range value for u64 type"
  | .version => .printed versionText

/-- What a command does. -/
def run (env : Environment) : Command → Report
  -- The version is told even where the settings cannot be read.
  | .version => .printed versionText
  | command =>
    match env.source.load with
    | .ok c => command.runWith c env
    | .error e => .failed ("loading " ++ env.configPath ++ ": " ++ e.message)

end Command

/-- What the program answers to its arguments. -/
def Report.ofArguments (env : Environment) (words : List String) : Report :=
  match Command.ofArguments words with
  | some command => command.run env
  | none => .usage

end VoiceGateway
