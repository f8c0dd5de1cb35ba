import VoiceGateway.Config
import VoiceGateway.Failure
import VoiceGateway.Wire.Command

/-!
# Join requests

A request names a guild and a voice channel; flags and timeout are chosen one
by one, in any order, before it is made. A later choice overrides an earlier one,
and taking over the configured defaults chooses all three at once.
-/

namespace VoiceGateway

/-- A request to join a voice channel. -/
structure JoinRequest where
  guild : Snowflake
  channel : Snowflake
  selfMute : Bool
  selfDeaf : Bool
  timeout : Duration
deriving DecidableEq, Repr

namespace JoinRequest

/-- How long a join waits unless chosen otherwise. -/
def defaultTimeout : Duration := .ofSecs 5

/-- The update this request sends. -/
def update (r : JoinRequest) : VoiceUpdate := .join r.guild r.channel r.selfMute r.selfDeaf

/-- One choice about a request. -/
inductive Choice where
  | mute (on : Bool)
  | deaf (on : Bool)
  | timeout (d : Duration)
  | defaults (settings : VoiceSettings)

/-- What has been chosen so far. -/
structure Choices where
  selfMute : Bool := false
  selfDeaf : Bool := false
  timeout : Duration := defaultTimeout
deriving DecidableEq, Repr

namespace Choices

/-- Takes in one more choice. -/
def choose (c : Choices) : Choice → Choices
  | .mute on => { c with selfMute := on }
  | .deaf on => { c with selfDeaf := on }
  | .timeout d => { c with timeout := d }
  | .defaults v => ⟨v.selfMute, v.selfDeaf, v.joinTimeout⟩

/-- The outcome of a run of choices. -/
def ofList (choices : List Choice) : Choices := choices.foldl choose {}

/-- The request with these choices; a join that may not wait at all is refused. -/
def make (c : Choices) (guild channel : Snowflake) : Except JoinError JoinRequest :=
  if c.timeout.nanos = 0 then .error (.config "join timeout must be greater than 0")
  else .ok ⟨guild, channel, c.selfMute, c.selfDeaf, c.timeout⟩

end Choices

/-- The request for a channel with the given choices. -/
def ofChoices (guild channel : Snowflake) (choices : List Choice) :
    Except JoinError JoinRequest :=
  (Choices.ofList choices).make guild channel

end JoinRequest

end VoiceGateway
