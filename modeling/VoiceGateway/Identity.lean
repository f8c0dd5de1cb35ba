import VoiceGateway.Snowflake

/-!
# Who we are

A client has to know its own user id to tell its own voice state from those of
others. It may know it from the start, or learn it, and lose it again, while it
runs.

Whoever asks for the id is answered at once, with what is known at that moment:
neither of the two ways of knowing it has anything to wait for. So no call is ever
pending for the answer.
-/

namespace VoiceGateway

/-- What a client knows of its own user id. -/
inductive Identity where
  /-- Set once and for all. -/
  | fixed (id : Option Snowflake)
  /-- The latest that was announced. -/
  | announced (id : Option Snowflake)
deriving DecidableEq, Repr

namespace Identity

/-- The own user id, if it is known now. -/
def selfId : Identity → Option Snowflake
  | .fixed id => id
  | .announced id => id

/-- Takes in an announcement. -/
def announce : Identity → Option Snowflake → Identity
  | .fixed id, _ => .fixed id
  | .announced _, id => .announced id

end Identity

end VoiceGateway
