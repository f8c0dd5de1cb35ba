import VoiceGateway.CommandLine.Command
import VoiceGateway.Config
import VoiceGateway.Handshake.Run
import VoiceGateway.Transport.Loopback

/-!
# Simulated joins

A simulation joins a channel over the loopback transport, takes a snapshot of the
session while it is connected, and leaves. All of it happens on a clock that only
moves when the join has to wait.
-/

namespace VoiceGateway

/-- Why a simulation has no snapshot to show. -/
inductive SimulationError where
  | join (cause : JoinError)
  | leave (cause : TransportError)
  /-- A call did not come to an end. -/
  | unanswered
deriving DecidableEq, Repr

def SimulationError.message : SimulationError → String
  | .join cause => cause.message
  | .leave cause => cause.message
  | .unanswered => "no answer"

namespace Simulation

/-- The user as whom a simulation joins. -/
def selfId : Snowflake := ⟨1000000⟩

/-- The transport of a simulation. -/
def transport (c : Config) (o : SimulationOptions) : Transport Nat :=
  .loopback selfId c.gateway.shardCount (!o.noServer)

/-- The coordinator that a simulation starts with. -/
def start : Coordinator Nat := { line := 0, identity := .fixed (some selfId) }

/-- The request of a simulation: the configured defaults, and the timeout that was
asked for. -/
def request (c : Config) (o : SimulationOptions) : Except JoinError JoinRequest :=
  JoinRequest.ofChoices o.guild o.channel
    (.defaults c.voice :: (o.timeout.map .timeout).toList)

/-- The ticket of the join. -/
def joinTicket : Nat := 0

/-- The ticket of the disconnect after it. -/
def leaveTicket : Nat := 1

/-- Leaves again, and shows the snapshot. -/
def leave (T : Transport Nat) (w : Coordinator Nat) (guild : Snowflake) (info : SessionInfo) :
    Except SimulationError SessionInfo × Coordinator Nat :=
  match w.perform T leaveTicket (.disconnect guild) with
  | (some (.leaveFailed cause), w) => (.error (.leave cause), w)
  | (some (.left _), w) => (.ok info, w)
  | (_, w) => (.error .unanswered, w)

/-- Joins, takes the snapshot and leaves. -/
def joinAndLeave (T : Transport Nat) (w : Coordinator Nat) (q : JoinRequest) :
    Except SimulationError SessionInfo × Coordinator Nat :=
  match w.perform T joinTicket (.join q) with
  | (some (.joinFailed cause), w) => (.error (.join cause), w)
  | (some (.joined s), w) =>
    match w.registry.info? s with
    | some info => leave T w q.guild info
    | none => (.error .unanswered, w)
  | (_, w) => (.error .unanswered, w)

/-- The outcome of a simulation, and the coordinator after it. -/
def run (c : Config) (o : SimulationOptions) :
    Except SimulationError SessionInfo × Coordinator Nat :=
  match request c o with
  | .error cause => (.error (.join cause), start)
  | .ok q => joinAndLeave (transport c o) start q

end Simulation

end VoiceGateway
