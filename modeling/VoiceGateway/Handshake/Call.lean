import VoiceGateway.Handshake.Rendezvous
import VoiceGateway.JoinRequest
import VoiceGateway.Registry
import VoiceGateway.Transport

/-!
# Calls

A call is something that a client has asked for and that takes its time: to join
a channel, to disconnect from a guild, or to be told of the guild's next voice
server. Between two steps a call waits, for an answer of the transport, for
events or for a deadline, and its stage says for what.

A stage holds the call's subscriptions, as cursors; `Task.holds` says to which
streams.
-/

namespace VoiceGateway

/-- A command whose answer is held back: the releases before it was sent, and the
answer. -/
structure InFlight where
  releasesBefore : Nat
  refusal : Option TransportError
deriving DecidableEq, Repr

/-- What a join is waiting for. -/
inductive JoinStage where
  /-- To be run for the first time. -/
  | fresh
  /-- The guild has a session: the answer to the command. -/
  | renewing (selfId : Snowflake) (session : SessionRef) (states : Cursor) (flight : InFlight)
  /-- The guild has a session: the echo of the command. -/
  | awaitingEcho (selfId : Snowflake) (session : SessionRef) (states : Cursor)
  /-- The guild has no session: the answer to the command. -/
  | opening (states servers : Cursor) (flight : InFlight)
  /-- The guild has no session: the two confirmations, up to a deadline. -/
  | gathering (rendezvous : Rendezvous) (deadline : Nat)
  /-- The join has failed: the answer to the command that leaves. -/
  | leaving (cause : JoinError) (flight : InFlight)
deriving DecidableEq, Repr

/-- What a call is to do, and how far it is. -/
inductive Task where
  | join (request : JoinRequest) (stage : JoinStage)
  /-- To disconnect; with the command that leaves, once it is sent. -/
  | disconnect (guild : Snowflake) (flight : Option InFlight)
  /-- To wait for a voice server; with the cursor, once subscribed. -/
  | watch (guild : Snowflake) (servers : Option Cursor)
deriving DecidableEq, Repr

/-- A pending call. -/
structure Call where
  ticket : Nat
  task : Task
  /-- How long the caller waits at most, from the first run of the call. -/
  patience : Option Duration
  /-- When the caller stops waiting, once the call has run. -/
  limit : Option Nat
deriving DecidableEq, Repr

/-- How a call ended. -/
inductive Outcome where
  | joined (session : SessionRef)
  | joinFailed (cause : JoinError)
  | left (evicted : Bool)
  | leaveFailed (cause : TransportError)
  | reassigned (server : ServerOptions)
  | watchFailed (cause : JoinError)
  /-- The caller has stopped waiting. -/
  | outOfPatience
  | aborted
deriving DecidableEq, Repr

/-- What becomes of a call when it is run. -/
inductive Progress where
  | pending (task : Task)
  | ended (outcome : Outcome)
deriving DecidableEq, Repr

namespace Task

/-- The guild a call is about. -/
def guild : Task → Snowflake
  | .join request _ => request.guild
  | .disconnect guild _ => guild
  | .watch guild _ => guild

/-- Whether a call is subscribed to a stream. -/
def holds : Task → StreamName → Bool
  | .join _ (.renewing _ _ _ _), .state => true
  | .join _ (.awaitingEcho _ _ _), .state => true
  | .join _ (.opening _ _ _), _ => true
  | .join _ (.gathering _ _), _ => true
  | .watch _ (some _), .server => true
  | _, _ => false

/-- The deadline that a call has set itself. -/
def deadline? : Task → Option Nat
  | .join _ (.gathering _ deadline) => some deadline
  | _ => none

end Task

namespace Call

/-- The earlier of two times that may not be set. -/
def earlier : Option Nat → Option Nat → Option Nat
  | none, t => t
  | t, none => t
  | some s, some t => some (min s t)

/-- When a call is due, whatever happens. -/
def dueAt (c : Call) : Option Nat := earlier c.task.deadline? c.limit

/-- The call as it is run at a time: the caller's patience counts from the first
run on. -/
def runAt (c : Call) (now : Nat) : Call :=
  match c.limit with
  | some _ => c
  | none => { c with limit := c.patience.map fun d => now + d.nanos }

end Call

end VoiceGateway
