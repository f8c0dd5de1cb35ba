import VoiceGateway.Handshake.Call
import VoiceGateway.Identity
import VoiceGateway.Trace

/-!
# The coordinator

The coordinator keeps everything that calls share: the event bus, the registry of
sessions, the way to the gateway and what is known of the own user id, besides
the clock and the calls that are pending.

Whoever starts a call gives it a ticket, a number of its own. What has happened is
kept in three ledgers, each in order: the commands that were handed to the
transport, the events of the trace and the outcomes of calls. An entry names the
call that it stems from by its ticket.

> `start_of_not_isFresh`: a ticket is good for one call.
> `call?_settle_ended`: a call that has ended is not pending any more.
-/

namespace VoiceGateway

/-- A command that was handed to the transport, and its answer. -/
structure Dispatch where
  ticket : Nat
  command : ShardCommand
  reply : SendReply
deriving DecidableEq, Repr

/-- An event of the trace, and the call that it stems from, if it stems from one. -/
structure Note where
  ticket : Option Nat
  event : TraceEvent
deriving DecidableEq, Repr

/-- What calls share, over a transport with states of type `σ`. Times are in
nanoseconds; calls are in the order in which they were started. -/
structure Coordinator (σ : Type) where
  line : σ
  identity : Identity
  bus : EventBus := {}
  registry : Registry := {}
  now : Nat := 0
  /-- How often held answers have been released. -/
  releases : Nat := 0
  calls : List Call := []
  dispatches : List Dispatch := []
  notes : List Note := []
  outcomes : List (Nat × Outcome) := []

namespace Coordinator

variable {σ : Type}

/-- Adds an event to the trace. -/
def note (w : Coordinator σ) (ticket : Option Nat) (event : TraceEvent) : Coordinator σ :=
  { w with notes := w.notes ++ [⟨ticket, event⟩] }

/-- Routes an update to its shard and hands it to the transport. -/
def dispatch (T : Transport σ) (w : Coordinator σ) (ticket : Nat) (u : VoiceUpdate) :
    SendReply × Coordinator σ :=
  let command := ShardCommand.route u T.shardCount
  let (reply, events, line) := T.send w.line command
  (reply, { w with
    line
    bus := (w.bus.publishAll events).2
    dispatches := w.dispatches ++ [⟨ticket, command, reply⟩] })

/-- Whether the answer to a command in flight has been released. -/
def released (w : Coordinator σ) (f : InFlight) : Bool := f.releasesBefore < w.releases

/-- A command that goes in flight now. -/
def flight (w : Coordinator σ) (refusal : Option TransportError) : InFlight :=
  ⟨w.releases, refusal⟩

def subscribeStates (w : Coordinator σ) : Cursor × Coordinator σ :=
  let (c, states) := w.bus.states.subscribe
  (c, { w with bus.states := states })

def subscribeServers (w : Coordinator σ) : Cursor × Coordinator σ :=
  let (c, servers) := w.bus.servers.subscribe
  (c, { w with bus.servers := servers })

/-- Takes a subscriber off one of the streams. -/
def unsubscribe (w : Coordinator σ) (stream : StreamName) : Coordinator σ :=
  { w with bus := w.bus.unsubscribe stream }

/-- Takes a subscriber off each stream. -/
def unsubscribeBoth (w : Coordinator σ) : Coordinator σ :=
  (w.unsubscribe .state).unsubscribe .server

/-- Registers a session for its guild, unless the guild has one. -/
def tryRegister (w : Coordinator σ) (s : Session) : Registration × Coordinator σ :=
  let (registration, registry) := w.registry.tryRegister s
  (registration, { w with registry })

/-- Evicts the session of a guild; the answer tells whether there was one. -/
def evict (w : Coordinator σ) (ticket : Option Nat) (guild : Snowflake) : Bool × Coordinator σ :=
  let (evicted, registry) := w.registry.evict guild
  let w := { w with registry }
  (evicted, if evicted then w.note ticket (.sessionEvicted guild) else w)

/-- Whether no call has had a ticket yet. -/
def isFresh (w : Coordinator σ) (ticket : Nat) : Bool :=
  w.calls.all (fun c => c.ticket != ticket) && w.outcomes.all (fun e => e.1 != ticket)

/-- Starts a call, which is run for the first time later. With a ticket that
another call has had nothing is started. -/
def start (w : Coordinator σ) (ticket : Nat) (task : Task) (patience : Option Duration) :
    Coordinator σ :=
  if w.isFresh ticket then { w with calls := w.calls ++ [⟨ticket, task, patience, none⟩] }
  else w

/-- The pending call with a ticket. -/
def call? (w : Coordinator σ) (ticket : Nat) : Option Call :=
  w.calls.find? fun c => c.ticket == ticket

/-- The outcome of the call with a ticket. -/
def outcome? (w : Coordinator σ) (ticket : Nat) : Option Outcome :=
  (w.outcomes.find? fun e => e.1 == ticket).map (·.2)

/-- Replaces the pending call with the same ticket. -/
def putCall (w : Coordinator σ) (c : Call) : Coordinator σ :=
  { w with calls := w.calls.map fun x => if x.ticket = c.ticket then c else x }

/-- Takes a call from the pending ones and enters its outcome. -/
def finish (w : Coordinator σ) (ticket : Nat) (outcome : Outcome) : Coordinator σ :=
  { w with
    calls := w.calls.filter fun c => c.ticket ≠ ticket
    outcomes := w.outcomes ++ [(ticket, outcome)] }

/-- Enters what has become of a call. -/
def settle (w : Coordinator σ) (c : Call) : Progress → Coordinator σ
  | .pending task => w.putCall { c with task }
  | .ended outcome => w.finish c.ticket outcome

/-- Ends a call from outside: its subscriptions are taken off and nothing else is
done for it. -/
def abandon (w : Coordinator σ) (c : Call) (outcome : Outcome) : Coordinator σ :=
  let w := if c.task.holds .state then w.unsubscribe .state else w
  let w := if c.task.holds .server then w.unsubscribe .server else w
  w.finish c.ticket outcome

/-- Aborts a call; the answer tells whether it was pending. -/
def abort (w : Coordinator σ) (ticket : Nat) : Bool × Coordinator σ :=
  match w.call? ticket with
  | none => (false, w)
  | some c => (true, w.abandon c .aborted)

/-- Publishes events from outside, one after another. -/
def publish (w : Coordinator σ) (events : List GatewayEvent) :
    List (Option Nat) × Coordinator σ :=
  let (reached, bus) := w.bus.publishAll events
  (reached, { w with bus })

theorem start_of_not_isFresh (w : Coordinator σ) (ticket : Nat) (task : Task)
    (patience : Option Duration) (h : w.isFresh ticket = false) :
    w.start ticket task patience = w := by
  simp [start, h]

theorem call?_settle_ended (w : Coordinator σ) (c : Call) (o : Outcome) :
    (w.settle c (.ended o)).call? c.ticket = none := by
  simp [settle, finish, call?, List.find?_eq_none]

end Coordinator

end VoiceGateway
