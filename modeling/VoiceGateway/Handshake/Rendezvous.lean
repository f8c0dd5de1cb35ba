import VoiceGateway.EventBus

/-!
# The rendezvous of a join

A join that has been sent is confirmed by two events, the user's own voice state
and a voice server with an endpoint, which come on two streams in any order. The
rendezvous takes deliveries from the two streams one at a time until it has one
of each. Which stream is asked first is left open at each turn; a stream that
has already given what was wanted is not asked any more.
-/

namespace VoiceGateway

/-- Whether a state event is the user's own in a guild. -/
def StateEvent.isOwn (e : StateEvent) (guild selfId : Snowflake) : Bool :=
  e.user == selfId && e.guild == guild

/-- Whether a server event assigns a server with an endpoint to a guild. -/
def ServerEvent.assigns (e : ServerEvent) (guild : Snowflake) : Bool :=
  e.guild == guild && e.endpoint.isSome

/-- The two confirmations of a join, as far as they are in. -/
structure Rendezvous where
  guild : Snowflake
  selfId : Snowflake
  states : Cursor
  servers : Cursor
  state : Option StateEvent := none
  server : Option ServerEvent := none
deriving DecidableEq, Repr

/-- The order in which a rendezvous asks the two streams: which comes first, by
the number of turns that are left. -/
abbrev TurnOrder := Nat → StreamName

/-- What became of one turn. -/
inductive Turn where
  | took (r : Rendezvous)
  | nothing
  | closed (stream : StreamName)
deriving DecidableEq, Repr

/-- How far a rendezvous gets with what is there. -/
inductive Meeting where
  | complete (state : StateEvent) (server : ServerEvent)
  | pending (r : Rendezvous)
  | closed (stream : StreamName)
deriving DecidableEq, Repr

namespace Rendezvous

/-- Asks the state stream, unless the state is in. -/
def askStates (b : EventBus) (r : Rendezvous) : Turn :=
  if r.state.isSome then .nothing
  else
    match b.states.receive r.states with
    | (.event e, c) =>
      .took { r with states := c, state := if e.isOwn r.guild r.selfId then some e else none }
    | (.lagged _, c) => .took { r with states := c }
    | (.nothing, _) => .nothing
    | (.closed, _) => .closed .state

/-- Asks the server stream, unless the server is in. -/
def askServers (b : EventBus) (r : Rendezvous) : Turn :=
  if r.server.isSome then .nothing
  else
    match b.servers.receive r.servers with
    | (.event e, c) =>
      .took { r with servers := c, server := if e.assigns r.guild then some e else none }
    | (.lagged _, c) => .took { r with servers := c }
    | (.nothing, _) => .nothing
    | (.closed, _) => .closed .server

/-- Asks both streams in the given order and takes the first delivery. -/
def turn (b : EventBus) (first : StreamName) (r : Rendezvous) : Turn :=
  match first with
  | .state =>
    match r.askStates b with
    | .nothing => r.askServers b
    | t => t
  | .server =>
    match r.askServers b with
    | .nothing => r.askStates b
    | t => t

/-- Takes turns until both confirmations are in or nothing is left, at most
`fuel` of them. -/
def meetWithin (b : EventBus) (order : TurnOrder) : Nat → Rendezvous → Meeting
  | 0, r => .pending r
  | fuel + 1, r =>
    match r.state, r.server with
    | some e, some v => .complete e v
    | _, _ =>
      match r.turn b (order fuel) with
      | .took r' => meetWithin b order fuel r'
      | .nothing => .pending r
      | .closed stream => .closed stream

/-- The number of events that are still before the cursors. -/
def ahead (b : EventBus) (r : Rendezvous) : Nat :=
  (b.states.history.length - r.states.passed) + (b.servers.history.length - r.servers.passed)

/-- Takes turns until both confirmations are in or nothing is left. Each turn
passes an event, so there are no more turns than events ahead and one more. -/
def meet (b : EventBus) (order : TurnOrder) (r : Rendezvous) : Meeting :=
  meetWithin b order (r.ahead b + 1) r

end Rendezvous

end VoiceGateway
