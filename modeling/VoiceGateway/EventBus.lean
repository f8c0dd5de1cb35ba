import VoiceGateway.Failure
import VoiceGateway.Stream
import VoiceGateway.Wire.Event

/-!
# The event bus

The events of a gateway, on two streams: one for voice states and one for voice
servers. What is published goes to the stream of its kind, and whoever waits
subscribes to the one it needs.
-/

namespace VoiceGateway

/-- The two streams of a gateway's events. -/
structure EventBus where
  states : Stream StateEvent := Stream.create
  servers : Stream ServerEvent := Stream.create

namespace EventBus

/-- A new bus whose streams have the same capacity, which may not be zero. -/
def create? (capacity : Nat) : Option EventBus := do
  let states ← Stream.create? capacity
  let servers ← Stream.create? capacity
  return { states, servers }

/-- Publishes an event; the answer is that of its stream. -/
def publish (b : EventBus) : GatewayEvent → Option Nat × EventBus
  | .state e =>
    let (reached, states) := b.states.publish e
    (reached, { b with states })
  | .server e =>
    let (reached, servers) := b.servers.publish e
    (reached, { b with servers })

/-- Publishes events one after another. -/
def publishAll (b : EventBus) : List GatewayEvent → List (Option Nat) × EventBus
  | [] => ([], b)
  | e :: es =>
    let (reached, b) := b.publish e
    let (rest, b) := b.publishAll es
    (reached :: rest, b)

/-- Ends one of the streams. -/
def close (b : EventBus) : StreamName → EventBus
  | .state => { b with states := b.states.close }
  | .server => { b with servers := b.servers.close }

/-- Takes a subscriber off one of the streams. -/
def unsubscribe (b : EventBus) : StreamName → EventBus
  | .state => { b with states := b.states.unsubscribe }
  | .server => { b with servers := b.servers.unsubscribe }

/-- The live subscriptions to both streams. -/
def audience (b : EventBus) : Nat := b.states.audience + b.servers.audience

end EventBus

end VoiceGateway
