/-!
# Event streams

A stream carries events to any number of subscribers, each of whom reads at its
own pace. It keeps a window of the latest events. A subscriber that has fallen
behind the window is told once how many events it has missed and goes on with
the oldest one that is left. An event that nobody is subscribed to is gone.

A subscriber is a cursor, the number of events it has passed; the stream counts
how many of them there are.

> `receive_advances`: a delivery that is not "nothing yet" or "closed" moves the
> cursor forward, so reading what is there comes to an end.
-/

namespace VoiceGateway

/-- A stream of events: all that were delivered to anybody, oldest first, of
which the last `window` can still be read. -/
structure Stream (α : Type) where
  window : Nat
  history : List α := []
  subscribers : Nat := 0
  closed : Bool := false
deriving Repr

/-- A subscriber's place in a stream: the number of events before it. -/
structure Cursor where
  passed : Nat
deriving DecidableEq, Repr

/-- What a subscriber gets when it asks for the next event. -/
inductive Delivery (α : Type) where
  | event (e : α)
  | lagged (missed : Nat)
  | nothing
  | closed
deriving Repr

namespace Stream

variable {α : Type}

/-- The window of streams whose capacity is not chosen. -/
def defaultCapacity : Nat := 256

/-- A new stream. Its window is the capacity rounded up to a power of two; there
is no stream without any. -/
def create? (capacity : Nat) : Option (Stream α) :=
  if capacity = 0 then none else some { window := capacity.nextPowerOfTwo }

/-- A new stream with the default window. -/
def create : Stream α := { window := defaultCapacity }

/-- Adds a subscriber, who sees the events from now on. -/
def subscribe (s : Stream α) : Cursor × Stream α :=
  (⟨s.history.length⟩, { s with subscribers := s.subscribers + 1 })

/-- Takes a subscriber off. -/
def unsubscribe (s : Stream α) : Stream α := { s with subscribers := s.subscribers - 1 }

/-- Delivers an event; the answer is the number of subscribers that it reaches,
none where the stream has ended. -/
def publish (s : Stream α) (e : α) : Option Nat × Stream α :=
  if s.closed then (none, s)
  -- Nobody will ever read it, so it leaves no trace.
  else if s.subscribers = 0 then (some 0, s)
  else (some s.subscribers, { s with history := s.history ++ [e] })

/-- Ends the stream; what is in the window can still be read. -/
def close (s : Stream α) : Stream α := { s with closed := true }

/-- The number of live subscribers; a stream that has ended has none. -/
def audience (s : Stream α) : Nat := if s.closed then 0 else s.subscribers

/-- The number of events before the window. -/
def windowStart (s : Stream α) : Nat := s.history.length - s.window

/-- The next delivery at a cursor, and the cursor after it. -/
def receive (s : Stream α) (c : Cursor) : Delivery α × Cursor :=
  if c.passed < s.windowStart then (.lagged (s.windowStart - c.passed), ⟨s.windowStart⟩)
  else
    match s.history[c.passed]? with
    | some e => (.event e, ⟨c.passed + 1⟩)
    | none => (if s.closed then .closed else .nothing, c)

theorem receive_advances (s : Stream α) (c : Cursor) :
    (∃ e, (s.receive c).1 = .event e) ∨ (∃ n, (s.receive c).1 = .lagged n) →
      c.passed < (s.receive c).2.passed ∧ (s.receive c).2.passed ≤ s.history.length := by
  unfold receive
  split
  · next h =>
    intro _
    exact ⟨h, Nat.sub_le _ _⟩
  · split
    · next e he =>
      intro _
      have := (List.getElem?_eq_some_iff.mp he).1
      exact ⟨Nat.lt_succ_self _, this⟩
    · split <;> simp

/-- How waiting for a certain event goes. -/
inductive Wait (β : Type) where
  | found (b : β) (cursor : Cursor)
  | pending (cursor : Cursor)
  | closed
deriving Repr

/-- Reads on until an event is accepted or nothing is left, at most `fuel`
deliveries; others are passed over, and so is a lag. -/
def waitAtMost {β : Type} (s : Stream α) (accept : α → Option β) : Nat → Cursor → Wait β
  | 0, c => .pending c
  | fuel + 1, c =>
    match s.receive c with
    | (.event e, c') =>
      match accept e with
      | some b => .found b c'
      | none => waitAtMost s accept fuel c'
    | (.lagged _, c') => waitAtMost s accept fuel c'
    | (.nothing, c') => .pending c'
    | (.closed, _) => .closed

/-- Reads on until an event is accepted or nothing is left. Every delivery moves
the cursor, so the events not yet passed, and one more, bound their number. -/
def wait {β : Type} (s : Stream α) (accept : α → Option β) (c : Cursor) : Wait β :=
  s.waitAtMost accept (s.history.length - c.passed + 1) c

end Stream

end VoiceGateway
