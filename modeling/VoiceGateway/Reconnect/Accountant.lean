import VoiceGateway.Directory
import VoiceGateway.Reconnect.Backoff
import VoiceGateway.Stream

/-!
# Reconnect accounting

For every shard the accountant counts the failed attempts since the shard was
last connected. Each failure is published to whoever is subscribed, with its
number and the limit, and whether the shard is given up follows from these two.

Calls are taken as indivisible. A failure is counted, entered in the trace and
published in one step, so nobody finds it counted and not yet published, and the
failures of a shard are published in the order of their numbers.

> `current_recordFailure`, `current_recordSuccess`: what an attempt does to its
> own counter, and that it leaves the others alone.
-/

namespace VoiceGateway

/-- The failed attempts of all shards. -/
structure Accountant where
  maxAttempts : UInt32
  backoff : Backoff := Backoff.standard
  counters : Directory UInt32 UInt32 := .empty
  failures : Stream ReconnectFailure := { window := 64 }
  trace : List TraceEvent := []

namespace Accountant

/-- An accountant for the settings. -/
def ofSettings (r : ReconnectSettings) : Accountant :=
  { maxAttempts := r.maxAttempts, backoff := .ofSettings r }

/-- The number of failed attempts of a shard since it was last connected. -/
def current (a : Accountant) (shard : UInt32) : UInt32 := (a.counters.find? shard).getD 0

/-- The failure that the next failed attempt of a shard will be. -/
def nextFailure (a : Accountant) (shard : UInt32) : ReconnectFailure :=
  ⟨shard, a.current shard + 1, a.maxAttempts⟩

/-- Counts a failed attempt and publishes it. -/
def recordFailure (a : Accountant) (shard : UInt32) : ReconnectFailure × Accountant :=
  let f := a.nextFailure shard
  (f, { a with
    counters := a.counters.put shard f.attempt
    failures := (a.failures.publish f).2
    trace := a.trace ++ [.reconnectFailed shard f.attempt f.maxAttempts f.isAbandoned] })

/-- Resets the counter of a shard that is connected again. -/
def recordSuccess (a : Accountant) (shard : UInt32) : Accountant :=
  let attempts := a.current shard
  { a with
    counters := a.counters.put shard 0
    trace := if 0 < attempts then a.trace ++ [.reconnected shard attempts] else a.trace }

/-- The delay before a shard is tried again. -/
def delayFor (a : Accountant) (f : ReconnectFailure) : Option Duration := a.backoff.delayAfter f

/-- Adds a subscriber for the failures of all shards. -/
def subscribe (a : Accountant) : Cursor × Accountant :=
  let (c, failures) := a.failures.subscribe
  (c, { a with failures := failures })

/-- Takes a subscriber off. -/
def unsubscribe (a : Accountant) : Accountant := { a with failures := a.failures.unsubscribe }

theorem current_recordFailure (a : Accountant) (shard other : UInt32) :
    (a.recordFailure shard).2.current other =
      if shard = other then a.current shard + 1 else a.current other := by
  simp only [current, recordFailure, nextFailure, Directory.find?_put]
  split <;> simp

theorem current_recordSuccess (a : Accountant) (shard other : UInt32) :
    (a.recordSuccess shard).current other = if shard = other then 0 else a.current other := by
  simp only [current, recordSuccess, Directory.find?_put]
  split <;> simp

end Accountant

end VoiceGateway
