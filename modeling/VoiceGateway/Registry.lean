import VoiceGateway.Directory
import VoiceGateway.Session

/-!
# The session registry

The registry holds at most one session for each guild. The first session that is
registered for a guild stays; one that comes later is dropped, and whoever
brought it is given the one that is there. An evicted session is marked as
disconnected, for those who still hold it.

A session is referred to by its place among all that were ever registered, so two
references are equal exactly if they are to the same session. A session that
loses has no place and no reference.

Calls are taken as indivisible. An eviction takes the session from its guild and
marks it in one step, so nobody finds it gone and still connected.

> `get?_tryRegister`: after an attempt to register, the guild has the session
> that the attempt was answered with.
> `get?_evict`: after an eviction the guild has none.
-/

namespace VoiceGateway

/-- A reference to a session that was registered at some time. -/
structure SessionRef where
  index : Nat
deriving DecidableEq, Repr

/-- A registered session and what has become of it. -/
structure SessionRecord where
  session : Session
  state : SessionState := .connected
deriving DecidableEq, Repr

/-- The sessions that were ever registered, and which of them each guild has. -/
structure Registry where
  records : List SessionRecord := []
  byGuild : Directory Snowflake SessionRef := .empty
deriving DecidableEq, Repr

/-- The answer to an attempt to register a session. -/
inductive Registration where
  | won (session : SessionRef)
  /-- The guild had a session already, this one. -/
  | lost (winner : SessionRef)
deriving DecidableEq, Repr

/-- The session that the guild has after the attempt. -/
def Registration.holder : Registration → SessionRef
  | .won s => s
  | .lost s => s

namespace Registry

/-- What is known of a session. -/
def record? (r : Registry) (s : SessionRef) : Option SessionRecord := r.records[s.index]?

/-- The session that a guild has. -/
def get? (r : Registry) (guild : Snowflake) : Option SessionRef := r.byGuild.find? guild

def contains (r : Registry) (guild : Snowflake) : Bool := r.byGuild.contains guild

/-- The number of guilds that have a session. -/
def size (r : Registry) : Nat := r.byGuild.size

/-- The reference that the next new session gets. -/
def nextRef (r : Registry) : SessionRef := ⟨r.records.length⟩

/-- Registers a session for its guild, unless the guild has one. -/
def tryRegister (r : Registry) (s : Session) : Registration × Registry :=
  match r.get? s.guild with
  | some winner => (.lost winner, r)
  | none => (.won r.nextRef, ⟨r.records ++ [⟨s, .connected⟩], r.byGuild.put s.guild r.nextRef⟩)

/-- Marks a session as disconnected. -/
def markDisconnected (r : Registry) (s : SessionRef) : Registry :=
  { r with records := r.records.modify s.index fun x => { x with state := .disconnected } }

/-- Takes the session of a guild out; the answer tells whether there was one. -/
def evict (r : Registry) (guild : Snowflake) : Bool × Registry :=
  match r.get? guild with
  | none => (false, r)
  | some s => (true, { r with byGuild := r.byGuild.remove guild }.markDisconnected s)

/-- The snapshot of a session. -/
def info? (r : Registry) (s : SessionRef) : Option SessionInfo :=
  (r.record? s).map fun x => x.session.info x.state

/-- The sessions that the guilds have, by the number of the guild. -/
def registered (r : Registry) : List SessionRef :=
  (r.byGuild.entries.mergeSort fun a b => a.1.raw ≤ b.1.raw).map (·.2)

/-- The snapshots of the sessions that the guilds have. -/
def list (r : Registry) : List SessionInfo := r.registered.filterMap r.info?

theorem get?_tryRegister (r : Registry) (s : Session) :
    (r.tryRegister s).2.get? s.guild = some (r.tryRegister s).1.holder := by
  unfold tryRegister
  split
  · assumption
  · simp [get?, Registration.holder, Directory.find?_put]

theorem get?_evict (r : Registry) (guild other : Snowflake) :
    (r.evict guild).2.get? other = if guild = other then none else r.get? other := by
  unfold evict
  split
  · next h =>
    split
    · next e => exact e ▸ h
    · rfl
  · simp [get?, markDisconnected, Directory.find?_remove]

end Registry

end VoiceGateway
