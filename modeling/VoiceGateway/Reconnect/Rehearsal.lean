import VoiceGateway.Reconnect.Loop

/-!
# Rehearsing a reconnect loop

A rehearsal runs a loop against a script of outcomes on a clock that jumps from
one deadline to the next. An attempt that succeeds hands over its number. Waits
last whole milliseconds, a started one counting in full. The loop may be told to
shut down beforehand, by the script in the course of an attempt, or at a fixed
time. An order for a fixed time is given after everything else that happens at
that time.
-/

namespace VoiceGateway

/-- How a rehearsed loop ends: an attempt hands over its number. -/
abbrev LoopResult := LoopEnding UInt32

/-- A rehearsed loop ends with its shard given up. -/
abbrev LoopResult.abandoned (f : ReconnectFailure) : LoopResult := LoopEnding.abandoned f

/-- A rehearsed loop ends because it has been told to. -/
abbrev LoopResult.shutdown : LoopResult := LoopEnding.shutdown

/-- How a scripted attempt ends. -/
inductive Reply where
  | succeed
  | fail
  /-- It never ends by itself. -/
  | hang
deriving DecidableEq, Repr

/-- A scripted attempt: how long it takes, whether it gives the order to shut
down then, and how it ends. -/
structure Attempt where
  reply : Reply := .fail
  afterMs : Nat := 0
  shutsDown : Bool := false
deriving DecidableEq, Repr

/-- A rehearsal in progress; times are in milliseconds from its start. -/
structure Rehearsal where
  shard : UInt32
  /-- The outcomes to come; once they are used up, attempts fail at once. -/
  script : List Attempt
  accountant : Accountant
  state : LoopState UInt32 := .ready
  now : Nat := 0
  /-- Whether the order to shut down has been given already. -/
  shutdownGiven : Bool := false
  /-- When the order to shut down is due. -/
  shutdownAt : Option Nat := none
  /-- The attempts made: number and time. -/
  calls : List (UInt32 × Nat) := []

namespace Rehearsal

/-- Lets the loop take one step. -/
def input (r : Rehearsal) (i : LoopInput UInt32) : Rehearsal :=
  let (a, s) := r.state.step r.shard r.accountant i
  { r with accountant := a, state := s }

/-- Whether the order to shut down comes before what else happens at a time. -/
def shutdownPrecedes (r : Rehearsal) (time : Nat) : Bool :=
  r.shutdownGiven || r.shutdownAt.any fun t => t < time

/-- Whether the order to shut down comes at some time. -/
def shutdownComes (r : Rehearsal) : Bool := r.shutdownGiven || r.shutdownAt.isSome

/-- Moves the clock to the order to shut down and passes it on. -/
def shutDown (r : Rehearsal) : Rehearsal :=
  let time := if r.shutdownGiven then r.now else max r.now (r.shutdownAt.getD r.now)
  { r with now := time, shutdownGiven := true }.input .shutdown

/-- Plays a scripted attempt, whose number is given. One that gives the order to shut
down and ends in the same moment still counts. -/
def play (r : Rehearsal) (attempt : UInt32) (a : Attempt) : Rehearsal :=
  let done := r.now + a.afterMs
  if r.shutdownPrecedes done then r.shutDown
  else
    -- The order is noted first, but the outcome is there in the same moment.
    let r' := { r with now := done, shutdownGiven := r.shutdownGiven || a.shutsDown }
    match a.reply with
    | .succeed => r'.input (.succeeded attempt)
    | .fail => r'.input .failed
    | .hang => if r'.shutdownComes then r'.shutDown else r'

/-- Goes on to the next thing that happens. -/
def advance (r : Rehearsal) : Rehearsal :=
  match r.state with
  | .finished _ => r
  | .ready =>
    if r.shutdownPrecedes r.now then r.input (.run true)
    else
      let r' := r.input (.run false)
      match r'.state with
      | .connecting attempt => { r' with calls := r'.calls ++ [(attempt, r.now)] }
      | _ => r'
  | .connecting attempt => { r with script := r.script.tail }.play attempt (r.script.headD {})
  | .backingOff _ delay =>
    let wake := r.now + delay.ceilMillis
    if r.shutdownPrecedes wake then r.shutDown
    else { r with now := wake }.input .elapsed

/-- Goes on until the loop has ended, for at most `fuel` things. -/
def finish : Nat → Rehearsal → Rehearsal
  | 0, r => r
  | fuel + 1, r =>
    match r.state with
    | .finished _ => r
    | _ => finish fuel r.advance

/-- Runs a rehearsal to its end. There are at most as many attempts as the limit
allows and one more, and each takes three steps. -/
def run (r : Rehearsal) : Rehearsal :=
  finish (3 * (r.accountant.maxAttempts.toNat + 2)) r

end Rehearsal

end VoiceGateway
