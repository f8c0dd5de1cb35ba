import VoiceGateway.Reconnect.Accountant

/-!
# The reconnect loop of a shard

A loop tries to connect a shard until it succeeds, the shard is given up or it is
told to shut down. It is a small machine that shares the accountant with the
loops of other shards, or of the same one: each step takes one thing that has
happened to the loop, an outcome of the attempt, the end of a wait or the
shutdown. What an attempt that succeeds hands over is the answer of the loop.

> `step_finished`: a loop that has ended does nothing any more.
-/

namespace VoiceGateway

/-- How a loop ended. -/
inductive LoopEnding (α : Type) where
  /-- The shard is connected; the value is what the attempt has handed over. -/
  | connected (value : α)
  | abandoned (failure : ReconnectFailure)
  | shutdown
  /-- There is no duration for the wait that should follow. -/
  | endlessDelay (failure : ReconnectFailure)
deriving DecidableEq, Repr

/-- The text of an ending that is an error. -/
def LoopEnding.errorText {α : Type} : LoopEnding α → Option String
  | .connected _ => none
  | .abandoned f => some ("shard abandoned: " ++ f.text)
  | .shutdown => some "shutdown"
  | .endlessDelay _ => none

/-- What a loop is doing. -/
inductive LoopState (α : Type) where
  /-- About to try. -/
  | ready
  /-- Waiting for the outcome of an attempt. -/
  | connecting (attempt : UInt32)
  /-- Waiting before the next attempt. -/
  | backingOff (failure : ReconnectFailure) (delay : Duration)
  | finished (ending : LoopEnding α)
deriving DecidableEq, Repr

/-- What may happen to a loop. -/
inductive LoopInput (α : Type) where
  /-- It gets to run; `shutdown` tells whether it has been told to shut down. -/
  | run (shutdown : Bool)
  /-- The attempt has succeeded. -/
  | succeeded (value : α)
  /-- The attempt has failed. -/
  | failed
  /-- The wait is over. -/
  | elapsed
  /-- It is told to shut down while it waits. -/
  | shutdown
deriving DecidableEq, Repr

namespace LoopState

variable {α : Type}

/-- The state after a failed attempt. -/
def afterFailure (a : Accountant) (f : ReconnectFailure) : LoopState α :=
  if f.isAbandoned then .finished (.abandoned f)
  else
    match a.delayFor f with
    | some delay => .backingOff f delay
    | none => .finished (.endlessDelay f)

/-- One step of a loop for a shard. -/
def step (shard : UInt32) (a : Accountant) :
    LoopState α → LoopInput α → Accountant × LoopState α
  | .ready, .run true => (a, .finished .shutdown)
  | .ready, .run false => (a, .connecting (a.current shard + 1))
  | .connecting _, .succeeded value => (a.recordSuccess shard, .finished (.connected value))
  | .connecting _, .failed =>
    let (f, a') := a.recordFailure shard
    (a', afterFailure a' f)
  | .connecting _, .shutdown => (a, .finished .shutdown)
  | .backingOff _ _, .elapsed => (a, .ready)
  | .backingOff _ _, .shutdown => (a, .finished .shutdown)
  | s, _ => (a, s)

theorem step_finished (shard : UInt32) (a : Accountant) (e : LoopEnding α) (i : LoopInput α) :
    step shard a (.finished e) i = (a, .finished e) := by
  cases i <;> rfl

end LoopState

end VoiceGateway
