import VoiceGateway.Handshake.Progress

/-!
# Runs

A run is a list of acts. Some come from outside: a client asks for something or
gives it up, the gateway publishes events, time passes. The others run one call,
and whatever is done for a call between two waits is done in one act. Any order of
acts is a run, so a statement about all runs holds for every way in which calls
may be interleaved.

`settleAll` is the one way that is used when nothing else is asked for: every
call is run, in the order of their starts, and then what is due by the clock
expires, the earliest deadline first.

> `run_append`: a run goes on from where another has stopped.
-/

namespace VoiceGateway

/-- What a client may ask for. -/
inductive Job where
  | join (request : JoinRequest)
  | disconnect (guild : Snowflake)
  | watch (guild : Snowflake)
deriving DecidableEq, Repr

/-- The call for a job, not run yet. -/
def Job.task : Job → Task
  | .join request => .join request .fresh
  | .disconnect guild => .disconnect guild none
  | .watch guild => .watch guild none

/-- One thing that happens in a run. -/
inductive Act (σ : Type) where
  | start (ticket : Nat) (job : Job) (patience : Option Duration)
  | abort (ticket : Nat)
  | publish (event : GatewayEvent)
  | close (stream : StreamName)
  | advance (nanos : Nat)
  | setLine (line : σ)
  /-- The answers that are held back are released. -/
  | release
  | announce (selfId : Option Snowflake)
  | register (session : Session)
  | evict (guild : Snowflake)
  | poll (ticket : Nat) (order : TurnOrder)
  | expire (ticket : Nat) (order : TurnOrder)

namespace Coordinator

variable {σ : Type} (T : Transport σ)

/-- Ends one of the streams. -/
def close (w : Coordinator σ) (stream : StreamName) : Coordinator σ :=
  { w with bus := w.bus.close stream }

/-- Lets time pass. -/
def advance (w : Coordinator σ) (nanos : Nat) : Coordinator σ := { w with now := w.now + nanos }

/-- Releases the answers that are held back. -/
def release (w : Coordinator σ) : Coordinator σ := { w with releases := w.releases + 1 }

/-- Takes in what is known of the own user id. -/
def announce (w : Coordinator σ) (selfId : Option Snowflake) : Coordinator σ :=
  { w with identity := w.identity.announce selfId }

/-- One act of a run. -/
def step (w : Coordinator σ) : Act σ → Coordinator σ
  | .start ticket job patience => w.start ticket job.task patience
  | .abort ticket => (w.abort ticket).2
  | .publish event => (w.publish [event]).2
  | .close stream => w.close stream
  | .advance nanos => w.advance nanos
  | .setLine line => { w with line }
  | .release => w.release
  | .announce selfId => w.announce selfId
  | .register session => (w.tryRegister session).2
  | .evict guild => (w.evict none guild).2
  | .poll ticket order => w.poll T order ticket
  | .expire ticket order => w.expire T order ticket

/-- A run of acts. -/
def run (w : Coordinator σ) (acts : List (Act σ)) : Coordinator σ := acts.foldl (step T) w

/-- A rendezvous that always asks the state stream first. -/
def statesFirst : TurnOrder := fun _ => .state

/-- Runs every call once, in the order of their starts. -/
def pollAll (w : Coordinator σ) : Coordinator σ :=
  (w.calls.map (·.ticket)).foldl (fun w ticket => w.poll T statesFirst ticket) w

/-- The calls that are due by now, the earliest deadline first and calls with the
same one in the order of their starts. -/
def due (w : Coordinator σ) : List Nat :=
  let dated := w.calls.filterMap fun c => c.dueAt.map fun time => (time, c.ticket)
  ((dated.filter fun d => d.1 ≤ w.now).mergeSort fun a b => a.1 ≤ b.1).map (·.2)

/-- Lets every deadline take effect that has passed. -/
def expireAll (w : Coordinator σ) : Coordinator σ :=
  w.due.foldl (fun w ticket => w.expire T statesFirst ticket) w

/-- Runs all calls until none can go on, and then lets deadlines take effect. -/
def settleAll (w : Coordinator σ) : Coordinator σ := (w.pollAll T).expireAll T

/-- Lets a job be done while nothing else happens: when its call cannot go on the
clock jumps to its deadline. There is no outcome if it has none. -/
def perform (w : Coordinator σ) (ticket : Nat) (job : Job) : Option Outcome × Coordinator σ :=
  let w := (w.start ticket job.task none).settleAll T
  -- Nothing else happens, so the clock may go straight to the deadline.
  let w := match (w.call? ticket).bind Call.dueAt with
    | some time => ({ w with now := max w.now time }).settleAll T
    | none => w
  (w.outcome? ticket, w)

theorem run_append (w : Coordinator σ) (acts more : List (Act σ)) :
    w.run T (acts ++ more) = (w.run T acts).run T more :=
  List.foldl_append

end Coordinator

end VoiceGateway
