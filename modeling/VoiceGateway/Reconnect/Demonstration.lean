import VoiceGateway.CommandLine.Command
import VoiceGateway.Reconnect.Rehearsal

/-!
# Demonstrating reconnects

A demonstration rehearses the reconnect of a shard that fails a number of times,
while a printer writes a line for every failure. The printer is a subscriber of
its own and reads when it gets to run; it stops at the first thing it is given
that is not a failure, so one that has fallen too far behind writes nothing more.

> `Printer.turn_stopped`: a printer that has stopped stays as it is.
-/

namespace VoiceGateway

/-- A subscriber that writes down the failures it is given. -/
structure Printer where
  cursor : Cursor
  lines : List String := []
  stopped : Bool := false
deriving DecidableEq, Repr

/-- Lets the printer take one delivery. -/
def Printer.turn (failures : Stream ReconnectFailure) (p : Printer) : Printer :=
  if p.stopped then p
  else
    match failures.receive p.cursor with
    | (.event f, c) => { p with cursor := c, lines := p.lines ++ [f.text] }
    | (.nothing, _) => p
    | (.lagged _, _) => { p with stopped := true }
    | (.closed, _) => { p with stopped := true }

theorem Printer.turn_stopped (failures : Stream ReconnectFailure) (p : Printer)
    (h : p.stopped = true) : p.turn failures = p := by
  simp [turn, h]

/-- Lets the printer take all that is there. Each delivery passes an event, so
there are no more of them than events ahead and one more. -/
def Printer.drain (failures : Stream ReconnectFailure) (p : Printer) : Printer :=
  (List.range (failures.history.length - p.cursor.passed + 1)).foldl
    (fun p _ => p.turn failures) p

/-- What a demonstration comes to. -/
structure ReconnectReport where
  /-- The attempts made, the successful one included. -/
  attempts : UInt32
  abandoned : Bool
deriving DecidableEq, Repr

/-- A demonstration in progress. -/
structure Demonstration where
  rehearsal : Rehearsal
  printer : Printer

/-- Who gets to run next. -/
inductive DemonstrationAct where
  | loop
  | print
deriving DecidableEq, Repr

namespace Demonstration

/-- The script of a shard that fails `failures` times: no more failures than the
limit lets happen. -/
def script (failures maxAttempts : UInt32) : List Attempt :=
  List.replicate (min failures.toNat (maxAttempts.toNat + 1)) { reply := .fail } ++
    [{ reply := .succeed }]

/-- The limit that applies. -/
def limit (r : ReconnectSettings) (o : ReconnectOptions) : UInt32 :=
  o.maxAttempts.getD r.maxAttempts

/-- A demonstration at its start; the printer is subscribed already. -/
def start (r : ReconnectSettings) (o : ReconnectOptions) : Demonstration :=
  let a : Accountant := { maxAttempts := limit r o, backoff := .ofSettings r }
  let (cursor, a) := a.subscribe
  ⟨{ shard := o.shard, script := script o.failures (limit r o), accountant := a }, { cursor }⟩

/-- Lets the printer run. -/
def print (d : Demonstration) : Demonstration :=
  { d with printer := d.printer.turn d.rehearsal.accountant.failures }

/-- Lets the loop or the printer run. -/
def step (d : Demonstration) : DemonstrationAct → Demonstration
  | .loop => { d with rehearsal := d.rehearsal.advance }
  | .print => d.print

/-- Lets loop and printer run in some order. -/
def steps (d : Demonstration) (acts : List DemonstrationAct) : Demonstration := acts.foldl step d

/-- Whether the loop is about to wait for some time, which gives the printer the
time to write all it has. -/
def waits (d : Demonstration) : Bool :=
  match d.rehearsal.state with
  | .backingOff _ delay => 0 < delay.ceilMillis
  | _ => false

/-- Lets the loop go on to its end, for at most `fuel` steps, and the printer run
whenever the loop waits. -/
def playWithin : Nat → Demonstration → Demonstration
  | 0, d => d
  | fuel + 1, d =>
    match d.rehearsal.state with
    | .finished _ => d
    | _ =>
      let d := if d.waits then
          { d with printer := d.printer.drain d.rehearsal.accountant.failures }
        else d
      playWithin fuel (d.step .loop)

/-- Lets the loop go on to its end. -/
def play (d : Demonstration) : Demonstration :=
  playWithin (3 * (d.rehearsal.accountant.maxAttempts.toNat + 2)) d

/-- The lines that are printed before a demonstration is over: after the loop has
ended the stream ends, and the printer takes what is left. -/
def lines (d : Demonstration) : List String :=
  (d.printer.drain d.rehearsal.accountant.failures.close).lines

/-- What the loop has come to. -/
def report (d : Demonstration) : Option ReconnectReport :=
  match d.rehearsal.state with
  | .finished (.connected attempt) => some ⟨attempt, false⟩
  | .finished (.abandoned f) => some ⟨f.attempt, true⟩
  | _ => none

end Demonstration

end VoiceGateway
