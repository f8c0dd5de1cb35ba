import VoiceGateway.Proofs.Handshake.Change
import VoiceGateway.Proofs.Handshake.Gathering

/-!
# A guild on its own

What is left of a run where all guilds but one are absent: their calls are neither
started nor run nor aborted, and nothing is published or done to the registry that is
about them (`Coordinator.alone`). Time passes as it did, and answers that are held back
are released when they were.

The transport is part of the surroundings. When it answers, and what it publishes in the
meantime, stays as it was: before a call for the guild is run the transport is put in the
state that the call has met, and what it published about the guild as it took a command for
another one is published as an event from outside. Whether it accepts a command it decides
by a rule (`Transport.about`).

> `alone_append`: what is left of a run is what is left of its parts.
> `Transport.about_published`: with the guild alone, the transport publishes what is about
> the guild.
-/

namespace VoiceGateway

/-- The answer at the same time with another refusal. -/
def SendReply.decided (refusal : Option TransportError) : SendReply → SendReply
  | .settled _ => .settled refusal
  | .held _ => .held refusal

/-- An outcome under other names for the sessions. -/
def Outcome.rename (ρ : SessionRef → SessionRef) : Outcome → Outcome
  | .joined s => .joined (ρ s)
  | o => o

namespace Transport

variable {σ : Type} (T : Transport σ)

/-- The transport where one guild is alone: it decides by a rule and publishes nothing that
is about another guild. -/
def about (g : Snowflake) (rule : ShardCommand → Option TransportError) : Transport σ where
  shardCount := T.shardCount
  send s command :=
    let (reply, events, s') := T.send s command
    (reply.decided (rule command), events.filter fun e => e.guild = g, s')

/-- What is published as commands are taken one after another. -/
def published : σ → List ShardCommand → List GatewayEvent
  | _, [] => []
  | s, c :: cs => (T.send s c).2.1 ++ published (T.send s c).2.2 cs

/-- The state after commands were taken one after another. -/
def after : σ → List ShardCommand → σ
  | s, [] => s
  | s, c :: cs => after (T.send s c).2.2 cs

theorem published_append (s : σ) (cs more : List ShardCommand) :
    T.published s (cs ++ more) = T.published s cs ++ T.published (T.after s cs) more := by
  induction cs generalizing s with
  | nil => rfl
  | cons c cs ih =>
    rw [List.cons_append, published, ih, published, after, List.append_assoc]

theorem after_append (s : σ) (cs more : List ShardCommand) :
    T.after s (cs ++ more) = T.after (T.after s cs) more := by
  induction cs generalizing s with
  | nil => rfl
  | cons c cs ih => exact ih _

variable {T} {g : Snowflake} {rule : ShardCommand → Option TransportError}

theorem about_published (s : σ) (cs : List ShardCommand) :
    (T.about g rule).published s cs = (T.published s cs).filter fun e => e.guild = g := by
  induction cs generalizing s with
  | nil => rfl
  | cons c cs ih =>
    rw [published, published, List.filter_append, ← ih]
    rfl

/-- A transport that decides by the rule anyway answers as it did. -/
theorem about_reply (steady : ∀ s c, (T.send s c).1.refusal = rule c) (s : σ)
    (c : ShardCommand) : ((T.about g rule).send s c).1 = (T.send s c).1 := by
  show (T.send s c).1.decided (rule c) = (T.send s c).1
  rw [← steady s c]
  cases (T.send s c).1 <;> rfl

end Transport

namespace Coordinator

variable {σ : Type} (T : Transport σ) (g : Snowflake)

/-! ## What is left of a run -/

/-- Whether the pending call with a ticket is about the guild. -/
def concerns (w : Coordinator σ) (ticket : Nat) : Bool :=
  (w.call? ticket).any fun c => c.task.guild = g

/-- What the transport publishes in an act. -/
def publishedIn (w : Coordinator σ) (a : Act σ) : List GatewayEvent :=
  T.published w.line (((w.step T a).dispatches.drop w.dispatches.length).map (·.command))

/-- What is left of an act that runs a call: the act, on the line as it was, or what was
published about the guild. -/
def shareOfRun (w : Coordinator σ) (a : Act σ) (ticket : Nat) : List (Act σ) :=
  if w.concerns g ticket then [.setLine w.line, a]
  else ((w.publishedIn T a).filter fun e => e.guild = g).map .publish

/-- What is left of an act. -/
def share (w : Coordinator σ) : Act σ → List (Act σ)
  | .start ticket job patience =>
    if job.task.guild = g ∧ w.isFresh ticket then [.start ticket job patience] else []
  | .abort ticket => if w.concerns g ticket then [.abort ticket] else []
  | .publish e => if e.guild = g then [.publish e] else []
  | .register x => if x.guild = g then [.register x] else []
  | .evict g' => if g' = g then [.evict g'] else []
  | .setLine _ => []
  | .poll ticket order => w.shareOfRun T g (.poll ticket order) ticket
  | .expire ticket order => w.shareOfRun T g (.expire ticket order) ticket
  | a => [a]

/-- What is left of a run. -/
def alone : Coordinator σ → List (Act σ) → List (Act σ)
  | _, [] => []
  | w, a :: acts => w.share T g a ++ alone (w.step T a) acts

theorem alone_append (w : Coordinator σ) (acts more : List (Act σ)) :
    w.alone T g (acts ++ more) = w.alone T g acts ++ (w.run T acts).alone T g more := by
  induction acts generalizing w with
  | nil => rfl
  | cons a acts ih =>
    rw [List.cons_append, alone, ih, alone, List.append_assoc]
    rfl

/-- A call has not fallen behind on any stream that it reads when it is run now. -/
def KeepsUp (w : Coordinator σ) (c : Call) : Prop :=
  match c.task with
  | .join q .fresh =>
    w.identity.selfId ≠ none →
      match w.registry.get? q.guild with
      | some _ =>
        (w.sendRenewal T c.ticket q).1 = .settled none →
          (w.sendRenewal T c.ticket q).2.bus.states.windowStart ≤ w.bus.states.history.length
      | none =>
        (w.sendOpening T c.ticket q).1 = .settled none →
          (w.sendOpening T c.ticket q).2.bus.states.windowStart ≤ w.bus.states.history.length ∧
            (w.sendOpening T c.ticket q).2.bus.servers.windowStart ≤
              w.bus.servers.history.length
  | .join _ (.renewing _ _ states f) =>
    w.released f = true → f.refusal = none → w.bus.states.windowStart ≤ states.passed
  | .join _ (.awaitingEcho _ _ states) => w.bus.states.windowStart ≤ states.passed
  | .join _ (.opening states servers f) =>
    w.identity.selfId ≠ none → w.released f = true → f.refusal = none →
      w.bus.states.windowStart ≤ states.passed ∧ w.bus.servers.windowStart ≤ servers.passed
  | .join _ (.gathering r _) => r.InReach w.bus
  | .watch _ (some servers) => w.bus.servers.windowStart ≤ servers.passed
  | _ => True

/-- In a run no call for the guild has fallen behind when it is run. -/
def Timely : Coordinator σ → List (Act σ) → Prop
  | _, [] => True
  | w, a :: acts =>
    (∀ c, a.runs c.ticket → w.call? c.ticket = some c → c.task.guild = g → w.KeepsUp T c) ∧
      Timely (w.step T a) acts

/-- With the ticket a job about the guild was started in a run. -/
def Started (w : Coordinator σ) (acts : List (Act σ)) (ticket : Nat) : Prop :=
  ∃ before job patience, before ++ [.start ticket job patience] <+: acts ∧
    job.task.guild = g ∧ (w.run T before).isFresh ticket = true

end Coordinator

end VoiceGateway
