import VoiceGateway.Handshake.Progress
import VoiceGateway.Proofs.Registry

/-!
# The moves of a call

A call goes on in small moves, each of which begins and ends at a stage that a
call may wait at: it takes up an answer, takes in what the streams have for it, or
comes to its end. What is done for a call between two waits is a chain of moves:
a command whose answer is there at once passes through the same stage as one whose
answer is held back.

So a fact about calls is shown move by move, and no proof about calls opens the
functions that run them.

> `moves_runTask`: running a call makes a chain of moves.
> `Moves.preserves`: what every move keeps, a chain keeps.
-/

namespace VoiceGateway

/-- The refusal that an answer comes to, at once or at its release. -/
def SendReply.refusal : SendReply → Option TransportError
  | .settled refusal => refusal
  | .held refusal => refusal

/-- Whether what becomes of a call is as wanted: of a pending call its task, of an
ended one its outcome. -/
def Progress.Meets (P : Task → Prop) (Q : Outcome → Prop) : Progress → Prop
  | .pending task => P task
  | .ended o => Q o

/-- Whether a call has been run. -/
def Task.begun : Task → Bool
  | .join _ .fresh | .disconnect _ none | .watch _ none => false
  | _ => true

namespace Coordinator

variable {σ : Type} (T : Transport σ)

/-! ## What moves do to the coordinator -/

/-- A join looks its guild up. -/
def lookUp (w : Coordinator σ) (ticket : Nat) (q : JoinRequest) : Coordinator σ :=
  w.note (some ticket) (.joinRequested q.guild q.channel (shardOf q.guild T.shardCount)
    (w.registry.get? q.guild).isSome)

/-- A join that has found a session subscribes and sends its command. -/
def sendRenewal (w : Coordinator σ) (ticket : Nat) (q : JoinRequest) :
    SendReply × Coordinator σ :=
  (w.lookUp T ticket q).subscribeStates.2.dispatch T ticket q.update

/-- A join that has found no session subscribes to both streams and sends its
command. -/
def sendOpening (w : Coordinator σ) (ticket : Nat) (q : JoinRequest) :
    SendReply × Coordinator σ :=
  (w.lookUp T ticket q).subscribeStates.2.subscribeServers.2.dispatch T ticket q.update

/-- A failed join gives up its subscriptions and sends a leave. -/
def sendLeave (w : Coordinator σ) (ticket : Nat) (q : JoinRequest) (cause : JoinError) :
    SendReply × Coordinator σ :=
  (w.unsubscribeBoth.note (some ticket) (.handshakeFailed q.guild
    (shardOf q.guild T.shardCount) cause.message)).dispatch T ticket (.leave q.guild)

/-- A join has both its confirmations. -/
def confirm (w : Coordinator σ) (ticket : Nat) (x : Session) : Coordinator σ :=
  w.unsubscribeBoth.note (some ticket)
    (.handshakeCompleted x.guild x.shard x.server.endpoint 0)

/-- How a disconnect ends, by the answer to its command. -/
def leaveOutcome (refusal : Option TransportError) (evicted : Bool) : Outcome :=
  match refusal with
  | none => .left evicted
  | some e => .leaveFailed e

/-- Why a join whose command was accepted fails at a stage. -/
inductive Fails (w : Coordinator σ) (q : JoinRequest) : JoinStage → JoinError → Prop
  | selfIdMissing {states servers : Cursor} {f : InFlight} (accepted : f.refusal = none)
      (missing : w.identity.selfId = none) : Fails w q (.opening states servers f) .missingSelfId
  | streamClosed {r : Rendezvous} {deadline : Nat} {order : TurnOrder} {stream : StreamName}
      (closed : r.meet w.bus order = .closed stream) :
      Fails w q (.gathering r deadline) (.streamClosed stream)
  | expired {r : Rendezvous} {deadline : Nat} (late : deadline ≤ w.now) :
      Fails w q (.gathering r deadline) (.timeout q.timeout)

/-- One move of a call: where it was, what becomes of it, and the coordinator
after it. -/
inductive Move (ticket : Nat) : Coordinator σ → Task → Progress → Coordinator σ → Prop
  /-- A disconnect sends its command. -/
  | leave {w : Coordinator σ} {guild : Snowflake} :
      Move ticket w (.disconnect guild none)
        (.pending (.disconnect guild
          (some (w.flight (w.dispatch T ticket (.leave guild)).1.refusal))))
        (w.dispatch T ticket (.leave guild)).2
  | left {w : Coordinator σ} {guild : Snowflake} {f : InFlight} :
      Move ticket w (.disconnect guild (some f))
        (.ended (leaveOutcome f.refusal (w.evict (some ticket) guild).1))
        (w.evict (some ticket) guild).2
  /-- A join finds a session and does not know whose it is. -/
  | anonymous {w : Coordinator σ} {q : JoinRequest} {s : SessionRef}
      (hit : w.registry.get? q.guild = some s) (missing : w.identity.selfId = none) :
      Move ticket w (.join q .fresh) (.ended (.joinFailed .missingSelfId)) (w.lookUp T ticket q)
  | renew {w : Coordinator σ} {q : JoinRequest} {s : SessionRef} {selfId : Snowflake}
      (hit : w.registry.get? q.guild = some s) (known : w.identity.selfId = some selfId) :
      Move ticket w (.join q .fresh)
        (.pending (.join q (.renewing selfId s ⟨w.bus.states.history.length⟩
          (w.flight (w.sendRenewal T ticket q).1.refusal))))
        (w.sendRenewal T ticket q).2
  | renewalRefused {w : Coordinator σ} {q : JoinRequest} {selfId : Snowflake} {s : SessionRef}
      {states : Cursor} {f : InFlight} {e : TransportError} (refused : f.refusal = some e) :
      Move ticket w (.join q (.renewing selfId s states f)) (.ended (.joinFailed (.transport e)))
        (w.unsubscribe .state)
  | renewalAccepted {w : Coordinator σ} {q : JoinRequest} {selfId : Snowflake} {s : SessionRef}
      {states : Cursor} {f : InFlight} (accepted : f.refusal = none) :
      Move ticket w (.join q (.renewing selfId s states f))
        (.pending (.join q (.awaitingEcho selfId s states))) w
  | unechoed {w : Coordinator σ} {q : JoinRequest} {selfId : Snowflake} {s : SessionRef}
      {states states' : Cursor} :
      Move ticket w (.join q (.awaitingEcho selfId s states))
        (.pending (.join q (.awaitingEcho selfId s states'))) w
  | echoed {w : Coordinator σ} {q : JoinRequest} {selfId : Snowflake} {s : SessionRef}
      {states : Cursor} :
      Move ticket w (.join q (.awaitingEcho selfId s states)) (.ended (.joined s))
        (w.unsubscribe .state)
  | echoClosed {w : Coordinator σ} {q : JoinRequest} {selfId : Snowflake} {s : SessionRef}
      {states : Cursor} :
      Move ticket w (.join q (.awaitingEcho selfId s states))
        (.ended (.joinFailed (.streamClosed .state))) (w.unsubscribe .state)
  /-- A join finds no session. -/
  | «open» {w : Coordinator σ} {q : JoinRequest} (miss : w.registry.get? q.guild = none) :
      Move ticket w (.join q .fresh)
        (.pending (.join q (.opening ⟨w.bus.states.history.length⟩ ⟨w.bus.servers.history.length⟩
          (w.flight (w.sendOpening T ticket q).1.refusal))))
        (w.sendOpening T ticket q).2
  | openingRefused {w : Coordinator σ} {q : JoinRequest} {states servers : Cursor} {f : InFlight}
      {e : TransportError} (refused : f.refusal = some e) :
      Move ticket w (.join q (.opening states servers f)) (.ended (.joinFailed (.transport e)))
        w.unsubscribeBoth
  | openingAccepted {w : Coordinator σ} {q : JoinRequest} {states servers : Cursor} {f : InFlight}
      {selfId : Snowflake} (accepted : f.refusal = none) (known : w.identity.selfId = some selfId) :
      Move ticket w (.join q (.opening states servers f))
        (.pending (.join q (.gathering ⟨q.guild, selfId, states, servers, none, none⟩
          (w.now + q.timeout.nanos)))) w
  | gather {w : Coordinator σ} {q : JoinRequest} {r r' : Rendezvous} {deadline : Nat}
      {order : TurnOrder} (waits : r.meet w.bus order = .pending r') :
      Move ticket w (.join q (.gathering r deadline))
        (.pending (.join q (.gathering r' deadline))) w
  | won {w : Coordinator σ} {q : JoinRequest} {r : Rendezvous} {deadline : Nat}
      {order : TurnOrder} {e : StateEvent} {v : ServerEvent}
      (met : r.meet w.bus order = .complete e v) (free : w.registry.get? q.guild = none) :
      Move ticket w (.join q (.gathering r deadline)) (.ended (.joined w.registry.nextRef))
        ((w.confirm ticket (sessionOf T q r.selfId e v)).tryRegister (sessionOf T q r.selfId e v)).2
  | lost {w : Coordinator σ} {q : JoinRequest} {r : Rendezvous} {deadline : Nat}
      {order : TurnOrder} {e : StateEvent} {v : ServerEvent} {s : SessionRef}
      (met : r.meet w.bus order = .complete e v) (taken : w.registry.get? q.guild = some s) :
      Move ticket w (.join q (.gathering r deadline)) (.ended (.joined s))
        ((w.confirm ticket (sessionOf T q r.selfId e v)).note (some ticket) (.raceLost q.guild))
  | fail {w : Coordinator σ} {q : JoinRequest} {stage : JoinStage} {cause : JoinError}
      (fails : Fails w q stage cause) :
      Move ticket w (.join q stage)
        (.pending (.join q (.leaving cause (w.flight (w.sendLeave T ticket q cause).1.refusal))))
        (w.sendLeave T ticket q cause).2
  | cleanedUp {w : Coordinator σ} {q : JoinRequest} {cause : JoinError} {f : InFlight} :
      Move ticket w (.join q (.leaving cause f)) (.ended (.joinFailed cause))
        (w.finishFailure ticket q.guild cause f.refusal).2
  /-- A watch subscribes. -/
  | watch {w : Coordinator σ} {guild : Snowflake} :
      Move ticket w (.watch guild none)
        (.pending (.watch guild (some ⟨w.bus.servers.history.length⟩))) w.subscribeServers.2
  | unassigned {w : Coordinator σ} {guild : Snowflake} {servers servers' : Cursor} :
      Move ticket w (.watch guild (some servers)) (.pending (.watch guild (some servers'))) w
  | reassigned {w : Coordinator σ} {guild : Snowflake} {servers : Cursor}
      {options : ServerOptions} :
      Move ticket w (.watch guild (some servers)) (.ended (.reassigned options))
        (w.unsubscribe .server)
  | watchClosed {w : Coordinator σ} {guild : Snowflake} {servers : Cursor} :
      Move ticket w (.watch guild (some servers)) (.ended (.watchFailed (.streamClosed .server)))
        (w.unsubscribe .server)

/-- A chain of moves of a call. A call that is run for the first time does not stay
where it is. -/
inductive Moves (ticket : Nat) : Coordinator σ → Task → Progress → Coordinator σ → Prop
  | rest (w : Coordinator σ) (task : Task) (begun : task.begun = true) :
      Moves ticket w task (.pending task) w
  | last {w w' : Coordinator σ} {task : Task} {o : Outcome}
      (move : Move T ticket w task (.ended o) w') : Moves ticket w task (.ended o) w'
  | next {w w' w'' : Coordinator σ} {task task' : Task} {p : Progress}
      (move : Move T ticket w task (.pending task') w') (more : Moves ticket w' task' p w'') :
      Moves ticket w task p w''

variable {T}

theorem Move.begun {ticket : Nat} {w w' : Coordinator σ} {task task' : Task}
    (h : Move T ticket w task (.pending task') w') : task'.begun = true := by
  cases h <;> rfl

/-- A single move is a chain. -/
theorem Move.moves {ticket : Nat} {w w' : Coordinator σ} {task : Task} {p : Progress}
    (h : Move T ticket w task p w') : Moves T ticket w task p w' := by
  cases p with
  | pending task' => exact .next h (.rest w' task' h.begun)
  | ended o => exact .last h

/-- What every move keeps of a pending call and leaves of an ended one, a chain of
moves keeps and leaves. -/
theorem Moves.preserves {ticket : Nat} {P : Coordinator σ → Task → Prop}
    {Q : Coordinator σ → Outcome → Prop}
    (keeps : ∀ {w w' task task'}, Move T ticket w task (.pending task') w' → P w task → P w' task')
    (leaves : ∀ {w w' task o}, Move T ticket w task (.ended o) w' → P w task → Q w' o)
    {w w' : Coordinator σ} {task : Task} {p : Progress} (h : Moves T ticket w task p w') :
    P w task → p.Meets (P w') (Q w') := by
  induction h with
  | rest w task begun => exact id
  | last move => exact leaves move
  | next move _ ih => exact fun hP => ih (keeps move hP)

/-- A call that has been run and is still pending has begun. -/
theorem Moves.begun {ticket : Nat} {w w' : Coordinator σ} {task task' : Task}
    (h : Moves T ticket w task (.pending task') w') : task'.begun = true := by
  generalize hp : Progress.pending task' = p at h
  induction h with
  | rest w task begun =>
    injection hp with hp
    rw [hp]
    exact begun
  | last move => exact absurd hp (by simp)
  | next move _ ih => exact ih hp

/-! ## Running a call makes moves -/

/-- Sending a command releases nothing. -/
theorem flight_dispatch {w w' : Coordinator σ} {ticket : Nat} {u : VoiceUpdate}
    {reply : SendReply} (h : w.dispatch T ticket u = (reply, w'))
    (refusal : Option TransportError) : w'.flight refusal = w.flight refusal := by
  have hr : w'.releases = w.releases := congrArg (fun p => p.2.releases) h.symm
  unfold flight
  rw [hr]

theorem moves_finishDisconnect (w : Coordinator σ) (ticket : Nat) (guild : Snowflake)
    (f : InFlight) :
    Moves T ticket w (.disconnect guild (some f)) (w.finishDisconnect ticket guild f.refusal).1
      (w.finishDisconnect ticket guild f.refusal).2 := by
  have hm : Move T ticket w (.disconnect guild (some f)) _ _ := .left
  obtain ⟨n, refusal⟩ := f
  cases refusal with
  | none => exact hm.moves
  | some e => exact hm.moves

theorem moves_runDisconnect (w : Coordinator σ) (ticket : Nat) (guild : Snowflake)
    (f : Option InFlight) :
    Moves T ticket w (.disconnect guild f) (w.runDisconnect T ticket guild f).1
      (w.runDisconnect T ticket guild f).2 := by
  cases f with
  | none =>
    have hm : Move T ticket w (.disconnect guild none) _ _ := .leave
    unfold runDisconnect
    rcases hd : w.dispatch T ticket (.leave guild) with ⟨reply, w'⟩
    rw [hd] at hm
    cases reply with
    | settled refusal => exact .next hm (moves_finishDisconnect w' ticket guild (w.flight refusal))
    | held refusal =>
      dsimp only
      rw [flight_dispatch hd]
      exact hm.moves
  | some f =>
    simp only [runDisconnect]
    split
    · exact moves_finishDisconnect w ticket guild f
    · exact .rest w _ rfl

theorem moves_finishFailure (w : Coordinator σ) (ticket : Nat) (q : JoinRequest)
    (cause : JoinError) (f : InFlight) :
    Moves T ticket w (.join q (.leaving cause f))
      (w.finishFailure ticket q.guild cause f.refusal).1
      (w.finishFailure ticket q.guild cause f.refusal).2 := by
  have hm : Move T ticket w (.join q (.leaving cause f)) _ _ := .cleanedUp
  obtain ⟨n, refusal⟩ := f
  cases refusal with
  | none => exact hm.moves
  | some e => exact hm.moves

theorem failHandshake_eq (w : Coordinator σ) (ticket : Nat) (q : JoinRequest)
    (cause : JoinError) :
    w.failHandshake T ticket q cause =
      match w.sendLeave T ticket q cause with
      | (.settled refusal, w) => w.finishFailure ticket q.guild cause refusal
      | (.held refusal, w) => (.pending (.join q (.leaving cause (w.flight refusal))), w) := rfl

theorem moves_failHandshake {w : Coordinator σ} {ticket : Nat} {q : JoinRequest}
    {stage : JoinStage} {cause : JoinError} (h : Fails w q stage cause) :
    Moves T ticket w (.join q stage) (w.failHandshake T ticket q cause).1
      (w.failHandshake T ticket q cause).2 := by
  have hm : Move T ticket w (.join q stage) _ _ := .fail h
  rw [failHandshake_eq]
  rcases hs : w.sendLeave T ticket q cause with ⟨reply, w'⟩
  rw [hs] at hm
  cases reply with
  | settled refusal => exact .next hm (moves_finishFailure w' ticket q cause (w.flight refusal))
  | held refusal =>
    have hf : w'.flight refusal = w.flight refusal :=
      flight_dispatch (T := T) (w := w.unsubscribeBoth.note (some ticket) _) hs refusal
    dsimp only
    rw [hf]
    exact hm.moves

theorem completeHandshake_eq (w : Coordinator σ) (ticket : Nat) (q : JoinRequest)
    (selfId : Snowflake) (e : StateEvent) (v : ServerEvent) :
    w.completeHandshake T ticket q selfId e v =
      match (w.confirm ticket (sessionOf T q selfId e v)).tryRegister
          (sessionOf T q selfId e v) with
      | (.won s, w) => (.ended (.joined s), w)
      | (.lost s, w) => (.ended (.joined s), w.note (some ticket) (.raceLost q.guild)) := rfl

theorem moves_completeHandshake {w : Coordinator σ} {ticket : Nat} {q : JoinRequest}
    {r : Rendezvous} {deadline : Nat} {order : TurnOrder} {e : StateEvent} {v : ServerEvent}
    (h : r.meet w.bus order = .complete e v) :
    Moves T ticket w (.join q (.gathering r deadline))
      (w.completeHandshake T ticket q r.selfId e v).1
      (w.completeHandshake T ticket q r.selfId e v).2 := by
  rw [completeHandshake_eq]
  cases hg : w.registry.get? q.guild with
  | none =>
    have hm : Move T ticket w (.join q (.gathering r deadline)) _ _ := .won h hg
    have hr := Registry.tryRegister_of_none (r := w.registry) (x := sessionOf T q r.selfId e v) hg
    unfold tryRegister at hm ⊢
    rw [show (w.confirm ticket (sessionOf T q r.selfId e v)).registry = w.registry from rfl, hr]
      at hm ⊢
    exact hm.moves
  | some s =>
    have hm : Move T ticket w (.join q (.gathering r deadline)) _ _ := .lost h hg
    have hr := Registry.tryRegister_of_some (r := w.registry) (x := sessionOf T q r.selfId e v) hg
    unfold tryRegister
    rw [show (w.confirm ticket (sessionOf T q r.selfId e v)).registry = w.registry from rfl, hr]
    exact hm.moves

theorem moves_gather (w : Coordinator σ) (ticket : Nat) (order : TurnOrder) (q : JoinRequest)
    (r : Rendezvous) (deadline : Nat) :
    Moves T ticket w (.join q (.gathering r deadline))
      (w.gather T ticket order q r deadline).1 (w.gather T ticket order q r deadline).2 := by
  unfold gather
  split
  · next r' h => exact (Move.gather h).moves
  · next e v h => exact moves_completeHandshake h
  · next stream h => exact moves_failHandshake (.streamClosed h)

theorem moves_afterOpening (w : Coordinator σ) (ticket : Nat) (order : TurnOrder)
    (q : JoinRequest) (states servers : Cursor) (f : InFlight) :
    Moves T ticket w (.join q (.opening states servers f))
      (w.afterOpening T ticket order q states servers f.refusal).1
      (w.afterOpening T ticket order q states servers f.refusal).2 := by
  cases hf : f.refusal with
  | none =>
    simp only [afterOpening, beginGathering]
    split
    · next hid => exact moves_failHandshake (.selfIdMissing hf hid)
    · next selfId hid => exact .next (.openingAccepted hf hid) (moves_gather w ticket order q _ _)
  | some e => exact (Move.openingRefused hf).moves

theorem moves_awaitEcho (w : Coordinator σ) (ticket : Nat) (q : JoinRequest)
    (selfId : Snowflake) (s : SessionRef) (states : Cursor) :
    Moves T ticket w (.join q (.awaitingEcho selfId s states))
      (w.awaitEcho q selfId s states).1 (w.awaitEcho q selfId s states).2 := by
  unfold awaitEcho
  split
  · exact Move.echoed.moves
  · exact Move.unechoed.moves
  · exact Move.echoClosed.moves

theorem moves_afterRenewal (w : Coordinator σ) (ticket : Nat) (q : JoinRequest)
    (selfId : Snowflake) (s : SessionRef) (states : Cursor) (f : InFlight) :
    Moves T ticket w (.join q (.renewing selfId s states f))
      (w.afterRenewal q selfId s states f.refusal).1
      (w.afterRenewal q selfId s states f.refusal).2 := by
  cases hf : f.refusal with
  | none => exact .next (.renewalAccepted hf) (moves_awaitEcho w ticket q selfId s states)
  | some e => exact (Move.renewalRefused hf).moves

theorem renew_lookUp_eq (w : Coordinator σ) (ticket : Nat) (q : JoinRequest) (s : SessionRef) :
    (w.lookUp T ticket q).renew T ticket q s =
      match w.identity.selfId with
      | none => (.ended (.joinFailed .missingSelfId), w.lookUp T ticket q)
      | some selfId =>
        match w.sendRenewal T ticket q with
        | (.settled refusal, w') =>
          w'.afterRenewal q selfId s ⟨w.bus.states.history.length⟩ refusal
        | (.held refusal, w') =>
          (.pending (.join q (.renewing selfId s ⟨w.bus.states.history.length⟩
            (w'.flight refusal))), w') := rfl

theorem moves_renew {w : Coordinator σ} {ticket : Nat} {q : JoinRequest} {s : SessionRef}
    (hit : w.registry.get? q.guild = some s) :
    Moves T ticket w (.join q .fresh) ((w.lookUp T ticket q).renew T ticket q s).1
      ((w.lookUp T ticket q).renew T ticket q s).2 := by
  rw [renew_lookUp_eq]
  cases hid : w.identity.selfId with
  | none => exact (Move.anonymous hit hid).moves
  | some selfId =>
    have hm : Move T ticket w (.join q .fresh) _ _ := .renew hit hid
    rcases hs : w.sendRenewal T ticket q with ⟨reply, w'⟩
    rw [hs] at hm
    cases reply with
    | settled refusal =>
      exact .next hm (moves_afterRenewal w' ticket q selfId s _ (w.flight refusal))
    | held refusal =>
      have hf : w'.flight refusal = w.flight refusal :=
        flight_dispatch (w := (w.lookUp T ticket q).subscribeStates.2) hs refusal
      dsimp only
      rw [hf]
      exact hm.moves

theorem openHandshake_lookUp_eq (w : Coordinator σ) (ticket : Nat) (order : TurnOrder)
    (q : JoinRequest) :
    (w.lookUp T ticket q).openHandshake T ticket order q =
      match w.sendOpening T ticket q with
      | (.settled refusal, w') =>
        w'.afterOpening T ticket order q ⟨w.bus.states.history.length⟩
          ⟨w.bus.servers.history.length⟩ refusal
      | (.held refusal, w') =>
        (.pending (.join q (.opening ⟨w.bus.states.history.length⟩
          ⟨w.bus.servers.history.length⟩ (w'.flight refusal))), w') := rfl

theorem moves_openHandshake {w : Coordinator σ} (ticket : Nat) (order : TurnOrder)
    {q : JoinRequest} (miss : w.registry.get? q.guild = none) :
    Moves T ticket w (.join q .fresh)
      ((w.lookUp T ticket q).openHandshake T ticket order q).1
      ((w.lookUp T ticket q).openHandshake T ticket order q).2 := by
  rw [openHandshake_lookUp_eq]
  have hm : Move T ticket w (.join q .fresh) _ _ := .open miss
  rcases hs : w.sendOpening T ticket q with ⟨reply, w'⟩
  rw [hs] at hm
  cases reply with
  | settled refusal =>
    exact .next hm (moves_afterOpening w' ticket order q _ _ (w.flight refusal))
  | held refusal =>
    have hf : w'.flight refusal = w.flight refusal :=
      flight_dispatch (w := (w.lookUp T ticket q).subscribeStates.2.subscribeServers.2) hs refusal
    dsimp only
    rw [hf]
    exact hm.moves

/-- The first run of a join looks the guild up. -/
theorem beginJoin_eq (w : Coordinator σ) (ticket : Nat) (order : TurnOrder) (q : JoinRequest) :
    w.beginJoin T ticket order q =
      match w.registry.get? q.guild with
      | some s => (w.lookUp T ticket q).renew T ticket q s
      | none => (w.lookUp T ticket q).openHandshake T ticket order q := rfl

theorem moves_runJoin (w : Coordinator σ) (ticket : Nat) (order : TurnOrder) (q : JoinRequest)
    (stage : JoinStage) :
    Moves T ticket w (.join q stage) (w.runJoin T ticket order q stage).1
      (w.runJoin T ticket order q stage).2 := by
  cases stage with
  | fresh =>
    rw [runJoin, beginJoin_eq]
    split
    · next s hit => exact moves_renew hit
    · next miss => exact moves_openHandshake ticket order miss
  | renewing selfId s states f =>
    rw [runJoin]
    split
    · exact moves_afterRenewal w ticket q selfId s states f
    · exact .rest w _ rfl
  | awaitingEcho selfId s states => exact moves_awaitEcho w ticket q selfId s states
  | opening states servers f =>
    rw [runJoin]
    split
    · exact moves_afterOpening w ticket order q states servers f
    · exact .rest w _ rfl
  | gathering r deadline => exact moves_gather w ticket order q r deadline
  | leaving cause f =>
    rw [runJoin]
    split
    · exact moves_finishFailure w ticket q cause f
    · exact .rest w _ rfl

theorem moves_awaitServer (w : Coordinator σ) (ticket : Nat) (guild : Snowflake)
    (servers : Cursor) :
    Moves T ticket w (.watch guild (some servers)) (w.awaitServer guild servers).1
      (w.awaitServer guild servers).2 := by
  unfold awaitServer
  split
  · exact Move.reassigned.moves
  · exact Move.unassigned.moves
  · exact Move.watchClosed.moves

/-- Running a call makes a chain of moves. -/
theorem moves_runTask (w : Coordinator σ) (ticket : Nat) (order : TurnOrder) (task : Task) :
    Moves T ticket w task (w.runTask T ticket order task).1
      (w.runTask T ticket order task).2 := by
  cases task with
  | join q stage => exact moves_runJoin w ticket order q stage
  | disconnect guild f => exact moves_runDisconnect w ticket guild f
  | watch guild servers =>
    cases servers with
    | none => exact .next .watch (moves_awaitServer _ ticket guild _)
    | some servers => exact moves_awaitServer w ticket guild servers

end Coordinator

end VoiceGateway
