import VoiceGateway.Handshake.Coordinator

/-!
# How calls progress

A call is run for as long as it finds what it waits for, and stops where it has
to wait. This is what the three kinds of calls do.

To join, a call first looks the guild up.

* If the guild has a session, the command is sent nevertheless, the call waits
  for its echo alone and answers with the session that was there. It sets itself
  no deadline.
* If not, it subscribes to both streams before it sends the command, so that no
  confirmation is missed, waits for the two confirmations up to a deadline and
  registers the session they make. Whoever registers first wins; the others
  answer with the winner.

A join without a session that fails after its command was taken gives up its
subscriptions, sends a leave and evicts the guild, and answers with the failure
that started this, however the leave goes.
-/

namespace VoiceGateway.Coordinator

variable {σ : Type} (T : Transport σ)

/-! ## Disconnecting -/

/-- The end of a disconnect: the guild is evicted whether the command went through
or not. -/
def finishDisconnect (w : Coordinator σ) (ticket : Nat) (guild : Snowflake)
    (refusal : Option TransportError) : Progress × Coordinator σ :=
  let (evicted, w) := w.evict (some ticket) guild
  match refusal with
  | none => (.ended (.left evicted), w)
  | some e => (.ended (.leaveFailed e), w)

def runDisconnect (w : Coordinator σ) (ticket : Nat) (guild : Snowflake) :
    Option InFlight → Progress × Coordinator σ
  | none =>
    match w.dispatch T ticket (.leave guild) with
    | (.settled refusal, w) => w.finishDisconnect ticket guild refusal
    | (.held refusal, w) => (.pending (.disconnect guild (some (w.flight refusal))), w)
  | some f =>
    if w.released f then w.finishDisconnect ticket guild f.refusal
    else (.pending (.disconnect guild (some f)), w)

/-! ## Failed handshakes -/

/-- The end of a failed handshake: the guild is evicted, and a leave that was
refused is noted. -/
def finishFailure (w : Coordinator σ) (ticket : Nat) (guild : Snowflake) (cause : JoinError)
    (refusal : Option TransportError) : Progress × Coordinator σ :=
  let (_, w) := w.evict (some ticket) guild
  match refusal with
  | none => (.ended (.joinFailed cause), w)
  | some e =>
    (.ended (.joinFailed cause), w.note (some ticket) (.cleanupFailed guild e.message))

/-- Fails a handshake whose command was taken: its subscriptions are given up
before the leave is sent. -/
def failHandshake (w : Coordinator σ) (ticket : Nat) (request : JoinRequest)
    (cause : JoinError) : Progress × Coordinator σ :=
  let w := w.unsubscribeBoth.note (some ticket)
    (.handshakeFailed request.guild (shardOf request.guild T.shardCount) cause.message)
  match w.dispatch T ticket (.leave request.guild) with
  | (.settled refusal, w) => w.finishFailure ticket request.guild cause refusal
  | (.held refusal, w) => (.pending (.join request (.leaving cause (w.flight refusal))), w)

/-! ## Handshakes -/

/-- The session that two confirmations make. -/
def sessionOf (request : JoinRequest) (selfId : Snowflake) (state : StateEvent)
    (server : ServerEvent) : Session where
  guild := request.guild
  channel := state.channel.getD request.channel
  selfId
  shard := shardOf request.guild T.shardCount
  sessionId := state.sessionId
  server := ⟨server.endpoint.getD "", server.token⟩

/-- Completes a handshake: the session is registered, or the one that is there
already is the answer. How long the handshake took by the clock on the wall is
not told. -/
def completeHandshake (w : Coordinator σ) (ticket : Nat) (request : JoinRequest)
    (selfId : Snowflake) (state : StateEvent) (server : ServerEvent) :
    Progress × Coordinator σ :=
  let session := sessionOf T request selfId state server
  let w := w.unsubscribeBoth.note (some ticket)
    (.handshakeCompleted request.guild session.shard session.server.endpoint 0)
  match w.tryRegister session with
  | (.won s, w) => (.ended (.joined s), w)
  | (.lost s, w) => (.ended (.joined s), w.note (some ticket) (.raceLost request.guild))

/-- Goes on with a rendezvous. -/
def gather (w : Coordinator σ) (ticket : Nat) (order : TurnOrder) (request : JoinRequest)
    (r : Rendezvous) (deadline : Nat) : Progress × Coordinator σ :=
  match r.meet w.bus order with
  | .pending r => (.pending (.join request (.gathering r deadline)), w)
  | .complete state server => w.completeHandshake T ticket request r.selfId state server
  | .closed stream => w.failHandshake T ticket request (.streamClosed stream)

/-- Begins the rendezvous once the command is accepted; the deadline counts from
now. -/
def beginGathering (w : Coordinator σ) (ticket : Nat) (order : TurnOrder)
    (request : JoinRequest) (states servers : Cursor) : Progress × Coordinator σ :=
  match w.identity.selfId with
  | none => w.failHandshake T ticket request .missingSelfId
  | some selfId =>
    w.gather T ticket order request ⟨request.guild, selfId, states, servers, none, none⟩
      (w.now + request.timeout.nanos)

/-- Goes on with the answer to the command of a join without a session. -/
def afterOpening (w : Coordinator σ) (ticket : Nat) (order : TurnOrder) (request : JoinRequest)
    (states servers : Cursor) : Option TransportError → Progress × Coordinator σ
  | none => w.beginGathering T ticket order request states servers
  | some e => (.ended (.joinFailed (.transport e)), w.unsubscribeBoth)

/-- A join of a guild that has no session. -/
def openHandshake (w : Coordinator σ) (ticket : Nat) (order : TurnOrder)
    (request : JoinRequest) : Progress × Coordinator σ :=
  let (states, w) := w.subscribeStates
  let (servers, w) := w.subscribeServers
  match w.dispatch T ticket request.update with
  | (.settled refusal, w) => w.afterOpening T ticket order request states servers refusal
  | (.held refusal, w) =>
    (.pending (.join request (.opening states servers (w.flight refusal))), w)

/-! ## Renewals -/

/-- Waits for the echo of a command for a guild that has a session. -/
def awaitEcho (w : Coordinator σ) (request : JoinRequest) (selfId : Snowflake)
    (session : SessionRef) (states : Cursor) : Progress × Coordinator σ :=
  match w.bus.states.wait (Option.guard (·.isOwn request.guild selfId)) states with
  | .found _ _ => (.ended (.joined session), w.unsubscribe .state)
  | .pending states => (.pending (.join request (.awaitingEcho selfId session states)), w)
  | .closed => (.ended (.joinFailed (.streamClosed .state)), w.unsubscribe .state)

/-- Goes on with the answer to the command of a join with a session. -/
def afterRenewal (w : Coordinator σ) (request : JoinRequest) (selfId : Snowflake)
    (session : SessionRef) (states : Cursor) :
    Option TransportError → Progress × Coordinator σ
  | none => w.awaitEcho request selfId session states
  | some e => (.ended (.joinFailed (.transport e)), w.unsubscribe .state)

/-- A join of a guild that has a session. -/
def renew (w : Coordinator σ) (ticket : Nat) (request : JoinRequest) (session : SessionRef) :
    Progress × Coordinator σ :=
  match w.identity.selfId with
  | none => (.ended (.joinFailed .missingSelfId), w)
  | some selfId =>
    -- Subscribed before the command is out: the echo cannot be missed.
    let (states, w) := w.subscribeStates
    match w.dispatch T ticket request.update with
    | (.settled refusal, w) => w.afterRenewal request selfId session states refusal
    | (.held refusal, w) =>
      (.pending (.join request (.renewing selfId session states (w.flight refusal))), w)

/-! ## Joins -/

/-- The first run of a join. -/
def beginJoin (w : Coordinator σ) (ticket : Nat) (order : TurnOrder) (request : JoinRequest) :
    Progress × Coordinator σ :=
  let existing := w.registry.get? request.guild
  let w := w.note (some ticket) (.joinRequested request.guild request.channel
    (shardOf request.guild T.shardCount) existing.isSome)
  match existing with
  | some session => w.renew T ticket request session
  | none => w.openHandshake T ticket order request

/-- Runs a join from the stage it is at. -/
def runJoin (w : Coordinator σ) (ticket : Nat) (order : TurnOrder) (request : JoinRequest) :
    JoinStage → Progress × Coordinator σ
  | .fresh => w.beginJoin T ticket order request
  | .renewing selfId session states f =>
    if w.released f then w.afterRenewal request selfId session states f.refusal
    else (.pending (.join request (.renewing selfId session states f)), w)
  | .awaitingEcho selfId session states => w.awaitEcho request selfId session states
  | .opening states servers f =>
    if w.released f then w.afterOpening T ticket order request states servers f.refusal
    else (.pending (.join request (.opening states servers f)), w)
  | .gathering r deadline => w.gather T ticket order request r deadline
  | .leaving cause f =>
    if w.released f then w.finishFailure ticket request.guild cause f.refusal
    else (.pending (.join request (.leaving cause f)), w)

/-! ## Watches -/

/-- The options in a server event that assigns a server to a guild. -/
def optionsFor (guild : Snowflake) (e : ServerEvent) : Option ServerOptions :=
  if e.guild = guild then e.endpoint.map fun endpoint => ⟨endpoint, e.token⟩ else none

/-- Waits for the next server of a guild. -/
def awaitServer (w : Coordinator σ) (guild : Snowflake) (servers : Cursor) :
    Progress × Coordinator σ :=
  match w.bus.servers.wait (optionsFor guild) servers with
  | .found options _ => (.ended (.reassigned options), w.unsubscribe .server)
  | .pending servers => (.pending (.watch guild (some servers)), w)
  | .closed => (.ended (.watchFailed (.streamClosed .server)), w.unsubscribe .server)

def runWatch (w : Coordinator σ) (guild : Snowflake) : Option Cursor → Progress × Coordinator σ
  | none =>
    let (servers, w) := w.subscribeServers
    w.awaitServer guild servers
  | some servers => w.awaitServer guild servers

/-! ## All calls -/

/-- Runs a call from where it is. -/
def runTask (w : Coordinator σ) (ticket : Nat) (order : TurnOrder) :
    Task → Progress × Coordinator σ
  | .join request stage => w.runJoin T ticket order request stage
  | .disconnect guild flight => w.runDisconnect T ticket guild flight
  | .watch guild servers => w.runWatch guild servers

/-- Runs the pending call with a ticket for as long as it goes on. -/
def poll (w : Coordinator σ) (order : TurnOrder) (ticket : Nat) : Coordinator σ :=
  match w.call? ticket with
  | none => w
  | some c =>
    let (progress, w') := w.runTask T ticket order c.task
    w'.settle (c.runAt w.now) progress

/-- Fails the handshake of a call whose own deadline has passed. -/
def expireHandshake (w : Coordinator σ) (c : Call) : Coordinator σ :=
  match c.task with
  | .join request (.gathering _ deadline) =>
    if deadline ≤ w.now then
      let (progress, w') := w.failHandshake T c.ticket request (.timeout request.timeout)
      w'.settle c progress
    else w
  | _ => w

/-- Gives up a call whose caller does not wait any longer. -/
def expirePatience (w : Coordinator σ) (c : Call) : Coordinator σ :=
  match c.limit with
  | some limit => if limit ≤ w.now then w.abandon c .outOfPatience else w
  | none => w

/-- Runs a call and, if it is still pending then, lets the deadlines take effect
that have passed: what is there to go on with beats a deadline, and the call's own
deadline beats the patience of its caller. -/
def expire (w : Coordinator σ) (order : TurnOrder) (ticket : Nat) : Coordinator σ :=
  let w := w.poll T order ticket
  -- Either step may end the call, so it is looked up again after each.
  let w := match w.call? ticket with
    | some c => w.expireHandshake T c
    | none => w
  match w.call? ticket with
  | some c => w.expirePatience c
  | none => w

end VoiceGateway.Coordinator
