import Mathlib.Data.List.DropRight
import VoiceGateway.Proofs.Handshake.Isolation
import VoiceGateway.Proofs.Handshake.Loopback
import VoiceGateway.Proofs.Handshake.Verdict

/-!
# Calls that fall behind

Any number of events may be published between two runs of a call, more than the streams
keep. Then the call has lost the oldest of them and nothing else: it goes on with the last
ones that its streams keep as if these were all that had come (`Stream.unread_eq`).

A call that has been run and waits for events has passed all that were there
(`Task.CaughtUp`), and other calls do not move its cursors. So what it considers when it is
run next are the events since, up to the width of the window.

> `Rests.of_runs`: a call that was run and still waits has passed everything.
> `resumed_gather`, `awaited_echo`, `awaited_server`: how a wait goes on, by the first match
> among the events that it considers.
> `lag_tolerance`: bursts of any length.
-/

namespace VoiceGateway

/-! ## Streams -/

namespace Stream

variable {α β : Type}

/-- What can still be read are the last events since a cursor, as many as the window holds. -/
theorem unread_eq (s : Stream α) (c : Cursor) :
    s.unread c = (s.heard c.passed).rtake s.window := by
  have hstart : max c.passed s.windowStart =
      c.passed + ((s.history.drop c.passed).length - s.window) := by
    rw [List.length_drop]
    unfold windowStart
    omega
  unfold unread heard List.rtake
  rw [List.drop_drop, hstart]

/-- A match with few events behind it is among the last ones, and so one is found there. -/
theorem find?_rtake_isSome {l before behind : List α} {e : α} {n : Nat} {p : α → Bool}
    (split : l = before ++ e :: behind) (few : behind.length < n) (he : p e = true) :
    ((l.rtake n).find? p).isSome = true := by
  rw [List.find?_isSome]
  refine ⟨e, ?_, he⟩
  have hlen : l.length - n ≤ before.length := by
    rw [split, List.length_append, List.length_cons]
    omega
  unfold List.rtake
  rw [split] at hlen ⊢
  rw [List.drop_append_of_le_length hlen]
  exact List.mem_append_right _ List.mem_cons_self

/-- A wait that goes on has found nothing on an open stream, and one that fails has found
nothing on a stream that has ended. -/
def Waits (s : Stream α) (accept : α → Option β) (c : Cursor) : Wait β → Prop
  | .found b _ => (s.unread c).findSome? accept = some b
  | .pending _ => (s.unread c).findSome? accept = none ∧ s.closed = false
  | .closed => (s.unread c).findSome? accept = none ∧ s.closed = true

theorem wait_waits (s : Stream α) (accept : α → Option β) (c : Cursor) :
    s.Waits accept c (s.wait accept c) := by
  refine waitAtMost_rule (P := s.Waits accept) (fun c c' e b hr ha => ?_) (fun c c' hr => ?_)
    (fun c c' hr => ?_) (fun c c' x _ hsame hx => ?_) _ c (Nat.lt_succ_self _)
  · show (s.unread c).findSome? accept = some b
    rw [unread_of_event hr, List.findSome?_cons, ha]
  · obtain ⟨hend, hopen⟩ := unread_of_end hr (Or.inl rfl)
    refine ⟨by rw [hend]; rfl, ?_⟩
    cases hc : s.closed with
    | true => exact absurd (hopen.mpr hc) (by simp)
    | false => rfl
  · obtain ⟨hend, hclosed⟩ := unread_of_end hr (Or.inr rfl)
    exact ⟨by rw [hend]; rfl, hclosed.mp rfl⟩
  · -- Neither an event that does not match nor a gap changes what is found behind it.
    cases x with
    | found b z => exact hsame.trans hx
    | pending z => exact ⟨hsame.trans hx.1, hx.2⟩
    | closed => exact ⟨hsame.trans hx.1, hx.2⟩

end Stream

/-! ## What a rendezvous makes of some events -/

namespace Rendezvous

/-- The state that a rendezvous has once it has considered some events: the one that it had,
or else the first own one among them. -/
def stateAmong (r : Rendezvous) (es : List StateEvent) : Option StateEvent :=
  r.state.or (es.find? (·.isOwn r.guild r.selfId))

/-- The server that it has then. -/
def serverAmong (r : Rendezvous) (vs : List ServerEvent) : Option ServerEvent :=
  r.server.or (vs.find? (·.assigns r.guild))

/-- Whether a stream has ended and a rendezvous still wants something of it. -/
def BarredAmong (r : Rendezvous) (b : EventBus) (es : List StateEvent) (vs : List ServerEvent) :
    StreamName → Prop
  | .state => r.stateAmong es = none ∧ b.states.closed = true
  | .server => r.serverAmong vs = none ∧ b.servers.closed = true

variable {r : Rendezvous} {b : EventBus}

/-- What has been captured does not depend on what can still be read. -/
theorem soonState_eq {es : List StateEvent}
    (h : r.state = none → b.states.unread r.states = es) : r.soonState b = r.stateAmong es := by
  unfold soonState stateAmong
  cases hs : r.state with
  | some e => rfl
  | none => rw [h hs]

theorem soonServer_eq {vs : List ServerEvent}
    (h : r.server = none → b.servers.unread r.servers = vs) :
    r.soonServer b = r.serverAmong vs := by
  unfold soonServer serverAmong
  cases hv : r.server with
  | some v => rfl
  | none => rw [h hv]

end Rendezvous

namespace Coordinator

variable {σ : Type} {T : Transport σ} {ticket : Nat}

/-! ## Going on -/

/-- What is left of a call that has gone on with a rendezvous, by the events that it has
considered of each stream. -/
inductive Resumed (T : Transport σ) (q : JoinRequest) (r : Rendezvous) (deadline : Nat)
    (es : List StateEvent) (vs : List ServerEvent) (c : Call) (x : Coordinator σ) :
    Coordinator σ → Prop
  /-- Both confirmations are in: it is joined by these two. -/
  | joined {e : StateEvent} {v : ServerEvent} {s : SessionRef} {y : Coordinator σ}
      (state : r.stateAmong es = some e) (server : r.serverAmong vs = some v)
      (completes : x.completeHandshake T c.ticket q r.selfId e v = (.ended (.joined s), y)) :
      Resumed T q r deadline es vs c x (y.finish c.ticket (.joined s))
  /-- One is wanting, and may still come: nothing happens but that it keeps what it has. -/
  | waits {r' : Rendezvous} (guild : r'.guild = r.guild) (selfId : r'.selfId = r.selfId)
      (state : r'.state = r.stateAmong es) (server : r'.server = r.serverAmong vs)
      (wanting : r'.state = none ∨ r'.server = none)
      (unbarred : ∀ n, ¬ r.BarredAmong x.bus es vs n) :
      Resumed T q r deadline es vs c x
        (x.putCall { c with task := .join q (.gathering r' deadline) })
  /-- One is wanting and its stream has ended: it fails for that. -/
  | failed {n : StreamName} (barred : r.BarredAmong x.bus es vs n) :
      Resumed T q r deadline es vs c x
        ((x.failHandshake T c.ticket q (.streamClosed n)).2.settle c
          (x.failHandshake T c.ticket q (.streamClosed n)).1)

/-- What is left of a call that has waited on one stream, by the events that it has
considered. -/
inductive Awaited {α β : Type} (s : Stream α) (accept : α → Option β) (es : List α)
    (stream : StreamName) (answer : β → Outcome) (failure : Outcome) (waiting : Cursor → Task)
    (c : Call) (x : Coordinator σ) : Coordinator σ → Prop
  /-- It answers with the first match. -/
  | ended {b : β} (first : es.findSome? accept = some b) :
      Awaited s accept es stream answer failure waiting c x
        ((x.unsubscribe stream).finish c.ticket (answer b))
  /-- There is none, and one may still come: nothing happens. -/
  | waits {cursor : Cursor} (missing : es.findSome? accept = none) (opened : s.closed = false) :
      Awaited s accept es stream answer failure waiting c x
        (x.putCall { c with task := waiting cursor })
  /-- There is none and the stream has ended: it fails for that. -/
  | failed (missing : es.findSome? accept = none) (closed : s.closed = true) :
      Awaited s accept es stream answer failure waiting c x
        ((x.unsubscribe stream).finish c.ticket failure)

variable {x : Coordinator σ} {c : Call}

/-- Whatever the order in which it asks, a rendezvous goes on by the first matches among the
events that it can still read. -/
theorem resumed_gather (x : Coordinator σ) (c : Call) (order : TurnOrder) (q : JoinRequest)
    {r : Rendezvous} (deadline : Nat) {es : List StateEvent} {vs : List ServerEvent}
    (states : r.state = none → x.bus.states.unread r.states = es)
    (servers : r.server = none → x.bus.servers.unread r.servers = vs) :
    Resumed T q r deadline es vs c x
      ((x.gather T c.ticket order q r deadline).2.settle c
        (x.gather T c.ticket order q r deadline).1) := by
  have hstate := Rendezvous.soonState_eq states
  have hserver := Rendezvous.soonServer_eq servers
  have barred : ∀ n, r.Barred x.bus n ↔ r.BarredAmong x.bus es vs n := by
    intro n
    cases n with
    | state => exact and_congr_left' (by rw [hstate])
    | server => exact and_congr_left' (by rw [hserver])
  have hmet := Rendezvous.meet_spec x.bus order r
  unfold gather
  cases hm : r.meet x.bus order with
  | complete e v =>
    rw [hm] at hmet
    obtain ⟨s, hs⟩ : ∃ s, (x.completeHandshake T c.ticket q r.selfId e v).1 =
        .ended (.joined s) := completeHandshake_joins x r.selfId e v
    dsimp only
    rw [hs]
    exact .joined (hstate.symm.trans hmet.1) (hserver.symm.trans hmet.2) (Prod.ext hs rfl)
  | pending r' =>
    rw [hm] at hmet
    obtain ⟨onward, hs, hv, wanting, unbarred⟩ := hmet
    refine .waits onward.guild onward.selfId (hs.trans hstate) (hv.trans hserver) ?_
      fun n h => unbarred n ((barred n).mpr h)
    rw [hs, hv]
    exact wanting
  | closed n =>
    rw [hm] at hmet
    exact .failed ((barred n).mp hmet)

/-- A wait for an echo goes on by the first own state. -/
theorem awaited_echo (x : Coordinator σ) (c : Call) (q : JoinRequest) (me : Snowflake)
    (s : SessionRef) (cursor : Cursor) :
    Awaited x.bus.states (Option.guard (·.isOwn q.guild me)) (x.bus.states.unread cursor) .state
      (fun _ => .joined s) (.joinFailed (.streamClosed .state))
      (fun cursor => .join q (.awaitingEcho me s cursor)) c x
      ((x.awaitEcho q me s cursor).2.settle c (x.awaitEcho q me s cursor).1) := by
  have hwaits := x.bus.states.wait_waits (Option.guard (·.isOwn q.guild me)) cursor
  unfold awaitEcho
  cases hw : x.bus.states.wait (Option.guard (·.isOwn q.guild me)) cursor with
  | found e cursor' =>
    rw [hw] at hwaits
    exact .ended hwaits
  | pending cursor' =>
    rw [hw] at hwaits
    exact .waits hwaits.1 hwaits.2
  | closed =>
    rw [hw] at hwaits
    exact .failed hwaits.1 hwaits.2

/-- A wait for a voice server goes on by the first one that is assigned. -/
theorem awaited_server (x : Coordinator σ) (c : Call) (g : Snowflake) (cursor : Cursor) :
    Awaited x.bus.servers (optionsFor g) (x.bus.servers.unread cursor) .server .reassigned
      (.watchFailed (.streamClosed .server)) (fun cursor => .watch g (some cursor)) c x
      ((x.awaitServer g cursor).2.settle c (x.awaitServer g cursor).1) := by
  have hwaits := x.bus.servers.wait_waits (optionsFor g) cursor
  unfold awaitServer
  cases hw : x.bus.servers.wait (optionsFor g) cursor with
  | found options cursor' =>
    rw [hw] at hwaits
    exact .ended hwaits
  | pending cursor' =>
    rw [hw] at hwaits
    exact .waits hwaits.1 hwaits.2
  | closed =>
    rw [hw] at hwaits
    exact .failed hwaits.1 hwaits.2

end Coordinator

/-! ## Where cursors stand -/

namespace Task

/-- A call's cursors have passed nothing that is still to come, and its rendezvous is about
its guild. -/
def Placed (b : EventBus) : Task → Prop
  | .join _ (.renewing _ _ states _) => states.passed ≤ b.states.history.length
  | .join _ (.awaitingEcho _ _ states) => states.passed ≤ b.states.history.length
  | .join _ (.opening states servers _) =>
    states.passed ≤ b.states.history.length ∧ servers.passed ≤ b.servers.history.length
  | .join q (.gathering r _) => r.guild = q.guild ∧
    (r.state = none → r.states.passed ≤ b.states.history.length) ∧
    (r.server = none → r.servers.passed ≤ b.servers.history.length)
  | .watch _ (some servers) => servers.passed ≤ b.servers.history.length
  | _ => True

/-- A call that waits for events has passed all that there are. -/
def CaughtUp (b : EventBus) : Task → Prop
  | .join _ (.awaitingEcho _ _ states) => states.passed = b.states.history.length
  | .join _ (.gathering r _) =>
    (r.state = none → r.states.passed = b.states.history.length) ∧
    (r.server = none → r.servers.passed = b.servers.history.length)
  | .watch _ (some servers) => servers.passed = b.servers.history.length
  | _ => True

theorem Placed.of_grows {b b' : EventBus} {task : Task} (h : task.Placed b) (grows : b.Grows b') :
    task.Placed b' := by
  have hstates := grows.states.history.length_le
  have hservers := grows.servers.history.length_le
  cases task with
  | join q stage =>
    cases stage with
    | fresh => exact trivial
    | leaving cause f => exact trivial
    | renewing me s states f => exact Nat.le_trans h hstates
    | awaitingEcho me s states => exact Nat.le_trans h hstates
    | opening states servers f => exact ⟨Nat.le_trans h.1 hstates, Nat.le_trans h.2 hservers⟩
    | gathering r deadline =>
      exact ⟨h.1, fun hn => Nat.le_trans (h.2.1 hn) hstates,
        fun hn => Nat.le_trans (h.2.2 hn) hservers⟩
  | disconnect g f => exact trivial
  | watch g servers =>
    cases servers with
    | none => exact trivial
    | some servers => exact Nat.le_trans h hservers

end Task

namespace Coordinator

/-- What has become of a call: if it is pending it is in place and has caught up. -/
def Rested (made : Progress × Coordinator σ) : Prop :=
  made.1.Meets (fun task => task.Placed made.2.bus ∧ task.CaughtUp made.2.bus) fun _ => True

theorem rested_failHandshake (w : Coordinator σ) (q : JoinRequest) (cause : JoinError) :
    Rested (w.failHandshake T ticket q cause) := by
  rw [failHandshake_eq]
  rcases w.sendLeave T ticket q cause with ⟨reply, w'⟩
  cases reply with
  | settled refusal => cases refusal <;> exact trivial
  | held refusal => exact ⟨trivial, trivial⟩

theorem rested_gather (w : Coordinator σ) (order : TurnOrder) {q : JoinRequest} {r : Rendezvous}
    {deadline : Nat} (placed : (Task.join q (.gathering r deadline)).Placed w.bus) :
    Rested (w.gather T ticket order q r deadline) := by
  obtain ⟨hguild, hstates, hservers⟩ := placed
  unfold gather
  cases hm : r.meet w.bus order with
  | complete e v =>
    obtain ⟨s, hs⟩ : ∃ s, (w.completeHandshake T ticket q r.selfId e v).1 = .ended (.joined s) :=
      completeHandshake_joins w r.selfId e v
    show (w.completeHandshake T ticket q r.selfId e v).1.Meets _ _
    rw [hs]
    exact trivial
  | pending r' =>
    obtain ⟨hg, -, hs, hv, hsend, hvend⟩ := Rendezvous.pending_spec hm
    have states : r'.state = none → r'.states.passed = w.bus.states.history.length :=
      fun hn => hsend (hstates (Rendezvous.state_of_soonState (hs.symm.trans hn))) hn
    have servers : r'.server = none → r'.servers.passed = w.bus.servers.history.length :=
      fun hn => hvend (hservers (Rendezvous.server_of_soonServer (hv.symm.trans hn))) hn
    exact ⟨⟨hg.trans hguild, fun hn => Nat.le_of_eq (states hn),
      fun hn => Nat.le_of_eq (servers hn)⟩, states, servers⟩
  | closed n => exact rested_failHandshake w q _

theorem rested_afterOpening (w : Coordinator σ) (order : TurnOrder) {q : JoinRequest}
    {states servers : Cursor} (f : InFlight)
    (placed : (Task.join q (.opening states servers f)).Placed w.bus)
    (refusal : Option TransportError) :
    Rested (w.afterOpening T ticket order q states servers refusal) := by
  cases refusal with
  | some e => exact trivial
  | none =>
    show Rested (w.beginGathering T ticket order q states servers)
    unfold beginGathering
    split
    · exact rested_failHandshake w q _
    · exact rested_gather w order ⟨rfl, fun _ => placed.1, fun _ => placed.2⟩

theorem rested_awaitEcho (w : Coordinator σ) {q : JoinRequest} {me : Snowflake} {s : SessionRef}
    {states : Cursor} (placed : states.passed ≤ w.bus.states.history.length) :
    Rested (w.awaitEcho q me s states) := by
  have hspec := w.bus.states.wait_spec (Option.guard (·.isOwn q.guild me)) states
  unfold awaitEcho
  cases hw : w.bus.states.wait (Option.guard (·.isOwn q.guild me)) states with
  | found e states' => exact trivial
  | pending states' =>
    rw [hw] at hspec
    exact ⟨Nat.le_of_eq (hspec.2 placed), hspec.2 placed⟩
  | closed => exact trivial

theorem rested_afterRenewal (w : Coordinator σ) {q : JoinRequest} {me : Snowflake}
    {s : SessionRef} {states : Cursor} (placed : states.passed ≤ w.bus.states.history.length)
    (refusal : Option TransportError) : Rested (w.afterRenewal q me s states refusal) := by
  cases refusal with
  | some e => exact trivial
  | none => exact rested_awaitEcho w placed

theorem rested_awaitServer (w : Coordinator σ) {g : Snowflake} {servers : Cursor}
    (placed : servers.passed ≤ w.bus.servers.history.length) :
    Rested (w.awaitServer g servers) := by
  have hspec := w.bus.servers.wait_spec (optionsFor g) servers
  unfold awaitServer
  cases hw : w.bus.servers.wait (optionsFor g) servers with
  | found options servers' => exact trivial
  | pending servers' =>
    rw [hw] at hspec
    exact ⟨Nat.le_of_eq (hspec.2 placed), hspec.2 placed⟩
  | closed => exact trivial

theorem rested_beginJoin (w : Coordinator σ) (order : TurnOrder) (q : JoinRequest) :
    Rested (w.beginJoin T ticket order q) := by
  rw [beginJoin_eq]
  cases hg : w.registry.get? q.guild with
  | some s =>
    dsimp only
    rw [renew_lookUp_eq]
    cases hid : w.identity.selfId with
    | none => exact trivial
    | some me =>
      have subscribed : w.bus.Grows (w.lookUp T ticket q).subscribeStates.2.bus :=
        ⟨Stream.subscribe_grows _, Stream.grows_refl _⟩
      have hgrows : w.bus.Grows (w.sendRenewal T ticket q).2.bus :=
        EventBus.grows_trans subscribed (EventBus.publishAll_grows _ _)
      dsimp only
      rcases hs : w.sendRenewal T ticket q with ⟨reply, w'⟩
      rw [hs] at hgrows
      cases reply with
      | settled refusal => exact rested_afterRenewal w' hgrows.states.history.length_le refusal
      | held refusal => exact ⟨hgrows.states.history.length_le, trivial⟩
  | none =>
    have subscribed : w.bus.Grows (w.lookUp T ticket q).subscribeStates.2.subscribeServers.2.bus :=
      ⟨Stream.subscribe_grows _, Stream.subscribe_grows _⟩
    have hgrows : w.bus.Grows (w.sendOpening T ticket q).2.bus :=
      EventBus.grows_trans subscribed (EventBus.publishAll_grows _ _)
    dsimp only
    rw [openHandshake_lookUp_eq]
    rcases hs : w.sendOpening T ticket q with ⟨reply, w'⟩
    rw [hs] at hgrows
    have placed : w.bus.states.history.length ≤ w'.bus.states.history.length ∧
        w.bus.servers.history.length ≤ w'.bus.servers.history.length :=
      ⟨hgrows.states.history.length_le, hgrows.servers.history.length_le⟩
    cases reply with
    | settled refusal => exact rested_afterOpening w' order (w'.flight refusal) placed refusal
    | held refusal => exact ⟨placed, trivial⟩

theorem rested_runDisconnect (w : Coordinator σ) (g : Snowflake) (f : Option InFlight) :
    Rested (w.runDisconnect T ticket g f) := by
  have finished : ∀ (w : Coordinator σ) (refusal : Option TransportError),
      Rested (w.finishDisconnect ticket g refusal) := by
    intro w refusal
    cases refusal <;> exact trivial
  unfold runDisconnect
  cases f with
  | none =>
    dsimp only
    rcases w.dispatch T ticket (.leave g) with ⟨reply, w'⟩
    cases reply with
    | settled refusal => exact finished w' refusal
    | held refusal => exact ⟨trivial, trivial⟩
  | some f =>
    dsimp only
    split
    · exact finished w f.refusal
    · exact ⟨trivial, trivial⟩

theorem rested_runTask (w : Coordinator σ) (order : TurnOrder) {task : Task}
    (placed : task.Placed w.bus) : Rested (w.runTask T ticket order task) := by
  cases task with
  | join q stage =>
    cases stage with
    | fresh => exact rested_beginJoin w order q
    | renewing me s states f =>
      show Rested (if w.released f then _ else _)
      split
      · exact rested_afterRenewal w placed _
      · exact ⟨placed, trivial⟩
    | awaitingEcho me s states => exact rested_awaitEcho w placed
    | opening states servers f =>
      show Rested (if w.released f then _ else _)
      split
      · exact rested_afterOpening w order f placed _
      · exact ⟨placed, trivial⟩
    | gathering r deadline => exact rested_gather w order placed
    | leaving cause f =>
      show Rested (if w.released f then _ else _)
      split
      · cases f.refusal <;> exact trivial
      · exact ⟨trivial, trivial⟩
  | disconnect g f => exact rested_runDisconnect w g f
  | watch g servers =>
    cases servers with
    | none => exact rested_awaitServer w.subscribeServers.2 (Nat.le_refl _)
    | some servers => exact rested_awaitServer w placed

/-! ## Calls at rest -/

/-- The limit that a caller has set counts from the first run, whenever that was. -/
theorem runAt_runAt (c : Call) (n m : Nat) : (c.runAt n).runAt m = c.runAt n := by
  obtain ⟨ticket, task, patience, limit⟩ := c
  cases limit with
  | some limit => rfl
  | none => cases patience <;> rfl

/-- The cursors of a call are in place. -/
def Located (ticket : Nat) (w : Coordinator σ) : Prop :=
  ∀ c, w.call? ticket = some c → c.task.Placed w.bus

/-- A call that was run is in place, has caught up, and its limit is set. -/
structure AtRest (w : Coordinator σ) (c : Call) : Prop where
  placed : c.task.Placed w.bus
  caughtUp : c.task.CaughtUp w.bus
  limited : ∀ n, c.runAt n = c

/-- If a call is pending it is at rest. -/
def Rests (ticket : Nat) (w : Coordinator σ) : Prop :=
  ∀ c, w.call? ticket = some c → w.AtRest c

/-- What has become of a call that was run is entered. -/
theorem rests_settle {w w' : Coordinator σ} {c c₀ : Call} (found : w.call? c.ticket = some c₀)
    (calls : w'.calls = w.calls) {p : Progress} (rested : Rested (p, w'))
    (limited : ∀ n, c.runAt n = c) : (w'.settle c p).Rests c.ticket := by
  intro c' hc'
  cases p with
  | ended o => exact absurd ((call?_settle_ended w' c o).symm.trans hc') (by simp)
  | pending task =>
    have hfound : w'.call? c.ticket = some c₀ := (call?_congr calls _).trans found
    rw [call?_settle_pending hfound task] at hc'
    cases hc'
    refine ⟨rested.1, rested.2, fun n => ?_⟩
    -- What the limit is does not depend on the task.
    have hlimit := congrArg Call.limit (limited n)
    obtain ⟨t, task', patience, limit⟩ := c
    cases limit with
    | some limit => rfl
    | none =>
      cases patience with
      | some d => exact absurd hlimit (by simp [Call.runAt])
      | none => rfl

theorem rests_poll {w : Coordinator σ} (located : w.Located ticket) (order : TurnOrder) :
    (w.poll T order ticket).Rests ticket := by
  cases found : w.call? ticket with
  | none =>
    unfold poll
    rw [found]
    intro c hc
    exact absurd (found.symm.trans hc) (by simp)
  | some c =>
    have ht : (c.runAt w.now).ticket = ticket := by
      rw [← call?_ticket found]
      unfold Call.runAt
      split <;> rfl
    have hmoves := moves_runTask (T := T) w ticket order c.task
    have rested : Rested (w.runTask T ticket order c.task) :=
      rested_runTask w order (located c found)
    have hrests := rests_settle (ht.symm ▸ found) hmoves.calls.1 rested
      fun n => runAt_runAt c w.now n
    rw [ht] at hrests
    unfold poll
    rw [found]
    exact hrests

/-- A deadline that takes effect leaves nothing that waits for events. -/
theorem rests_expireHandshake {w : Coordinator σ} {c : Call} (found : w.call? c.ticket = some c)
    (rests : w.Rests c.ticket) : (w.expireHandshake T c).Rests c.ticket := by
  unfold expireHandshake
  split
  · next q r deadline htask =>
    split
    · next late =>
      have hf : Fails w q (.gathering r deadline) (.timeout q.timeout) := .expired late
      have hmoves : Moves T c.ticket w (.join q (.gathering r deadline)) _ _ :=
        moves_failHandshake hf
      exact rests_settle found hmoves.calls.1 (rested_failHandshake w q _) (rests c found).limited
    · exact rests
  · exact rests

theorem rests_expirePatience {w : Coordinator σ} {c : Call} (rests : w.Rests c.ticket) :
    (w.expirePatience c).Rests c.ticket := by
  unfold expirePatience
  split
  · split
    · intro c' hc'
      rw [call?_abandon, if_pos rfl] at hc'
      exact absurd hc' (by simp)
    · exact rests
  · exact rests

/-- The two steps that an expiry has left when it has run the call. -/
theorem rests_handshake {w : Coordinator σ} (rests : w.Rests ticket) :
    Rests ticket (match w.call? ticket with
      | some c => w.expireHandshake T c
      | none => w) := by
  split
  · next c hc =>
    have ht := call?_ticket hc
    subst ht
    exact rests_expireHandshake hc rests
  · exact rests

theorem rests_patience {w : Coordinator σ} (rests : w.Rests ticket) :
    Rests ticket (match w.call? ticket with
      | some c => w.expirePatience c
      | none => w) := by
  split
  · next c hc =>
    have ht := call?_ticket hc
    subst ht
    exact rests_expirePatience rests
  · exact rests

/-- A call that was run and is still pending is at rest. -/
theorem rests_of_runs {w : Coordinator σ} (located : w.Located ticket) {a : Act σ}
    (runs : a.runs ticket) : (w.step T a).Rests ticket := by
  cases a with
  | poll t order =>
    have ht : t = ticket := runs
    subst ht
    exact rests_poll located order
  | expire t order =>
    have ht : t = ticket := runs
    subst ht
    exact rests_patience (rests_handshake (rests_poll located order))
  | _ => exact absurd runs id

/-- Acts that do not name a ticket leave its call as it is. -/
theorem call?_run_of_ne {w : Coordinator σ} {acts : List (Act σ)}
    (others : ∀ b ∈ acts, b.ticket? ≠ some ticket) :
    (w.run T acts).call? ticket = w.call? ticket :=
  run_preserves (P := fun w' => w'.call? ticket = w.call? ticket)
    (fun b hb _ _ change same => (change.call? (others b hb)).trans same) rfl

theorem located_step {w : Coordinator σ} (located : w.Located ticket) (a : Act σ) :
    (w.step T a).Located ticket := by
  intro c hc
  by_cases own : a.ticket? = some ticket
  · cases a with
    | start t job patience =>
      have ht : t = ticket := Option.some.inj own
      subst ht
      change (w.start t job.task patience).call? t = some c at hc
      cases unused : w.isFresh t with
      | true =>
        -- A job starts with a task that holds no cursors.
        rw [call?_start unused, if_pos rfl] at hc
        cases hc
        cases job <;> exact trivial
      | false =>
        have hsame : w.step T (.start t job patience) = w :=
          start_of_not_isFresh w t job.task patience unused
        rw [start_of_not_isFresh w t job.task patience unused] at hc
        rw [hsame]
        exact located c hc
    | abort t =>
      have ht : t = ticket := Option.some.inj own
      subst ht
      change (w.abort t).2.call? t = some c at hc
      unfold abort at hc
      split at hc
      · next hnone => exact absurd (hnone.symm.trans hc) (by simp)
      · next c' hc' =>
        rw [call?_abandon, if_pos (call?_ticket hc').symm] at hc
        exact absurd hc (by simp)
    | poll t order =>
      have runs : (Act.poll t order : Act σ).runs ticket := Option.some.inj own
      exact (rests_of_runs located runs c hc).placed
    | expire t order =>
      have runs : (Act.expire t order : Act σ).runs ticket := Option.some.inj own
      exact (rests_of_runs located runs c hc).placed
    | _ => exact absurd own (by simp [Act.ticket?])
  · -- The cursors stay where they are, and histories only grow.
    have hsame : (w.run T [a]).call? ticket = w.call? ticket :=
      call?_run_of_ne fun b hb => List.mem_singleton.mp hb ▸ own
    exact (located c (hsame.symm.trans hc)).of_grows (step_grows w a).bus

theorem located_run {w : Coordinator σ} (located : w.Located ticket) (acts : List (Act σ)) :
    (w.run T acts).Located ticket := by
  induction acts generalizing w with
  | nil => exact located
  | cons a acts ih =>
    rw [run_cons]
    exact ih (located_step located a)

/-! ## The next run -/

/-- How the next run of a call that waits goes on, if these are the events that it
considers. -/
def GoesOn (T : Transport σ) (es : List StateEvent) (vs : List ServerEvent) (c : Call)
    (x y : Coordinator σ) : Prop :=
  match c.task with
  | .join q (.gathering r deadline) => r.guild = q.guild ∧ Resumed T q r deadline es vs c x y
  | .join q (.awaitingEcho me s _) =>
    Awaited x.bus.states (Option.guard (·.isOwn q.guild me)) es .state (fun _ => .joined s)
      (.joinFailed (.streamClosed .state)) (fun cursor => .join q (.awaitingEcho me s cursor)) c x y
  | .watch g (some _) =>
    Awaited x.bus.servers (optionsFor g) vs .server .reassigned
      (.watchFailed (.streamClosed .server)) (fun cursor => .watch g (some cursor)) c x y
  | _ => True

/-- How the next run of a join goes on whose command was not answered yet: as long as it is
not nothing happens, and once it is accepted the join considers the last events since its
subscriptions. -/
def TakesUp (T : Transport σ) (window : Nat) (c : Call) (x y : Coordinator σ) : Prop :=
  match c.task with
  | .join q (.opening states servers f) =>
    (x.released f = false → y = x.putCall c) ∧
    (x.released f = true → f.refusal = none → ∀ me, x.identity.selfId = some me →
      Resumed T q ⟨q.guild, me, states, servers, none, none⟩ (x.now + q.timeout.nanos)
        ((x.bus.states.heard states.passed).rtake window)
        ((x.bus.servers.heard servers.passed).rtake window) c x y)
  | .join q (.renewing me s states f) =>
    (x.released f = false → y = x.putCall c) ∧
    (x.released f = true → f.refusal = none →
      Awaited x.bus.states (Option.guard (·.isOwn q.guild me))
        ((x.bus.states.heard states.passed).rtake window) .state (fun _ => .joined s)
        (.joinFailed (.streamClosed .state)) (fun cursor => .join q (.awaitingEcho me s cursor))
        c x y)
  | _ => True

theorem poll_atRest {x : Coordinator σ} {c : Call} (found : x.call? ticket = some c)
    (limited : ∀ n, c.runAt n = c) (order : TurnOrder) :
    x.step T (.poll ticket order) = (x.runTask T c.ticket order c.task).2.settle c
      (x.runTask T c.ticket order c.task).1 := by
  have ht := call?_ticket found
  subst ht
  show x.poll T order c.ticket = _
  unfold poll
  rw [found]
  dsimp only
  rw [limited]

/-- A call that had passed everything at one time considers the last events since. -/
theorem goesOn_of_caughtUp {w : Coordinator σ} {c : Call} (placed : c.task.Placed w.bus)
    (caughtUp : c.task.CaughtUp w.bus) (x : Coordinator σ) (order : TurnOrder) :
    GoesOn T ((x.bus.states.heard w.bus.states.history.length).rtake x.bus.states.window)
      ((x.bus.servers.heard w.bus.servers.history.length).rtake x.bus.servers.window) c x
      ((x.runTask T c.ticket order c.task).2.settle c
        (x.runTask T c.ticket order c.task).1) := by
  obtain ⟨ticket, task, patience, limit⟩ := c
  cases task with
  | join q stage =>
    cases stage with
    | awaitingEcho me s states =>
      have hecho := awaited_echo x ⟨ticket, .join q (.awaitingEcho me s states), patience, limit⟩
        q me s states
      rw [Stream.unread_eq, show states.passed = _ from caughtUp] at hecho
      exact hecho
    | gathering r deadline =>
      refine ⟨placed.1, resumed_gather x _ order q deadline (fun hn => ?_) fun hn => ?_⟩
      · rw [Stream.unread_eq, caughtUp.1 hn]
      · rw [Stream.unread_eq, caughtUp.2 hn]
    | _ => exact trivial
  | disconnect g f => exact trivial
  | watch g servers =>
    cases servers with
    | none => exact trivial
    | some servers =>
      have hserver := awaited_server x ⟨ticket, .watch g (some servers), patience, limit⟩ g servers
      rw [Stream.unread_eq, show servers.passed = _ from caughtUp] at hserver
      exact hserver

theorem takesUp_runTask (x : Coordinator σ) (c : Call) {window : Nat}
    (states : x.bus.states.window = window) (servers : x.bus.servers.window = window)
    (order : TurnOrder) :
    TakesUp T window c x ((x.runTask T c.ticket order c.task).2.settle c
      (x.runTask T c.ticket order c.task).1) := by
  obtain ⟨ticket, task, patience, limit⟩ := c
  cases task with
  | join q stage =>
    cases stage with
    | renewing me s cursor f =>
      let c : Call := ⟨ticket, .join q (.renewing me s cursor f), patience, limit⟩
      have hrun : x.runTask T ticket order c.task = if x.released f then
          x.afterRenewal q me s cursor f.refusal else (.pending c.task, x) := rfl
      refine ⟨fun held => ?_, fun released accepted => ?_⟩
      · rw [hrun, if_neg (by simp [held])]
        rfl
      · rw [hrun, if_pos released, accepted, ← states, ← Stream.unread_eq]
        exact awaited_echo x c q me s cursor
    | opening cursor cursor' f =>
      let c : Call := ⟨ticket, .join q (.opening cursor cursor' f), patience, limit⟩
      have hrun : x.runTask T ticket order c.task = if x.released f then
          x.afterOpening T ticket order q cursor cursor' f.refusal else (.pending c.task, x) := rfl
      refine ⟨fun held => ?_, fun released accepted me known => ?_⟩
      · rw [hrun, if_neg (by simp [held])]
        rfl
      · have hgather : x.runTask T ticket order c.task =
            x.gather T ticket order q ⟨q.guild, me, cursor, cursor', none, none⟩
              (x.now + q.timeout.nanos) := by
          rw [hrun, if_pos released, accepted]
          show x.beginGathering T ticket order q cursor cursor' = _
          unfold beginGathering
          rw [known]
        rw [hgather]
        refine resumed_gather x c order q _ (fun _ => ?_) fun _ => ?_
        · rw [Stream.unread_eq, states]
        · rw [Stream.unread_eq, servers]
    | _ => exact trivial
  | disconnect g f => exact trivial
  | watch g servers => exact trivial

/-- Whatever is due, something is due by then. -/
theorem earlier_le {s t : Option Nat} {n : Nat} (h : s = some n ∨ t = some n) :
    ∃ m, Call.earlier s t = some m ∧ m ≤ n := by
  rcases h with rfl | rfl
  · cases t with
    | none => exact ⟨n, rfl, Nat.le_refl n⟩
    | some t => exact ⟨min n t, rfl, Nat.min_le_left n t⟩
  · cases s with
    | none => exact ⟨n, rfl, Nat.le_refl n⟩
    | some s => exact ⟨min s n, rfl, Nat.min_le_right s n⟩

/-- An expiry before any deadline only runs the call. -/
theorem expire_eq_poll {x : Coordinator σ} {order : TurnOrder}
    (early : ∀ c t, (x.poll T order ticket).call? ticket = some c → c.dueAt = some t → x.now < t) :
    x.expire T order ticket = x.poll T order ticket := by
  let y := x.poll T order ticket
  -- The deadlines are read after the call was run, on a clock that this leaves as it is.
  have hnow : y.now = x.now := by
    cases found : x.call? ticket with
    | none =>
      show (x.poll T order ticket).now = _
      unfold poll
      rw [found]
    | some c =>
      obtain ⟨limit, he⟩ := poll_eq (T := T) found order
      show (x.poll T order ticket).now = _
      rw [he]
      have hmoves := moves_runTask (T := T) x ticket order c.task
      rw [← hmoves.surroundings.1]
      cases (x.runTask T ticket order c.task).1 <;> rfl
  cases found : y.call? ticket with
  | none =>
    unfold expire
    dsimp only
    rw [show (x.poll T order ticket).call? ticket = none from found]
    dsimp only
    rw [show (x.poll T order ticket).call? ticket = none from found]
  | some c =>
    have hhandshake : y.expireHandshake T c = y := by
      unfold expireHandshake
      split
      · next q r deadline htask =>
        obtain ⟨t, hdue, hle⟩ := @earlier_le c.task.deadline? c.limit deadline
          (Or.inl (by rw [htask]; rfl))
        have hlt := early c t found hdue
        rw [if_neg (by omega)]
      · rfl
    have hpatience : y.expirePatience c = y := by
      unfold expirePatience
      split
      · next limit hlimit =>
        obtain ⟨t, hdue, hle⟩ := @earlier_le c.task.deadline? c.limit limit (Or.inr hlimit)
        have hlt := early c t found hdue
        rw [if_neg (by omega)]
      · rfl
    unfold expire
    dsimp only
    rw [show (x.poll T order ticket).call? ticket = some c from found]
    dsimp only
    rw [show (x.poll T order ticket).expireHandshake T c = y from hhandshake, found]
    exact hpatience

/-- Falling behind costs a call nothing but the oldest events. The streams of the bus keep
the last events, as many as its capacity rounded up to a power of two. Let a call be pending
that was run, and let anything happen before its next run that does not name it: any number
of events on either stream among it.

* Meanwhile the call stays as it is, and what is published to an open stream that it holds
  is delivered.
* If it waits for events, its next run considers the last ones that came to each stream since
  it was run, as many as the stream keeps, in their order. The first match among them is what
  it takes. If it is still wanting one it goes on waiting with what it has and does nothing
  else, unless the stream has ended.
* If its command was not answered yet, nothing happens until it is, and then it considers
  the last events since it has subscribed.
* An expiry does the same as long as no deadline has passed.
* Whatever it looks for, an event that matches is not missed if fewer than that many came
  to its stream after it. -/
theorem lag_tolerance {capacity : Nat} {bus : EventBus}
    (created : EventBus.create? capacity = some bus) (line : σ) (identity : Identity)
    (before : List (Act σ)) {a : Act σ} (runs : a.runs ticket) {c : Call}
    (pending : (run T { line, identity, bus } (before ++ [a])).call? ticket = some c)
    {burst : List (Act σ)} (others : ∀ b ∈ burst, b.ticket? ≠ some ticket) :
    let w := run T { line, identity, bus } (before ++ [a])
    let x := w.run T burst
    let window := capacity.nextPowerOfTwo
    let states := x.bus.states.history.drop w.bus.states.history.length
    let servers := x.bus.servers.history.drop w.bus.servers.history.length
    x.call? ticket = some c ∧
    (∀ es stream, burst = es.map .publish → c.task.holds stream = true →
      w.bus.ended stream = false → w.bus.Delivers x.bus es stream) ∧
    (∀ order,
      GoesOn T (states.rtake window) (servers.rtake window) c x (x.step T (.poll ticket order)) ∧
      TakesUp T window c x (x.step T (.poll ticket order)) ∧
      ((∀ c' t, (x.step T (.poll ticket order)).call? ticket = some c' → c'.dueAt = some t →
          x.now < t) →
        x.step T (.expire ticket order) = x.step T (.poll ticket order))) ∧
    (∀ l e l', states = l ++ e :: l' → l'.length < window →
      ∀ p : StateEvent → Bool, p e = true → ((states.rtake window).find? p).isSome = true) ∧
    ∀ l v l', servers = l ++ v :: l' → l'.length < window →
      ∀ p : ServerEvent → Bool, p v = true → ((servers.rtake window).find? p).isSome = true := by
  intro w x window states servers
  let u : Coordinator σ := { line, identity, bus }
  have hw : Reachable T w := ⟨line, identity, bus, before ++ [a], rfl⟩
  have hx : x.call? ticket = some c := (call?_run_of_ne others).trans pending
  -- What the last run of the call has left, before any of the burst.
  have hrest : w.AtRest c := by
    have located : (u.run T before).Located ticket :=
      located_run (fun c hc => absurd hc (by simp [u, call?])) before
    have hstep : w = (u.run T before).step T a := run_concat u before a
    exact (hstep ▸ rests_of_runs located runs) c pending
  have hwindow : bus.states.window = window ∧ bus.servers.window = window := by
    unfold EventBus.create? Stream.create? at created
    split at created
    · exact absurd created (by simp)
    · injection created with created
      subst created
      exact ⟨rfl, rfl⟩
  have hgrown : u.bus.Grows x.bus :=
    EventBus.grows_trans (run_grows (T := T) u (before ++ [a])).bus (run_grows (T := T) w burst).bus
  have hstates : x.bus.states.window = window := hgrown.states.window.trans hwindow.1
  have hservers : x.bus.servers.window = window := hgrown.servers.window.trans hwindow.2
  refine ⟨hx, fun es stream published holds opened => ?_, fun order => ⟨?_, ?_, fun early => ?_⟩,
    fun l e l' split few p he => ?_, fun l v l' split few p hv => ?_⟩
  · have hbus : x.bus = (w.bus.publishAll es).2 := by
      show (w.run T burst).bus = _
      rw [published, run_publish]
    rw [hbus]
    exact EventBus.publishAll_delivers es w.bus opened (hw.subscribers_ne_zero pending holds)
  · rw [poll_atRest hx hrest.limited]
    have hgoes := goesOn_of_caughtUp (T := T) hrest.placed hrest.caughtUp x order
    rw [hstates, hservers] at hgoes
    exact hgoes
  · rw [poll_atRest hx hrest.limited]
    exact takesUp_runTask x c hstates hservers order
  · exact expire_eq_poll early
  · exact Stream.find?_rtake_isSome split few he
  · exact Stream.find?_rtake_isSome split few hv

/-- Streams that keep one event: of an own state with a foreign one behind it the join gets
the foreign one alone, and waits with the server that it has. -/
theorem lag_tolerance_of_lost_state :
    let T := Transport.scripted 4
    let bus : EventBus := ⟨{ window := 1 }, { window := 1 }⟩
    let q : JoinRequest := ⟨⟨1⟩, ⟨2⟩, false, false, .ofSecs 5⟩
    let foreign : StateEvent := ⟨⟨1⟩, ⟨8⟩, none, "r"⟩
    let assigned : ServerEvent := ⟨⟨1⟩, some "host", "t"⟩
    let c : Call :=
      ⟨0, .join q (.gathering ⟨⟨1⟩, ⟨7⟩, ⟨0⟩, ⟨0⟩, none, none⟩ 5000000000), none, none⟩
    let w := run T { line := .accepts, identity := .fixed (some ⟨7⟩), bus }
      ([.start 0 (.join q) none] ++ [.poll 0 statesFirst])
    let burst : List (Act LineMode) := [.publish (.state ⟨⟨1⟩, ⟨7⟩, none, "s"⟩),
      .publish (.state foreign), .publish (.server assigned)]
    let x := w.run T burst
    EventBus.create? 1 = some bus ∧ w.call? 0 = some c ∧
      ∀ order, GoesOn T [foreign] [assigned] c x (x.step T (.poll 0 order)) := by
  intro T bus q foreign assigned c w burst x
  have window : Nat.nextPowerOfTwo 1 = 1 := by decide +kernel
  have created : EventBus.create? 1 = some bus := by
    simp [EventBus.create?, Stream.create?, window, bus]
  have pending : w.call? 0 = some c := by decide
  have polls : (Act.poll 0 statesFirst : Act LineMode).runs 0 := rfl
  have others : ∀ b ∈ burst, b.ticket? ≠ some 0 := by simp [burst, Act.ticket?]
  have h := lag_tolerance (T := T) created .accepts (.fixed (some ⟨7⟩)) [.start 0 (.join q) none]
    polls pending others
  have states : (x.bus.states.history.drop w.bus.states.history.length).rtake 1 = [foreign] := by
    decide
  have servers : (x.bus.servers.history.drop w.bus.servers.history.length).rtake 1 =
      [assigned] := by
    decide
  refine ⟨created, pending, fun order => ?_⟩
  have hgoes := (h.2.2.1 order).1
  rw [window] at hgoes
  rw [← states, ← servers]
  simp only [x, w]
  exact hgoes

end Coordinator

end VoiceGateway
