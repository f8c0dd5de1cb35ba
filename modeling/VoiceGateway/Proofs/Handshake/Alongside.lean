import VoiceGateway.Proofs.Handshake.Likeness

/-!
# One call on two coordinators

A call for a guild is run on two coordinators that are alike to the guild, with the
transport in the same state on both. It does the same on both: it sends the same commands,
which are answered the same, it finds the same events on the streams, unless it has fallen
behind on the stream with more of them, and it ends in the same way or waits for the same
thing. Afterwards the coordinators are alike again.

The lemmas follow the functions that run calls, one for each of them.

> `runTask_follows`: a call for the guild goes the same way on both coordinators.
-/

namespace VoiceGateway.Coordinator

variable {σ : Type} {T : Transport σ} {rule : ShardCommand → Option TransportError}
  {ρ : SessionRef → SessionRef} {g : Snowflake} {w v : Coordinator σ}

/-- Two coordinators alike to a guild, with the transport in the same state and the
sessions of the first one numbered. -/
structure Aligned (ρ : SessionRef → SessionRef) (g : Snowflake) (w v : Coordinator σ) :
    Prop where
  like : Like ρ g w v
  line : v.line = w.line
  names : Registry.Numbers ρ g w.registry
  lawful : w.registry.Lawful

/-- What becomes of a call and of the coordinator is the same on both sides. -/
structure Alongside (ρ : SessionRef → SessionRef) (g : Snowflake)
    (x y : Progress × Coordinator σ) : Prop where
  like : Like ρ g x.2 y.2
  line : y.2.line = x.2.line
  progress : Progress.Follows ρ g x.2.bus y.2.bus x.1 y.1

/-! ## Single steps -/

theorem Aligned.note (h : Aligned ρ g w v) (t : Option Nat) {e : TraceEvent}
    (own : e.guild? = some g) : Aligned ρ g (w.note t e) (v.note t e) :=
  ⟨h.like.note t own, h.line, h.names, h.lawful⟩

theorem Aligned.unsubscribe (h : Aligned ρ g w v) (stream : StreamName) :
    Aligned ρ g (w.unsubscribe stream) (v.unsubscribe stream) :=
  ⟨h.like.unsubscribe stream, h.line, h.names, h.lawful⟩

theorem Aligned.unsubscribeBoth (h : Aligned ρ g w v) :
    Aligned ρ g w.unsubscribeBoth v.unsubscribeBoth :=
  (h.unsubscribe .state).unsubscribe .server

theorem Aligned.subscribeStates (h : Aligned ρ g w v) :
    Aligned ρ g w.subscribeStates.2 v.subscribeStates.2 :=
  ⟨h.like.subscribeStates, h.line, h.names, h.lawful⟩

theorem Aligned.subscribeServers (h : Aligned ρ g w v) :
    Aligned ρ g w.subscribeServers.2 v.subscribeServers.2 :=
  ⟨h.like.subscribeServers, h.line, h.names, h.lawful⟩

/-- A join of the guild is noted, with the same answer to whether there is a session. -/
theorem Aligned.lookUp (h : Aligned ρ g w v) (ticket : Nat) {q : JoinRequest}
    (own : q.guild = g) :
    Aligned ρ g (w.lookUp T ticket q) (v.lookUp (T.about g rule) ticket q) := by
  have hsome : (v.registry.get? q.guild).isSome = (w.registry.get? q.guild).isSome := by
    rw [own, h.like.registry.entry, Option.isSome_map]
  unfold Coordinator.lookUp
  rw [hsome]
  exact h.note _ (congrArg some own)

/-- A command for the guild is answered the same. -/
theorem Aligned.dispatch (h : Aligned ρ g w v)
    (steady : ∀ s c, (T.send s c).1.refusal = rule c) (ticket : Nat) {u : VoiceUpdate}
    (own : u.guild = g) :
    (v.dispatch (T.about g rule) ticket u).1 = (w.dispatch T ticket u).1 ∧
      Aligned ρ g (w.dispatch T ticket u).2 (v.dispatch (T.about g rule) ticket u).2 := by
  obtain ⟨hreply, hlike⟩ := h.like.dispatch steady h.line ticket own
  refine ⟨hreply, hlike, ?_, h.names, h.lawful⟩
  show (T.send v.line _).2.2 = (T.send w.line _).2.2
  rw [h.line]
  rfl

/-- What the transport publishes meanwhile comes to whoever is subscribed on both sides. -/
theorem Aligned.dispatched (h : Aligned ρ g w v) (ticket : Nat) (u : VoiceUpdate)
    {stream : StreamName} {c c' : Cursor} (cursors : EventBus.Follows g w.bus v.bus stream c c')
    (held : w.bus.subscribers stream ≠ 0) (held' : v.bus.subscribers stream ≠ 0) :
    EventBus.Follows g (w.dispatch T ticket u).2.bus (v.dispatch (T.about g rule) ticket u).2.bus
      stream c c' := by
  have hsame : (T.about g rule).send v.line (.route u T.shardCount) =
      (T.about g rule).send w.line (.route u T.shardCount) := by rw [h.line]
  refine cursors.delivered
    (EventBus.publishAll_delivers (T.send w.line (.route u T.shardCount)).2.1 w.bus
      (h.like.bus.opened stream) held) ?_
  have hdelivers := EventBus.publishAll_delivers
    ((T.about g rule).send v.line (.route u T.shardCount)).2.1 v.bus
    (h.like.bus.opened' stream) held'
  rw [hsame] at hdelivers
  show EventBus.Delivers v.bus (v.bus.publishAll
    ((T.about g rule).send v.line (.route u T.shardCount)).2.1).2 _ stream
  rw [hsame]
  exact hdelivers

/-! ## Disconnecting -/

theorem finishDisconnect_follows (h : Aligned ρ g w v) (ticket : Nat)
    (refusal : Option TransportError) :
    Alongside ρ g (w.finishDisconnect ticket g refusal) (v.finishDisconnect ticket g refusal) := by
  obtain ⟨hanswer, hlike⟩ := h.like.evict h.names h.lawful (some ticket)
  have hline : (v.evict (some ticket) g).2.line = (w.evict (some ticket) g).2.line := by
    rw [evict_line, evict_line, h.line]
  cases refusal with
  | none =>
    refine ⟨hlike, hline, ?_⟩
    show Progress.Follows ρ g _ _ (.ended (.left (w.evict (some ticket) g).1))
      (.ended (.left (v.evict (some ticket) g).1))
    rw [hanswer]
    exact .ended (.left _)
  | some e => exact ⟨hlike, hline, .ended (.leaveFailed e)⟩

theorem runDisconnect_follows (h : Aligned ρ g w v)
    (steady : ∀ s c, (T.send s c).1.refusal = rule c) (ticket : Nat) (f : Option InFlight) :
    Alongside ρ g (w.runDisconnect T ticket g f) (v.runDisconnect (T.about g rule) ticket g f) := by
  unfold runDisconnect
  cases f with
  | none =>
    obtain ⟨hreply, hsent⟩ := h.dispatch (u := .leave g) steady ticket rfl
    rcases hd : w.dispatch T ticket (.leave g) with ⟨reply, w'⟩
    rcases hd' : v.dispatch (T.about g rule) ticket (.leave g) with ⟨reply', v'⟩
    rw [hd, hd'] at hreply hsent
    subst hreply
    cases reply' with
    | settled refusal => exact finishDisconnect_follows hsent ticket refusal
    | held refusal =>
      refine ⟨hsent.like, hsent.line, ?_⟩
      dsimp only
      rw [hsent.like.flight]
      exact .pending .disconnect
  | some f =>
    dsimp only
    rw [h.like.released]
    split
    · exact finishDisconnect_follows h ticket f.refusal
    · exact ⟨h.like, h.line, .pending .disconnect⟩

/-! ## Failed handshakes -/

theorem finishFailure_follows (h : Aligned ρ g w v) (ticket : Nat) (cause : JoinError)
    (refusal : Option TransportError) :
    Alongside ρ g (w.finishFailure ticket g cause refusal)
      (v.finishFailure ticket g cause refusal) := by
  obtain ⟨-, hlike⟩ := h.like.evict h.names h.lawful (some ticket)
  have hline : (v.evict (some ticket) g).2.line = (w.evict (some ticket) g).2.line := by
    rw [evict_line, evict_line, h.line]
  cases refusal with
  | none => exact ⟨hlike, hline, .ended (.joinFailed cause)⟩
  | some e => exact ⟨hlike.note _ rfl, hline, .ended (.joinFailed cause)⟩

theorem failHandshake_follows (h : Aligned ρ g w v)
    (steady : ∀ s c, (T.send s c).1.refusal = rule c) (ticket : Nat) {q : JoinRequest}
    (own : q.guild = g) (cause : JoinError) :
    Alongside ρ g (w.failHandshake T ticket q cause)
      (v.failHandshake (T.about g rule) ticket q cause) := by
  subst own
  have hsent : (v.sendLeave (T.about q.guild rule) ticket q cause).1 =
        (w.sendLeave T ticket q cause).1 ∧
      Aligned ρ q.guild (w.sendLeave T ticket q cause).2
        (v.sendLeave (T.about q.guild rule) ticket q cause).2 :=
    (h.unsubscribeBoth.note _ rfl).dispatch steady ticket rfl
  rw [failHandshake_eq, failHandshake_eq]
  rcases hd : w.sendLeave T ticket q cause with ⟨reply, w'⟩
  rcases hd' : v.sendLeave (T.about q.guild rule) ticket q cause with ⟨reply', v'⟩
  rw [hd, hd'] at hsent
  obtain ⟨rfl, hsent⟩ := hsent
  cases reply' with
  | settled refusal => exact finishFailure_follows hsent ticket cause refusal
  | held refusal =>
    refine ⟨hsent.like, hsent.line, ?_⟩
    dsimp only
    rw [hsent.like.flight]
    exact .pending (.leaving rfl)

/-! ## Handshakes -/

theorem completeHandshake_follows (h : Aligned ρ g w v) (ticket : Nat) {q : JoinRequest}
    (own : q.guild = g) (selfId : Snowflake) (e : StateEvent) (x : ServerEvent) :
    Alongside ρ g (w.completeHandshake T ticket q selfId e x)
      (v.completeHandshake (T.about g rule) ticket q selfId e x) := by
  have hconfirmed : Aligned ρ g (w.confirm ticket (sessionOf T q selfId e x))
      (v.confirm ticket (sessionOf T q selfId e x)) :=
    h.unsubscribeBoth.note _ (congrArg some own)
  obtain ⟨hanswer, hlike⟩ := hconfirmed.like.tryRegister hconfirmed.names
    (x := sessionOf T q selfId e x) own
  have hline : ((v.confirm ticket (sessionOf T q selfId e x)).tryRegister
      (sessionOf T q selfId e x)).2.line = ((w.confirm ticket
        (sessionOf T q selfId e x)).tryRegister (sessionOf T q selfId e x)).2.line :=
    hconfirmed.line
  rw [completeHandshake_eq, completeHandshake_eq,
    show sessionOf (T.about g rule) q selfId e x = sessionOf T q selfId e x from rfl]
  rcases hx : (w.confirm ticket (sessionOf T q selfId e x)).tryRegister
    (sessionOf T q selfId e x) with ⟨answer, w'⟩
  rcases hy : (v.confirm ticket (sessionOf T q selfId e x)).tryRegister
    (sessionOf T q selfId e x) with ⟨answer', v'⟩
  rw [hx, hy] at hanswer hlike hline
  subst hanswer
  cases answer with
  | won s => exact ⟨hlike, hline, .ended (.joined s)⟩
  | lost s => exact ⟨hlike.note _ (congrArg some own), hline, .ended (.joined s)⟩

theorem gather_follows (h : Aligned ρ g w v) (ticket : Nat) (order : TurnOrder)
    {q : JoinRequest} (own : q.guild = g) {r r' : Rendezvous}
    (cursors : Rendezvous.Follows g w.bus v.bus r r') (reach : r.InReach w.bus) (deadline : Nat) :
    Alongside ρ g (w.gather T ticket order q r deadline)
      (v.gather (T.about g rule) ticket order q r' deadline) := by
  have hmeet := Rendezvous.meet_follows cursors h.like.bus.states h.like.bus.servers reach order
  unfold gather
  generalize r.meet w.bus order = m at hmeet
  generalize r'.meet v.bus order = m' at hmeet
  cases hmeet with
  | @complete e x =>
    dsimp only
    rw [cursors.selfId]
    exact completeHandshake_follows h ticket own r.selfId e x
  | pending cursors => exact ⟨h.like, h.line, .pending (.gathering own cursors)⟩

theorem afterOpening_follows (h : Aligned ρ g w v)
    (steady : ∀ s c, (T.send s c).1.refusal = rule c) (ticket : Nat) (order : TurnOrder)
    {q : JoinRequest} (own : q.guild = g) {c c' d d' : Cursor}
    (states : EventBus.Follows g w.bus v.bus .state c c')
    (servers : EventBus.Follows g w.bus v.bus .server d d') (refusal : Option TransportError)
    (reach : w.identity.selfId ≠ none → refusal = none →
      w.bus.states.windowStart ≤ c.passed ∧ w.bus.servers.windowStart ≤ d.passed) :
    Alongside ρ g (w.afterOpening T ticket order q c d refusal)
      (v.afterOpening (T.about g rule) ticket order q c' d' refusal) := by
  cases refusal with
  | some e => exact ⟨h.like.unsubscribeBoth, h.line, .ended (.joinFailed (.transport e))⟩
  | none =>
    unfold afterOpening beginGathering
    rw [h.like.identity, h.like.now]
    cases hid : w.identity.selfId with
    | none => exact failHandshake_follows h steady ticket own .missingSelfId
    | some selfId =>
      obtain ⟨hstates, hservers⟩ := reach (by simp [hid]) rfl
      have hcursors : Rendezvous.Follows g w.bus v.bus ⟨q.guild, selfId, c, d, none, none⟩
          ⟨q.guild, selfId, c', d', none, none⟩ :=
        ⟨own, own, rfl, rfl, rfl, fun _ => states, fun _ => servers⟩
      exact gather_follows h ticket order own hcursors ⟨fun _ => hstates, fun _ => hservers⟩ _

/-- A join that opens a handshake subscribes to both streams, at their ends, before its
command is out. -/
theorem sendOpening_follows (h : Aligned ρ g w v)
    (steady : ∀ s c, (T.send s c).1.refusal = rule c) (ticket : Nat) {q : JoinRequest}
    (own : q.guild = g) :
    (v.sendOpening (T.about g rule) ticket q).1 = (w.sendOpening T ticket q).1 ∧
      Aligned ρ g (w.sendOpening T ticket q).2 (v.sendOpening (T.about g rule) ticket q).2 ∧
      EventBus.Follows g (w.sendOpening T ticket q).2.bus
        (v.sendOpening (T.about g rule) ticket q).2.bus .state
        ⟨w.bus.states.history.length⟩ ⟨v.bus.states.history.length⟩ ∧
      EventBus.Follows g (w.sendOpening T ticket q).2.bus
        (v.sendOpening (T.about g rule) ticket q).2.bus .server
        ⟨w.bus.servers.history.length⟩ ⟨v.bus.servers.history.length⟩ := by
  have hlookedUp : Aligned ρ g (w.lookUp T ticket q) (v.lookUp (T.about g rule) ticket q) :=
    h.lookUp ticket own
  have hsubscribed := hlookedUp.subscribeStates.subscribeServers
  obtain ⟨hreply, hsent⟩ := hsubscribed.dispatch (u := q.update) steady ticket own
  refine ⟨hreply, hsent, ?_, ?_⟩
  · exact hsubscribed.dispatched ticket q.update (Stream.follows_end rfl rfl)
      (Nat.succ_ne_zero _) (Nat.succ_ne_zero _)
  · exact hsubscribed.dispatched ticket q.update (Stream.follows_end rfl rfl)
      (Nat.succ_ne_zero _) (Nat.succ_ne_zero _)

theorem openHandshake_follows (h : Aligned ρ g w v)
    (steady : ∀ s c, (T.send s c).1.refusal = rule c) (ticket : Nat) (order : TurnOrder)
    {q : JoinRequest} (own : q.guild = g)
    (reach : w.identity.selfId ≠ none → (w.sendOpening T ticket q).1 = .settled none →
      (w.sendOpening T ticket q).2.bus.states.windowStart ≤ w.bus.states.history.length ∧
        (w.sendOpening T ticket q).2.bus.servers.windowStart ≤ w.bus.servers.history.length) :
    Alongside ρ g ((w.lookUp T ticket q).openHandshake T ticket order q)
      ((v.lookUp (T.about g rule) ticket q).openHandshake (T.about g rule) ticket order q) := by
  obtain ⟨hreply, hsent, hstates, hservers⟩ :=
    sendOpening_follows (T := T) h steady ticket own
  have hidentity : (w.sendOpening T ticket q).2.identity = w.identity := rfl
  rw [openHandshake_lookUp_eq, openHandshake_lookUp_eq]
  rcases hd : w.sendOpening T ticket q with ⟨reply, w'⟩
  rcases hd' : v.sendOpening (T.about g rule) ticket q with ⟨reply', v'⟩
  rw [hd] at reach hidentity
  rw [hd, hd'] at hreply hsent hstates hservers
  subst hreply
  cases reply' with
  | settled refusal =>
    refine afterOpening_follows hsent steady ticket order own hstates hservers refusal
      fun hid hrefusal => ?_
    exact reach (hidentity ▸ hid) (by rw [hrefusal])
  | held refusal =>
    refine ⟨hsent.like, hsent.line, ?_⟩
    dsimp only
    rw [hsent.like.flight]
    exact .pending (.opening own hstates hservers)

/-! ## Renewals -/

theorem awaitEcho_follows (h : Aligned ρ g w v) {q : JoinRequest} (own : q.guild = g)
    (selfId : Snowflake) (s : SessionRef) {c c' : Cursor}
    (states : EventBus.Follows g w.bus v.bus .state c c')
    (reach : w.bus.states.windowStart ≤ c.passed) :
    Alongside ρ g (w.awaitEcho q selfId s c) (v.awaitEcho q selfId (ρ s) c') := by
  have hkind : ∀ (e : StateEvent) b, Option.guard (·.isOwn q.guild selfId) e = some b →
      (e.guild == g) = true := by
    intro e b he
    have hown := (Option.guard_eq_some_iff.mp he).2
    unfold StateEvent.isOwn at hown
    rw [← own]
    exact (Bool.and_eq_true _ _ ▸ hown).2
  have hwait := Stream.wait_follows h.like.bus.states states reach hkind
  unfold awaitEcho
  generalize w.bus.states.wait (Option.guard (·.isOwn q.guild selfId)) c = x at hwait
  generalize v.bus.states.wait (Option.guard (·.isOwn q.guild selfId)) c' = y at hwait
  cases hwait with
  | found => exact ⟨h.like.unsubscribe .state, h.line, .ended (.joined s)⟩
  | pending cursors => exact ⟨h.like, h.line, .pending (.awaitingEcho own cursors)⟩

theorem afterRenewal_follows (h : Aligned ρ g w v) {q : JoinRequest} (own : q.guild = g)
    (selfId : Snowflake) (s : SessionRef) {c c' : Cursor}
    (states : EventBus.Follows g w.bus v.bus .state c c') (refusal : Option TransportError)
    (reach : refusal = none → w.bus.states.windowStart ≤ c.passed) :
    Alongside ρ g (w.afterRenewal q selfId s c refusal)
      (v.afterRenewal q selfId (ρ s) c' refusal) := by
  cases refusal with
  | none => exact awaitEcho_follows h own selfId s states (reach rfl)
  | some e => exact ⟨h.like.unsubscribe .state, h.line, .ended (.joinFailed (.transport e))⟩

/-- A join that has found a session subscribes to the states, at their end, before its
command is out. -/
theorem sendRenewal_follows (h : Aligned ρ g w v)
    (steady : ∀ s c, (T.send s c).1.refusal = rule c) (ticket : Nat) {q : JoinRequest}
    (own : q.guild = g) :
    (v.sendRenewal (T.about g rule) ticket q).1 = (w.sendRenewal T ticket q).1 ∧
      Aligned ρ g (w.sendRenewal T ticket q).2 (v.sendRenewal (T.about g rule) ticket q).2 ∧
      EventBus.Follows g (w.sendRenewal T ticket q).2.bus
        (v.sendRenewal (T.about g rule) ticket q).2.bus .state
        ⟨w.bus.states.history.length⟩ ⟨v.bus.states.history.length⟩ := by
  have hlookedUp : Aligned ρ g (w.lookUp T ticket q) (v.lookUp (T.about g rule) ticket q) :=
    h.lookUp ticket own
  have hsubscribed := hlookedUp.subscribeStates
  obtain ⟨hreply, hsent⟩ := hsubscribed.dispatch (u := q.update) steady ticket own
  exact ⟨hreply, hsent, hsubscribed.dispatched ticket q.update (Stream.follows_end rfl rfl)
    (Nat.succ_ne_zero _) (Nat.succ_ne_zero _)⟩

theorem renew_follows (h : Aligned ρ g w v) (steady : ∀ s c, (T.send s c).1.refusal = rule c)
    (ticket : Nat) {q : JoinRequest} (own : q.guild = g) (s : SessionRef)
    (reach : w.identity.selfId ≠ none → (w.sendRenewal T ticket q).1 = .settled none →
      (w.sendRenewal T ticket q).2.bus.states.windowStart ≤ w.bus.states.history.length) :
    Alongside ρ g ((w.lookUp T ticket q).renew T ticket q s)
      ((v.lookUp (T.about g rule) ticket q).renew (T.about g rule) ticket q (ρ s)) := by
  have hlookedUp : Aligned ρ g (w.lookUp T ticket q) (v.lookUp (T.about g rule) ticket q) :=
    h.lookUp ticket own
  obtain ⟨hreply, hsent, hstates⟩ := sendRenewal_follows (T := T) h steady ticket own
  rw [renew_lookUp_eq, renew_lookUp_eq, h.like.identity]
  cases hid : w.identity.selfId with
  | none => exact ⟨hlookedUp.like, hlookedUp.line, .ended (.joinFailed .missingSelfId)⟩
  | some selfId =>
    rcases hd : w.sendRenewal T ticket q with ⟨reply, w'⟩
    rcases hd' : v.sendRenewal (T.about g rule) ticket q with ⟨reply', v'⟩
    rw [hd] at reach
    rw [hd, hd'] at hreply hsent hstates
    subst hreply
    cases reply' with
    | settled refusal =>
      refine afterRenewal_follows hsent own selfId s hstates refusal fun hrefusal => ?_
      exact reach (by simp [hid]) (by rw [hrefusal])
    | held refusal =>
      refine ⟨hsent.like, hsent.line, ?_⟩
      dsimp only
      rw [hsent.like.flight]
      exact .pending (.renewing own hstates)

/-! ## Watches -/

theorem awaitServer_follows (h : Aligned ρ g w v) {c c' : Cursor}
    (servers : EventBus.Follows g w.bus v.bus .server c c')
    (reach : w.bus.servers.windowStart ≤ c.passed) :
    Alongside ρ g (w.awaitServer g c) (v.awaitServer g c') := by
  have hkind : ∀ (e : ServerEvent) b, optionsFor g e = some b → (e.guild == g) = true := by
    intro e b he
    unfold optionsFor at he
    split at he
    · next hg => exact beq_iff_eq.mpr hg
    · exact absurd he (by simp)
  have hwait := Stream.wait_follows h.like.bus.servers servers reach hkind
  unfold awaitServer
  generalize w.bus.servers.wait (optionsFor g) c = x at hwait
  generalize v.bus.servers.wait (optionsFor g) c' = y at hwait
  cases hwait with
  | @found options d d' =>
    exact ⟨h.like.unsubscribe .server, h.line, .ended (.reassigned options)⟩
  | pending cursors => exact ⟨h.like, h.line, .pending (.watch cursors)⟩

/-! ## All calls -/

theorem beginJoin_follows (h : Aligned ρ g w v)
    (steady : ∀ s c, (T.send s c).1.refusal = rule c) {c : Call} (order : TurnOrder)
    {q : JoinRequest} (own : q.guild = g) (task : c.task = .join q .fresh)
    (keepsUp : w.KeepsUp T c) :
    Alongside ρ g (w.beginJoin T c.ticket order q)
      (v.beginJoin (T.about g rule) c.ticket order q) := by
  unfold KeepsUp at keepsUp
  rw [task] at keepsUp
  dsimp only at keepsUp
  have hentry : v.registry.get? q.guild = (w.registry.get? q.guild).map ρ :=
    own ▸ h.like.registry.entry
  rw [beginJoin_eq, beginJoin_eq, hentry]
  cases hg : w.registry.get? q.guild with
  | none =>
    rw [hg] at keepsUp
    exact openHandshake_follows h steady c.ticket order own keepsUp
  | some s =>
    rw [hg] at keepsUp
    exact renew_follows h steady c.ticket own s keepsUp

/-- A call for the guild that keeps up goes the same way on both coordinators. -/
theorem runTask_follows (h : Aligned ρ g w v)
    (steady : ∀ s c, (T.send s c).1.refusal = rule c) {c : Call} {task' : Task}
    (order : TurnOrder) (tasks : Task.Follows ρ g w.bus v.bus c.task task')
    (keepsUp : w.KeepsUp T c) :
    Alongside ρ g (w.runTask T c.ticket order c.task)
      (v.runTask (T.about g rule) c.ticket order task') := by
  have hkeepsUp := keepsUp
  unfold KeepsUp at hkeepsUp
  generalize htask : c.task = task at tasks hkeepsUp
  cases tasks with
  | fresh own => exact beginJoin_follows h steady order own htask keepsUp
  | @renewing q own selfId s d d' f states =>
    unfold runTask runJoin
    dsimp only
    rw [h.like.released]
    cases hf : w.released f with
    | true => exact afterRenewal_follows h own selfId s states f.refusal (hkeepsUp hf)
    | false => exact ⟨h.like, h.line, .pending (.renewing own states)⟩
  | @awaitingEcho q own selfId s d d' states =>
    exact awaitEcho_follows h own selfId s states hkeepsUp
  | @opening q own d d' e e' f states servers =>
    unfold runTask runJoin
    dsimp only
    rw [h.like.released]
    cases hf : w.released f with
    | true =>
      exact afterOpening_follows h steady c.ticket order own states servers f.refusal
        fun hid hrefusal => hkeepsUp hid hf hrefusal
    | false => exact ⟨h.like, h.line, .pending (.opening own states servers)⟩
  | @gathering q own r r' deadline cursors =>
    exact gather_follows h c.ticket order own cursors hkeepsUp deadline
  | @leaving q own cause f =>
    subst own
    unfold runTask runJoin
    dsimp only
    rw [h.like.released]
    split
    · exact finishFailure_follows h c.ticket cause f.refusal
    · exact ⟨h.like, h.line, .pending (.leaving rfl)⟩
  | @disconnect f => exact runDisconnect_follows h steady c.ticket f
  | unsubscribed =>
    exact awaitServer_follows h.subscribeServers (Stream.follows_end rfl rfl) (Nat.sub_le _ _)
  | watch servers => exact awaitServer_follows h servers hkeepsUp

end VoiceGateway.Coordinator
