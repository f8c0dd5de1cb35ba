import VoiceGateway.Proofs.Handshake.Course
import VoiceGateway.Proofs.Handshake.Gathering

/-!
# What a gathering join pursues

A join that gathers its confirmations has taken what it is after and nothing else, and
one that has failed was given a reason for it (`Pursues`); so when it is over it was
joined by the first match on each stream, or has failed for a stream that had ended
without one, or for its deadline (`Concluded`).

> `pursues_untouched`: both are left alone by all that does not name the join.
> `pursues_carried`: both are kept by every move as long as the join does not fall
> behind its streams.
-/

namespace VoiceGateway

/-- Whether a session is what a join makes of two confirmations. -/
structure Session.MadeOf (x : Session) (q : JoinRequest) (selfId : Snowflake)
    (e : StateEvent) (v : ServerEvent) : Prop where
  guild : x.guild = q.guild
  selfId : x.selfId = selfId
  sessionId : x.sessionId = e.sessionId
  channel : x.channel = e.channel.getD q.channel
  endpoint : v.endpoint = some x.server.endpoint
  token : x.server.token = v.token

/-- Whether a call can still read on the streams that it asks what it has not passed. -/
def Task.InReach (b : EventBus) : Task → Prop
  | .join _ (.opening states servers _) =>
    b.states.windowStart ≤ states.passed ∧ b.servers.windowStart ≤ servers.passed
  | .join _ (.gathering r _) => r.InReach b
  | _ => True

namespace Coordinator

variable {σ : Type} (T : Transport σ) (ticket : Nat) (q : JoinRequest) (k : Sought)
  (deadline : Nat)

/-- A pending call has not fallen behind its streams. -/
def Abreast (w : Coordinator σ) : Prop :=
  ∀ c, w.call? ticket = some c → c.task.InReach w.bus

/-- Why a join fails that gathers. -/
inductive Reason (w : Coordinator σ) : JoinError → Prop
  | missed {n : StreamName} (missed : k.Missed w.bus n) : Reason w (.streamClosed n)
  | late (late : deadline ≤ w.now) : Reason w (.timeout q.timeout)

/-- A join that gathers what it is after, or has failed for a reason. -/
inductive Pursues (w : Coordinator σ) : Task → Prop
  | gathering {r : Rendezvous} (faithful : k.Faithful w.bus r) :
      Pursues w (.join q (.gathering r deadline))
  | leaving {cause : JoinError} {f : InFlight} (reason : Reason q k deadline w cause) :
      Pursues w (.join q (.leaving cause f))

/-- A join was completed by two confirmations, which are the first matches, and its own
session is made of them. -/
structure Confirmed (w : Coordinator σ) (e : StateEvent) (v : ServerEvent)
    (s : SessionRef) : Prop where
  state : k.state? w.bus = some e
  server : k.server? w.bus = some v
  noted : ∃ endpoint, v.endpoint = some endpoint ∧
    .handshakeCompleted q.guild (shardOf q.guild T.shardCount) endpoint 0 ∈ w.notesOf ticket
  registered : .raceLost q.guild ∉ w.notesOf ticket →
    ∃ x, w.registry.record? s = some x ∧ x.session.MadeOf q k.selfId e v

/-- How a join has ended that gathered. -/
inductive Concluded (w : Coordinator σ) : Outcome → Prop
  | joined {e : StateEvent} {v : ServerEvent} {s : SessionRef}
      (confirmed : Confirmed T ticket q k w e v s) : Concluded w (.joined s)
  | failed {cause : JoinError} (reason : Reason q k deadline w cause) :
      Concluded w (.joinFailed cause)
  | givenUp {o : Outcome} (outside : o = .aborted ∨ o = .outOfPatience) : Concluded w o

variable {T ticket q k deadline} {By : Option Nat → Prop}

/-! ## What stays -/

theorem Reason.of_grows {w w' : Coordinator σ} {cause : JoinError}
    (h : Reason q k deadline w cause) (grows : Grows By w w') : Reason q k deadline w' cause := by
  cases h with
  | missed missed => exact .missed (missed.of_grows grows.bus)
  | late late => exact .late (Nat.le_trans late grows.now)

theorem Pursues.of_grows {w w' : Coordinator σ} {task : Task} (h : Pursues q k deadline w task)
    (grows : Grows By w w') : Pursues q k deadline w' task := by
  cases h with
  | gathering faithful => exact .gathering (faithful.of_grows grows.bus)
  | leaving reason => exact .leaving (reason.of_grows grows)

theorem Confirmed.aside {w w' : Coordinator σ} {e : StateEvent} {v : ServerEvent}
    {s : SessionRef} (h : Confirmed T ticket q k w e v s) (aside : Aside ticket w w') :
    Confirmed T ticket q k w' e v s := by
  refine ⟨Sought.state?_of_grows aside.grows.bus h.state,
    Sought.server?_of_grows aside.grows.bus h.server, ?_, fun hlost => ?_⟩
  · rw [aside.notes]
    exact h.noted
  · rw [aside.notes] at hlost
    obtain ⟨x, hx, hmade⟩ := h.registered hlost
    obtain ⟨x', hx', hsame, -⟩ := aside.grows.registry.record s x hx
    exact ⟨x', hx', hsame ▸ hmade⟩

theorem Concluded.aside {w w' : Coordinator σ} {o : Outcome}
    (h : Concluded T ticket q k deadline w o) (aside : Aside ticket w w') :
    Concluded T ticket q k deadline w' o := by
  cases h with
  | joined confirmed => exact .joined (confirmed.aside aside)
  | failed reason => exact .failed (reason.of_grows aside.grows)
  | givenUp outside => exact .givenUp outside

theorem pursues_untouched :
    Untouched ticket (Pursues (σ := σ) q k deadline) (Concluded T ticket q k deadline) where
  pending h hP := hP.of_grows h.grows
  finished h hQ := hQ.aside h

/-! ## What moves carry on -/

/-- The server that was found has an endpoint. -/
theorem endpoint_of_server? {b : EventBus} {v : ServerEvent} (h : k.server? b = some v) :
    v.endpoint = some (v.endpoint.getD "") := by
  have hv : v.assigns k.guild = true :=
    List.find?_some (p := fun v : ServerEvent => v.assigns k.guild) h
  unfold ServerEvent.assigns at hv
  rw [Bool.and_eq_true] at hv
  obtain ⟨endpoint, he⟩ := Option.isSome_iff_exists.mp hv.2
  rw [he]
  rfl

theorem Move.pursues {w w' : Coordinator σ} {task task' : Task}
    (h : Move T ticket w task (.pending task') w')
    (hw : Pursues q k deadline w task ∧ task.InReach w.bus) :
    Pursues q k deadline w' task' ∧ task'.InReach w'.bus := by
  obtain ⟨hP, hr⟩ := hw
  have hg : Grows (fun _ => True) w w' := h.grows trivial
  cases hP with
  | gathering faithful =>
    cases h with
    | gather waits =>
      have hm := faithful.meets hr waits
      exact ⟨.gathering hm.1.1, hm.1.2⟩
    | fail fails =>
      cases fails with
      | streamClosed closed =>
        have hm := faithful.meets hr closed
        exact ⟨.leaving (.missed (hm.of_grows hg.bus)), trivial⟩
      | expired late => exact ⟨.leaving (.late (Nat.le_trans late hg.now)), trivial⟩
  | leaving reason =>
    cases h with
    | fail fails => cases fails

theorem notesOf_confirm (w : Coordinator σ) (x : Session) :
    (w.confirm ticket x).notesOf ticket =
      w.notesOf ticket ++ [.handshakeCompleted x.guild x.shard x.server.endpoint 0] :=
  notesOf_note w.unsubscribeBoth ticket _

/-- What two confirmations make of the first matches. -/
theorem madeOf_sessionOf {b : EventBus} {e : StateEvent} {v : ServerEvent}
    (h : k.server? b = some v) (selfId : Snowflake) :
    (sessionOf T q selfId e v).MadeOf q selfId e v :=
  ⟨rfl, rfl, rfl, rfl, endpoint_of_server? h, rfl⟩

theorem Move.concluded {w w' : Coordinator σ} {task : Task} {o : Outcome}
    (h : Move T ticket w task (.ended o) w')
    (hw : Pursues q k deadline w task ∧ task.InReach w.bus) :
    Concluded T ticket q k deadline w' o := by
  obtain ⟨hP, hr⟩ := hw
  have hg : Grows (fun _ => True) w w' := h.grows trivial
  cases hP with
  | @gathering r faithful =>
    cases h with
    | @won _ _ _ _ e v met free =>
      have hm := faithful.meets hr met
      refine .joined (e := e) (v := v) ⟨Sought.state?_of_grows hg.bus hm.1,
        Sought.server?_of_grows hg.bus hm.2, ⟨_, endpoint_of_server? hm.2, ?_⟩, fun _ => ?_⟩
      · show _ ∈ (w.confirm ticket (sessionOf T q r.selfId e v)).notesOf ticket
        rw [notesOf_confirm]
        exact List.mem_append_right _ (List.mem_singleton_self _)
      · refine ⟨⟨sessionOf T q r.selfId e v, .connected⟩, ?_,
          faithful.selfId ▸ madeOf_sessionOf hm.2 _⟩
        show (w.registry.tryRegister (sessionOf T q r.selfId e v)).2.record? _ = _
        rw [Registry.tryRegister_of_none free]
        exact List.getElem?_concat_length
    | @lost _ _ _ _ e v s met taken =>
      have hm := faithful.meets hr met
      have hnotes := notesOf_note (w.confirm ticket (sessionOf T q r.selfId e v)) ticket
        (.raceLost q.guild)
      refine .joined (e := e) (v := v) ⟨Sought.state?_of_grows hg.bus hm.1,
        Sought.server?_of_grows hg.bus hm.2, ⟨_, endpoint_of_server? hm.2, ?_⟩,
        fun hlost => absurd ?_ hlost⟩
      · rw [hnotes, notesOf_confirm]
        exact List.mem_append_left _ (List.mem_append_right _ (List.mem_singleton_self _))
      · rw [hnotes]
        exact List.mem_append_right _ (List.mem_singleton_self _)
  | leaving reason =>
    cases h with
    | cleanedUp => exact .failed (reason.of_grows hg)

theorem pursues_carried :
    Carried T ticket (fun w task => Pursues q k deadline w task ∧ task.InReach w.bus)
      (Concluded T ticket q k deadline) where
  keeps := Move.pursues
  leaves := Move.concluded
  quits outside _ := .givenUp outside
  settled hw := ⟨hw.1.of_grows (settle_aside _ _ _ : Aside ticket _ _).grows, hw.2⟩
  answered hQ := hQ.aside (settle_aside _ _ _)

end Coordinator

end VoiceGateway
