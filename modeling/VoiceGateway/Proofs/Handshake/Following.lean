import VoiceGateway.Proofs.Handshake.Gathering

/-!
# Two streams with the same share

Two streams may carry the same events of some kind, one of them among others. A cursor
on the one and a cursor on the other follow each other if the events of this kind that
are still to come are the same (`Stream.Follows`). Whoever looks for nothing else finds
the same on both, unless it falls behind on the stream with more events on it: on the
other one it does not.

> `Stream.Follows.find?`: the first match is the same on both streams.
> `Stream.wait_follows`, `Rendezvous.meet_follows`: so a wait goes the same way, and so
> does a rendezvous, whatever the order in which it asks.
-/

namespace VoiceGateway

namespace Stream

variable {α β : Type}

/-- The events of a kind that are before one cursor are all that are before another. -/
structure Follows (p : α → Bool) (s s' : Stream α) (c c' : Cursor) : Prop where
  here : c.passed ≤ s.history.length
  there : c'.passed ≤ s'.history.length
  share : (s.history.drop c.passed).filter p = s'.history.drop c'.passed

variable {p : α → Bool} {s s' t t' : Stream α} {c c' : Cursor}

/-- Two cursors that have passed everything follow each other. -/
theorem follows_end (hc : c.passed = s.history.length) (hc' : c'.passed = s'.history.length) :
    s.Follows p s' c c' := by
  refine ⟨Nat.le_of_eq hc, Nat.le_of_eq hc', ?_⟩
  rw [hc, hc', List.drop_length, List.drop_length]
  rfl

/-- Events come to both streams, to the second one those of the kind. -/
theorem Follows.extend (h : s.Follows p s' c c') {l : List α} (ht : t.history = s.history ++ l)
    (ht' : t'.history = s'.history ++ l.filter p) : t.Follows p t' c c' := by
  refine ⟨?_, ?_, ?_⟩
  · rw [ht, List.length_append]
    exact Nat.le_add_right_of_le h.here
  · rw [ht', List.length_append]
    exact Nat.le_add_right_of_le h.there
  · rw [ht, ht', List.drop_append_of_le_length h.here, List.drop_append_of_le_length h.there,
      List.filter_append, h.share]

/-- Whoever has not fallen behind on the stream with more events has not on the other. -/
theorem Follows.reach (h : s.Follows p s' c c') (window : s'.window = s.window)
    (reach : s.windowStart ≤ c.passed) : s'.windowStart ≤ c'.passed := by
  have hfewer : (s'.history.drop c'.passed).length ≤ (s.history.drop c.passed).length :=
    h.share ▸ List.length_filter_le p _
  rw [List.length_drop, List.length_drop] at hfewer
  have hhere := h.here
  have hthere := h.there
  unfold windowStart at reach ⊢
  rw [window]
  omega

theorem Follows.unread (h : s.Follows p s' c c') (window : s'.window = s.window)
    (reach : s.windowStart ≤ c.passed) : s'.unread c' = (s.unread c).filter p := by
  unfold Stream.unread
  rw [Nat.max_eq_left reach, Nat.max_eq_left (h.reach window reach), h.share]

/-- What is looked for is of the kind: the first match is the same. -/
theorem Follows.find? (h : s.Follows p s' c c') (window : s'.window = s.window)
    (reach : s.windowStart ≤ c.passed) {q : α → Bool} (kind : ∀ e, q e = true → p e = true) :
    (s'.unread c').find? q = (s.unread c).find? q := by
  have hq : (fun e => decide (p e = true ∧ q e = true)) = q := by
    funext e
    by_cases hqe : q e = true
    · simp [hqe, kind e hqe]
    · simp [hqe]
  rw [h.unread window reach, List.find?_filter, hq]

theorem findSome?_filter_of_kind {accept : α → Option β}
    (kind : ∀ e b, accept e = some b → p e = true) (l : List α) :
    (l.filter p).findSome? accept = l.findSome? accept := by
  induction l with
  | nil => rfl
  | cons e l ih =>
    by_cases he : p e = true
    · rw [List.filter_cons_of_pos he, List.findSome?_cons, List.findSome?_cons, ih]
    · have hnone : accept e = none := by
        cases ha : accept e with
        | none => rfl
        | some b => exact absurd (kind e b ha) he
      rw [List.filter_cons_of_neg he, List.findSome?_cons, hnone, ih]

/-! ## Waiting -/

/-- A cursor with nothing to be delivered at it stands at the end. -/
theorem receive_nothing {d : Cursor} (h : s.receive c = (.nothing, d)) :
    d = c ∧ s.history.length ≤ c.passed := by
  unfold receive at h
  split at h
  · exact absurd (congrArg Prod.fst h) (by simp)
  · split at h
    · exact absurd (congrArg Prod.fst h) (by simp)
    · next hnone =>
      injection h with h₁ h₂
      exact ⟨h₂.symm, List.getElem?_eq_none_iff.mp hnone⟩

/-- How a wait has gone: it has found the first event that is accepted; or there is none
and it stands at the end; or the stream has ended. -/
def Waited (s : Stream α) (accept : α → Option β) (c : Cursor) : Wait β → Prop
  | .found b _ => (s.unread c).findSome? accept = some b
  | .pending c' => (s.unread c).findSome? accept = none ∧
      (c.passed ≤ s.history.length → c'.passed = s.history.length)
  | .closed => s.closed = true

/-- A wait comes to what holds of it wherever it stops, if that is kept by each event and each
gap that is passed over. -/
theorem waitAtMost_rule {s : Stream α} {accept : α → Option β} {P : Cursor → Wait β → Prop}
    (found : ∀ c c' e b, s.receive c = (.event e, c') → accept e = some b → P c (.found b c'))
    (nothing : ∀ c c', s.receive c = (.nothing, c') → P c (.pending c'))
    (closed : ∀ c c', s.receive c = (.closed, c') → P c .closed)
    (passed : ∀ c c' x, c'.passed ≤ s.history.length →
      (s.unread c).findSome? accept = (s.unread c').findSome? accept → P c' x → P c x) :
    ∀ (fuel : Nat) (c : Cursor), s.history.length - c.passed < fuel →
      P c (s.waitAtMost accept fuel c)
  | 0, _, hfuel => absurd hfuel (Nat.not_lt_zero _)
  | fuel + 1, c, hfuel => by
    have hadv := s.receive_advances c
    rcases hr : s.receive c with ⟨d, c'⟩
    rw [hr] at hadv
    have later : (c.passed < c'.passed ∧ c'.passed ≤ s.history.length) →
        (s.unread c).findSome? accept = (s.unread c').findSome? accept →
        P c (s.waitAtMost accept fuel c') := fun ⟨_, hle⟩ hsame =>
      passed c c' _ hle hsame (waitAtMost_rule found nothing closed passed fuel c' (by omega))
    unfold waitAtMost
    rw [hr]
    cases d with
    | event e =>
      dsimp only
      cases ha : accept e with
      | some b => exact found c c' e b hr ha
      | none =>
        refine later (hadv (Or.inl ⟨e, rfl⟩)) ?_
        rw [unread_of_event hr, List.findSome?_cons, ha]
    | lagged n =>
      refine later (hadv (Or.inr ⟨n, rfl⟩)) ?_
      rw [unread_of_lagged hr]
    | nothing => exact nothing c c' hr
    | closed => exact closed c c' hr

theorem wait_spec (s : Stream α) (accept : α → Option β) (c : Cursor) :
    s.Waited accept c (s.wait accept c) := by
  refine waitAtMost_rule (P := s.Waited accept) (fun c c' e b hr ha => ?_) (fun c c' hr => ?_)
    (fun c c' hr => (unread_of_end hr (Or.inr rfl)).2.mp rfl) (fun c c' x hle hsame hx => ?_) _ c
    (Nat.lt_succ_self _)
  · show (s.unread c).findSome? accept = some b
    rw [unread_of_event hr, List.findSome?_cons, ha]
  · obtain ⟨rfl, hend⟩ := receive_nothing hr
    refine ⟨?_, fun hle => Nat.le_antisymm hle hend⟩
    rw [(unread_of_end hr (Or.inl rfl)).1]
    rfl
  · cases x with
    | found b z => exact hsame.trans hx
    | pending z => exact ⟨hsame.trans hx.1, fun _ => hx.2 hle⟩
    | closed => exact hx

/-- Two open streams with the same window. -/
structure Twin (s s' : Stream α) : Prop where
  window : s'.window = s.window
  opened : s.closed = false
  opened' : s'.closed = false

/-- Waits on both streams go the same way. -/
inductive Wait.Follows (p : α → Bool) (s s' : Stream α) : Wait β → Wait β → Prop
  | found {b : β} {c c' : Cursor} : Wait.Follows p s s' (.found b c) (.found b c')
  | pending {c c' : Cursor} (cursors : s.Follows p s' c c') :
      Wait.Follows p s s' (.pending c) (.pending c')

theorem wait_follows (twin : s.Twin s') (h : s.Follows p s' c c')
    (reach : s.windowStart ≤ c.passed) {accept : α → Option β}
    (kind : ∀ e b, accept e = some b → p e = true) :
    Wait.Follows p s s' (s.wait accept c) (s'.wait accept c') := by
  have hs := wait_spec s accept c
  have hs' := wait_spec s' accept c'
  have hsame : (s'.unread c').findSome? accept = (s.unread c).findSome? accept := by
    rw [h.unread twin.window reach, findSome?_filter_of_kind kind]
  cases hw : s.wait accept c with
  | found b z =>
    rw [hw] at hs
    cases hw' : s'.wait accept c' with
    | found b' z' =>
      rw [hw'] at hs'
      have hb : some b' = some b := hs'.symm.trans (hsame.trans hs)
      injection hb with hb
      subst hb
      exact .found
    | pending z' =>
      rw [hw'] at hs'
      exact absurd (hs'.1.symm.trans (hsame.trans hs)) (by simp)
    | closed =>
      rw [hw'] at hs'
      exact absurd (hs'.symm.trans twin.opened') (by simp)
  | pending z =>
    rw [hw] at hs
    cases hw' : s'.wait accept c' with
    | found b' z' =>
      rw [hw'] at hs'
      exact absurd (hs'.symm.trans (hsame.trans hs.1)) (by simp)
    | pending z' =>
      rw [hw'] at hs'
      exact .pending (follows_end (hs.2 h.here) (hs'.2 h.there))
    | closed =>
      rw [hw'] at hs'
      exact absurd (hs'.symm.trans twin.opened') (by simp)
  | closed =>
    rw [hw] at hs
    exact absurd (hs.symm.trans twin.opened) (by simp)

end Stream

/-! ## Meeting -/

namespace Rendezvous

theorem turn_nothing {b : EventBus} {first : StreamName} {r : Rendezvous}
    (h : r.turn b first = .nothing) : r.askStates b = .nothing ∧ r.askServers b = .nothing := by
  unfold turn at h
  cases first with
  | state =>
    dsimp only at h
    split at h
    · next hs => exact ⟨hs, h⟩
    · next hne => exact absurd h hne
  | server =>
    dsimp only at h
    split at h
    · next hv => exact ⟨h, hv⟩
    · next hne => exact absurd h hne

/-- A rendezvous that waits has asked both streams in vain. -/
theorem meetWithin_pending {b : EventBus} {order : TurnOrder} {r' : Rendezvous} :
    ∀ {fuel : Nat} {r : Rendezvous}, r.ahead b < fuel → r.meetWithin b order fuel = .pending r' →
      r'.askStates b = .nothing ∧ r'.askServers b = .nothing
  | 0, _, hfuel, _ => absurd hfuel (Nat.not_lt_zero _)
  | fuel + 1, r, hfuel, h => by
    unfold meetWithin at h
    split at h
    · exact absurd h (by simp)
    · have hturn := turn_spec b (order fuel) r
      split at h
      · next x hx =>
        rw [hx] at hturn
        have hless : x.ahead b < fuel := by
          have := hturn.2
          omega
        exact meetWithin_pending hless h
      · next hnothing =>
        injection h with h
        subst h
        exact turn_nothing hnothing
      · exact absurd h (by simp)

theorem states_end {b : EventBus} {r : Rendezvous} (h : r.askStates b = .nothing)
    (wanting : r.state = none) : b.states.history.length ≤ r.states.passed := by
  unfold askStates at h
  rw [wanting, if_neg (by simp)] at h
  rcases hr : b.states.receive r.states with ⟨d, c⟩
  rw [hr] at h
  cases d with
  | nothing => exact (Stream.receive_nothing hr).2
  | event e => exact absurd h (by simp)
  | lagged n => exact absurd h (by simp)
  | closed => exact absurd h (by simp)

theorem servers_end {b : EventBus} {r : Rendezvous} (h : r.askServers b = .nothing)
    (wanting : r.server = none) : b.servers.history.length ≤ r.servers.passed := by
  unfold askServers at h
  rw [wanting, if_neg (by simp)] at h
  rcases hr : b.servers.receive r.servers with ⟨d, c⟩
  rw [hr] at h
  cases d with
  | nothing => exact (Stream.receive_nothing hr).2
  | event v => exact absurd h (by simp)
  | lagged n => exact absurd h (by simp)
  | closed => exact absurd h (by simp)

/-- Two rendezvous for a guild on two buses: they have taken the same, and what they are
still to take comes to both of them. -/
structure Follows (g : Snowflake) (b d : EventBus) (r r' : Rendezvous) : Prop where
  guild : r.guild = g
  guild' : r'.guild = g
  selfId : r'.selfId = r.selfId
  state : r'.state = r.state
  server : r'.server = r.server
  states : r.state = none → b.states.Follows (·.guild == g) d.states r.states r'.states
  servers : r.server = none → b.servers.Follows (·.guild == g) d.servers r.servers r'.servers

variable {g : Snowflake} {b d : EventBus} {r r' : Rendezvous}

theorem Follows.soonState (h : Follows g b d r r') (twin : b.states.Twin d.states)
    (reach : r.InReach b) : r'.soonState d = r.soonState b := by
  unfold Rendezvous.soonState
  rw [h.state, h.guild, h.guild', h.selfId]
  cases hs : r.state with
  | some e => rfl
  | none =>
    have hkind : ∀ e : StateEvent, e.isOwn g r.selfId = true → (e.guild == g) = true := by
      intro e he
      unfold StateEvent.isOwn at he
      exact (Bool.and_eq_true _ _ ▸ he).2
    exact congrArg (Option.or none) ((h.states hs).find? twin.window (reach.states hs) hkind)

theorem Follows.soonServer (h : Follows g b d r r') (twin : b.servers.Twin d.servers)
    (reach : r.InReach b) : r'.soonServer d = r.soonServer b := by
  unfold Rendezvous.soonServer
  rw [h.server, h.guild, h.guild']
  cases hs : r.server with
  | some v => rfl
  | none =>
    have hkind : ∀ v : ServerEvent, v.assigns g = true → (v.guild == g) = true := by
      intro v hv
      unfold ServerEvent.assigns at hv
      exact (Bool.and_eq_true _ _ ▸ hv).1
    exact congrArg (Option.or none) ((h.servers hs).find? twin.window (reach.servers hs) hkind)

end Rendezvous

/-- Meetings on two buses go the same way. -/
inductive Meeting.Follows (g : Snowflake) (b d : EventBus) : Meeting → Meeting → Prop
  | complete {e : StateEvent} {v : ServerEvent} :
      Meeting.Follows g b d (.complete e v) (.complete e v)
  | pending {r r' : Rendezvous} (cursors : Rendezvous.Follows g b d r r') :
      Meeting.Follows g b d (.pending r) (.pending r')

namespace Rendezvous

variable {g : Snowflake} {b d : EventBus} {r r' : Rendezvous}

/-- A rendezvous that waits is still about the same, and its cursors stand at the end where
it is wanting. -/
theorem pending_spec {order : TurnOrder} {x : Rendezvous} (h : r.meet b order = .pending x) :
    x.guild = r.guild ∧ x.selfId = r.selfId ∧ x.state = r.soonState b ∧
      x.server = r.soonServer b ∧
      (r.states.passed ≤ b.states.history.length → x.state = none →
        x.states.passed = b.states.history.length) ∧
      (r.servers.passed ≤ b.servers.history.length → x.server = none →
        x.servers.passed = b.servers.history.length) := by
  have hmet := meet_spec b order r
  rw [h] at hmet
  obtain ⟨onward, hstate, hserver, -, -⟩ := hmet
  obtain ⟨hs, hv⟩ := meetWithin_pending (Nat.lt_succ_self _) h
  refine ⟨onward.guild, onward.selfId, hstate, hserver, fun hle wanting => ?_,
    fun hle wanting => ?_⟩
  · exact Nat.le_antisymm (onward.states_le_length hle) (states_end hs wanting)
  · exact Nat.le_antisymm (onward.servers_le_length hle) (servers_end hv wanting)

/-- On streams that have not ended a rendezvous has both events or waits for one. -/
theorem meet_open (states : b.states.closed = false) (servers : b.servers.closed = false)
    (r : Rendezvous) (order : TurnOrder) :
    (∃ e v, r.meet b order = .complete e v ∧ r.soonState b = some e ∧
      r.soonServer b = some v) ∨
    ∃ x, r.meet b order = .pending x ∧ (r.soonState b = none ∨ r.soonServer b = none) := by
  have hmet := meet_spec b order r
  cases hm : r.meet b order with
  | complete e v =>
    rw [hm] at hmet
    exact Or.inl ⟨e, v, rfl, hmet⟩
  | pending x =>
    rw [hm] at hmet
    exact Or.inr ⟨x, rfl, hmet.2.2.2.1⟩
  | closed stream =>
    rw [hm] at hmet
    cases stream with
    | state => exact absurd (hmet.2.symm.trans states) (by simp)
    | server => exact absurd (hmet.2.symm.trans servers) (by simp)

/-- What a rendezvous has got so far stays in. -/
theorem state_of_soonState (h : r.soonState b = none) : r.state = none := by
  unfold soonState at h
  exact (Option.or_eq_none_iff.mp h).1

theorem server_of_soonServer (h : r.soonServer b = none) : r.server = none := by
  unfold soonServer at h
  exact (Option.or_eq_none_iff.mp h).1

/-- Where both wait, they still follow each other: a cursor that is still wanted stands at
the end on both sides. -/
theorem Follows.pending (h : Follows g b d r r') (state : r'.soonState d = r.soonState b)
    (server : r'.soonServer d = r.soonServer b) {order : TurnOrder} {x x' : Rendezvous}
    (hm : r.meet b order = .pending x) (hm' : r'.meet d order = .pending x') :
    Follows g b d x x' := by
  obtain ⟨hg, hid, hs, hv, hsend, hvend⟩ := pending_spec hm
  obtain ⟨hg', hid', hs', hv', hsend', hvend'⟩ := pending_spec hm'
  have hstate : x'.state = x.state := hs'.trans (state.trans hs.symm)
  have hserver : x'.server = x.server := hv'.trans (server.trans hv.symm)
  refine ⟨hg.trans h.guild, hg'.trans h.guild', ?_, hstate, hserver, fun hn => ?_, fun hn => ?_⟩
  · rw [hid', hid, h.selfId]
  · have cursors := h.states (state_of_soonState (hs.symm.trans hn))
    exact Stream.follows_end (hsend cursors.here hn) (hsend' cursors.there (hstate.trans hn))
  · have cursors := h.servers (server_of_soonServer (hv.symm.trans hn))
    exact Stream.follows_end (hvend cursors.here hn) (hvend' cursors.there (hserver.trans hn))

theorem meet_follows (h : Follows g b d r r') (states : b.states.Twin d.states)
    (servers : b.servers.Twin d.servers) (reach : r.InReach b) (order : TurnOrder) :
    Meeting.Follows g b d (r.meet b order) (r'.meet d order) := by
  have hstate := h.soonState states reach
  have hserver := h.soonServer servers reach
  have hmet := meet_open states.opened servers.opened r order
  have hmet' := meet_open states.opened' servers.opened' r' order
  rcases hmet with ⟨e, v, hm, he, hv⟩ | ⟨x, hm, hn⟩ <;>
    rcases hmet' with ⟨e', v', hm', he', hv'⟩ | ⟨x', hm', hn'⟩
  · have hsame : e' = e := Option.some.inj (he'.symm.trans (hstate.trans he))
    have hsame' : v' = v := Option.some.inj (hv'.symm.trans (hserver.trans hv))
    rw [hm, hm', hsame, hsame']
    exact .complete
  -- One cannot have both events while the other one is wanting one.
  · rw [hstate, hserver, he, hv] at hn'
    exact absurd hn' (by simp)
  · rw [← hstate, ← hserver, he', hv'] at hn
    exact absurd hn (by simp)
  · rw [hm, hm']
    exact .pending (h.pending hstate hserver hm hm')

end Rendezvous

end VoiceGateway
