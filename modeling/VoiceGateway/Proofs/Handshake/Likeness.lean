import VoiceGateway.Proofs.Handshake.Passage
import VoiceGateway.Proofs.Registry.Share

/-!
# Two coordinators alike to a guild

One coordinator serves many guilds, another one a single guild. To this guild they are
alike if they have the same clock and the same user id, streams that are open and of one
size, and if what the one has in its registry, its ledger of commands and its trace about
the guild is all that the other one has (`Like`). Calls for the guild are alike if they
wait for the same thing and what is about the guild still comes to both (`Task.Follows`).

What is done for another guild, by the first one alone, leaves them alike, and so does
what both of them do for the guild.

> `Moves.like_other`: a call for another guild leaves the coordinators alike.
> `Like.dispatch`, `Like.tryRegister`, `Like.evict`: both are answered the same.
-/

namespace VoiceGateway

/-! ## Entries at the end of a list -/

section Entries

variable {α : Type} {p : α → Bool} {l : List α} {x : α}

theorem filter_concat_of_pos (h : p x = true) : (l ++ [x]).filter p = l.filter p ++ [x] := by
  rw [List.filter_append, List.filter_cons_of_pos h, List.filter_nil]

theorem filter_concat_of_neg (h : p x = false) : (l ++ [x]).filter p = l.filter p := by
  rw [List.filter_append, List.filter_cons_of_neg (by simp [h]), List.filter_nil, List.append_nil]

end Entries

/-! ## Calls -/

/-- Two tasks for a guild on two buses, the second one with the events about the guild
only: they wait for the same thing, with sessions under other names, and what they are
still to read comes to both of them. -/
inductive Task.Follows (ρ : SessionRef → SessionRef) (g : Snowflake) (b d : EventBus) :
    Task → Task → Prop
  | fresh {q : JoinRequest} (own : q.guild = g) :
      Task.Follows ρ g b d (.join q .fresh) (.join q .fresh)
  | renewing {q : JoinRequest} (own : q.guild = g) {selfId : Snowflake} {s : SessionRef}
      {c c' : Cursor} {f : InFlight} (states : EventBus.Follows g b d .state c c') :
      Task.Follows ρ g b d (.join q (.renewing selfId s c f))
        (.join q (.renewing selfId (ρ s) c' f))
  | awaitingEcho {q : JoinRequest} (own : q.guild = g) {selfId : Snowflake} {s : SessionRef}
      {c c' : Cursor} (states : EventBus.Follows g b d .state c c') :
      Task.Follows ρ g b d (.join q (.awaitingEcho selfId s c))
        (.join q (.awaitingEcho selfId (ρ s) c'))
  | opening {q : JoinRequest} (own : q.guild = g) {c c' d₁ d₂ : Cursor} {f : InFlight}
      (states : EventBus.Follows g b d .state c c')
      (servers : EventBus.Follows g b d .server d₁ d₂) :
      Task.Follows ρ g b d (.join q (.opening c d₁ f)) (.join q (.opening c' d₂ f))
  | gathering {q : JoinRequest} (own : q.guild = g) {r r' : Rendezvous} {deadline : Nat}
      (cursors : Rendezvous.Follows g b d r r') :
      Task.Follows ρ g b d (.join q (.gathering r deadline)) (.join q (.gathering r' deadline))
  | leaving {q : JoinRequest} (own : q.guild = g) {cause : JoinError} {f : InFlight} :
      Task.Follows ρ g b d (.join q (.leaving cause f)) (.join q (.leaving cause f))
  | disconnect {f : Option InFlight} : Task.Follows ρ g b d (.disconnect g f) (.disconnect g f)
  | unsubscribed : Task.Follows ρ g b d (.watch g none) (.watch g none)
  | watch {c c' : Cursor} (servers : EventBus.Follows g b d .server c c') :
      Task.Follows ρ g b d (.watch g (some c)) (.watch g (some c'))

/-- What becomes of a call on two buses. -/
inductive Progress.Follows (ρ : SessionRef → SessionRef) (g : Snowflake) (b d : EventBus) :
    Progress → Progress → Prop
  | pending {task task' : Task} (tasks : Task.Follows ρ g b d task task') :
      Progress.Follows ρ g b d (.pending task) (.pending task')
  | ended (o : Outcome) : Progress.Follows ρ g b d (.ended o) (.ended (o.rename ρ))

variable {ρ : SessionRef → SessionRef} {g : Snowflake} {b b' d d' : EventBus}

namespace Task

variable {task task' : Task}

theorem Follows.guild (h : Follows ρ g b d task task') : task.guild = g ∧ task'.guild = g := by
  cases h with
  | disconnect => exact ⟨rfl, rfl⟩
  | unsubscribed => exact ⟨rfl, rfl⟩
  | watch => exact ⟨rfl, rfl⟩
  | _ own => exact ⟨own, own⟩

theorem Follows.holds (h : Follows ρ g b d task task') (stream : StreamName) :
    task'.holds stream = task.holds stream := by
  cases h <;> cases stream <;> rfl

/-- Later on tasks still follow each other, if on the streams that they hold the same is
delivered about the guild. -/
theorem Follows.later (h : Follows ρ g b d task task')
    (cursors : ∀ stream, task.holds stream = true → ∀ c c',
      EventBus.Follows g b d stream c c' → EventBus.Follows g b' d' stream c c') :
    Follows ρ g b' d' task task' := by
  cases h with
  | fresh own => exact .fresh own
  | renewing own states => exact .renewing own (cursors .state rfl _ _ states)
  | awaitingEcho own states => exact .awaitingEcho own (cursors .state rfl _ _ states)
  | opening own states servers =>
    exact .opening own (cursors .state rfl _ _ states) (cursors .server rfl _ _ servers)
  | gathering own r =>
    exact .gathering own ⟨r.guild, r.guild', r.selfId, r.state, r.server,
      fun hn => cursors .state rfl _ _ (r.states hn),
      fun hn => cursors .server rfl _ _ (r.servers hn)⟩
  | leaving own => exact .leaving own
  | disconnect => exact .disconnect
  | unsubscribed => exact .unsubscribed
  | watch servers => exact .watch (cursors .server rfl _ _ servers)

end Task

/-- The streams of two buses are open and of one size. -/
structure EventBus.Twin (b d : EventBus) : Prop where
  states : b.states.Twin d.states
  servers : b.servers.Twin d.servers

namespace EventBus

/-- What grows on either side stays as it is in this respect, as long as it does not end. -/
theorem Twin.of_grows (h : b.Twin d) (hb : b.Grows b') (hd : d.Grows d')
    (eb : ∀ stream, b'.ended stream = b.ended stream)
    (ed : ∀ stream, d'.ended stream = d.ended stream) : b'.Twin d' :=
  ⟨⟨by rw [hd.states.window, hb.states.window, h.states.window], (eb .state).trans h.states.opened,
      (ed .state).trans h.states.opened'⟩,
    ⟨by rw [hd.servers.window, hb.servers.window, h.servers.window],
      (eb .server).trans h.servers.opened, (ed .server).trans h.servers.opened'⟩⟩

theorem Twin.left (h : b.Twin d) (hb : b.Grows b')
    (eb : ∀ stream, b'.ended stream = b.ended stream) : b'.Twin d :=
  h.of_grows hb (grows_refl d) eb fun _ => rfl

theorem Twin.opened (h : b.Twin d) (stream : StreamName) : b.ended stream = false := by
  cases stream with
  | state => exact h.states.opened
  | server => exact h.servers.opened

theorem Twin.opened' (h : b.Twin d) (stream : StreamName) : d.ended stream = false := by
  cases stream with
  | state => exact h.states.opened'
  | server => exact h.servers.opened'

end EventBus

namespace Coordinator

variable {σ : Type} {T : Transport σ} {rule : ShardCommand → Option TransportError}
  {w w' v : Coordinator σ}

/-! ## Coordinators -/

/-- To a guild the first coordinator, which serves others as well, is like the second one,
which serves only the guild. -/
structure Like (ρ : SessionRef → SessionRef) (g : Snowflake) (w v : Coordinator σ) : Prop where
  identity : v.identity = w.identity
  now : v.now = w.now
  releases : v.releases = w.releases
  bus : w.bus.Twin v.bus
  registry : w.registry.Share ρ g v.registry
  dispatches : v.dispatches = w.dispatches.filter fun d => d.command.update.guild = g
  notes : v.notes = w.notes.filter fun n => n.event.guild? = some g

/-- The line, the calls and the outcomes have no part in it. -/
theorem Like.aside (h : Like ρ g w v) (line line' : σ) (calls calls' : List Call)
    (outcomes outcomes' : List (Nat × Outcome)) :
    Like ρ g { w with line, calls, outcomes }
      { v with line := line', calls := calls', outcomes := outcomes' } :=
  ⟨h.identity, h.now, h.releases, h.bus, h.registry, h.dispatches, h.notes⟩

/-! ### What is done for others -/

theorem Like.note_other (h : Like ρ g w v) (t : Option Nat) {e : TraceEvent}
    (other : e.guild? ≠ some g) : Like ρ g (w.note t e) v := by
  refine ⟨h.identity, h.now, h.releases, h.bus, h.registry, h.dispatches, ?_⟩
  refine h.notes.trans (filter_concat_of_neg ?_).symm
  exact decide_eq_false other

theorem Like.bus_other (h : Like ρ g w v) {bus : EventBus} (grown : w.bus.Grows bus)
    (ended : ∀ stream, bus.ended stream = w.bus.ended stream) : Like ρ g { w with bus } v :=
  ⟨h.identity, h.now, h.releases, h.bus.left grown ended, h.registry, h.dispatches, h.notes⟩

theorem Like.dispatch_other (h : Like ρ g w v) (ticket : Nat) {u : VoiceUpdate}
    (other : u.guild ≠ g) : Like ρ g (w.dispatch T ticket u).2 v := by
  refine ⟨h.identity, h.now, h.releases, h.bus.left (EventBus.publishAll_grows _ _)
    (fun stream => EventBus.publishAll_ended stream _ _), h.registry, ?_, h.notes⟩
  refine h.dispatches.trans (filter_concat_of_neg ?_).symm
  exact decide_eq_false other

theorem Like.registry_other (h : Like ρ g w v) {registry : Registry}
    (share : registry.Share ρ g v.registry) : Like ρ g { w with registry } v :=
  ⟨h.identity, h.now, h.releases, h.bus, share, h.dispatches, h.notes⟩

theorem Like.evict_other (h : Like ρ g w v) (lawful : w.registry.Lawful) (t : Option Nat)
    {g' : Snowflake} (other : g' ≠ g) : Like ρ g (w.evict t g').2 v := by
  have hevicted := h.registry_other (h.registry.evict_other lawful other)
  unfold evict
  dsimp only
  split
  · exact hevicted.note_other t (fun he => other (Option.some.inj he))
  · exact hevicted

theorem Like.finishFailure_other (h : Like ρ g w v) (lawful : w.registry.Lawful) (ticket : Nat)
    {g' : Snowflake} (other : g' ≠ g) (cause : JoinError) (refusal : Option TransportError) :
    Like ρ g (w.finishFailure ticket g' cause refusal).2 v := by
  have hevicted := h.evict_other lawful (some ticket) other
  cases refusal with
  | none => exact hevicted
  | some e => exact hevicted.note_other _ (fun he => other (Option.some.inj he))

theorem Like.unsubscribeBoth_other (h : Like ρ g w v) : Like ρ g w.unsubscribeBoth v := by
  have grown : Grows (fun _ => True) w w.unsubscribeBoth := unsubscribeBoth_grows w
  exact h.bus_other grown.bus fun stream => (EventBus.unsubscribe_ended _ .server stream).trans
    (EventBus.unsubscribe_ended _ .state stream)

/-- A move of a call for another guild. -/
theorem Move.like_other {ticket : Nat} {task : Task} {p : Progress} (h : Move T ticket w task p w')
    (like : Like ρ g w v) (lawful : w.registry.Lawful) (other : task.guild ≠ g) :
    Like ρ g w' v := by
  have hnote : ∀ {e : TraceEvent}, e.guild? = some task.guild → e.guild? ≠ some g :=
    fun he hg => other (Option.some.inj (he.symm.trans hg))
  have hunsubscribe : ∀ stream, Like ρ g (w.unsubscribe stream) v := fun stream =>
    like.bus_other (EventBus.unsubscribe_grows _ stream) (EventBus.unsubscribe_ended _ stream)
  cases h with
  | leave => exact like.dispatch_other ticket other
  | left => exact like.evict_other lawful _ other
  | anonymous hit missing => exact like.note_other _ (hnote rfl)
  | @renew q s selfId hit known =>
    have hlookUp : Like ρ g (w.lookUp T ticket q) v := like.note_other _ (hnote rfl)
    have hsubscribed : Like ρ g (w.lookUp T ticket q).subscribeStates.2 v :=
      hlookUp.bus_other ⟨Stream.subscribe_grows _, Stream.grows_refl _⟩
        fun stream => by cases stream <;> rfl
    exact hsubscribed.dispatch_other ticket other
  | renewalRefused refused => exact hunsubscribe .state
  | echoed => exact hunsubscribe .state
  | echoClosed => exact hunsubscribe .state
  | @«open» q miss =>
    have hlookUp : Like ρ g (w.lookUp T ticket q) v := like.note_other _ (hnote rfl)
    have hsubscribed : Like ρ g (w.lookUp T ticket q).subscribeStates.2.subscribeServers.2 v :=
      hlookUp.bus_other ⟨Stream.subscribe_grows _, Stream.subscribe_grows _⟩
        fun stream => by cases stream <;> rfl
    exact hsubscribed.dispatch_other ticket other
  | openingRefused refused => exact like.unsubscribeBoth_other
  | @won q r deadline order e x met free =>
    have hconfirmed : Like ρ g (w.confirm ticket (sessionOf T q r.selfId e x)) v :=
      like.unsubscribeBoth_other.note_other _ (hnote rfl)
    exact hconfirmed.registry_other (like.registry.tryRegister_other other)
  | @lost q r deadline order e x s met taken =>
    have hconfirmed : Like ρ g (w.confirm ticket (sessionOf T q r.selfId e x)) v :=
      like.unsubscribeBoth_other.note_other _ (hnote rfl)
    exact hconfirmed.note_other _ (hnote rfl)
  | @fail q stage cause fails =>
    have hnoted := like.unsubscribeBoth_other.note_other (some ticket)
      (hnote (e := .handshakeFailed q.guild (shardOf q.guild T.shardCount) cause.message) rfl)
    exact hnoted.dispatch_other ticket other
  | cleanedUp => exact like.finishFailure_other lawful ticket other _ _
  | watch =>
    exact like.bus_other ⟨Stream.grows_refl _, Stream.subscribe_grows _⟩
      fun stream => by cases stream <;> rfl
  | reassigned => exact hunsubscribe .server
  | watchClosed => exact hunsubscribe .server
  | _ => exact like

/-- A call for another guild leaves the coordinators alike. -/
theorem Moves.like_other {ticket : Nat} {task : Task} {p : Progress}
    (h : Moves T ticket w task p w') (like : Like ρ g w v) (lawful : w.registry.Lawful)
    (other : task.guild ≠ g) : Like ρ g w' v := by
  induction h with
  | rest w task begun => exact like
  | last move => exact move.like_other like lawful other
  | next move _ ih =>
    have hgrows : Grows (fun _ => True) _ _ := move.grows trivial
    exact ih (move.like_other like lawful other) (hgrows.registry.lawful lawful)
      (move.guild ▸ other)

/-! ### What is done for the guild -/

theorem Like.note (h : Like ρ g w v) (t : Option Nat) {e : TraceEvent}
    (own : e.guild? = some g) : Like ρ g (w.note t e) (v.note t e) := by
  refine ⟨h.identity, h.now, h.releases, h.bus, h.registry, h.dispatches, ?_⟩
  refine (congrArg (· ++ [_]) h.notes).trans (filter_concat_of_pos ?_).symm
  exact decide_eq_true own

theorem Like.buses (h : Like ρ g w v) {bus bus' : EventBus} (grown : w.bus.Grows bus)
    (grown' : v.bus.Grows bus') (ended : ∀ stream, bus.ended stream = w.bus.ended stream)
    (ended' : ∀ stream, bus'.ended stream = v.bus.ended stream) :
    Like ρ g { w with bus } { v with bus := bus' } :=
  ⟨h.identity, h.now, h.releases, h.bus.of_grows grown grown' ended ended', h.registry,
    h.dispatches, h.notes⟩

theorem Like.unsubscribe (h : Like ρ g w v) (stream : StreamName) :
    Like ρ g (w.unsubscribe stream) (v.unsubscribe stream) :=
  h.buses (EventBus.unsubscribe_grows _ stream) (EventBus.unsubscribe_grows _ stream)
    (EventBus.unsubscribe_ended _ stream) (EventBus.unsubscribe_ended _ stream)

theorem Like.unsubscribeBoth (h : Like ρ g w v) : Like ρ g w.unsubscribeBoth v.unsubscribeBoth :=
  (h.unsubscribe .state).unsubscribe .server

theorem Like.subscribeStates (h : Like ρ g w v) :
    Like ρ g w.subscribeStates.2 v.subscribeStates.2 :=
  h.buses ⟨Stream.subscribe_grows _, Stream.grows_refl _⟩
    ⟨Stream.subscribe_grows _, Stream.grows_refl _⟩ (fun stream => by cases stream <;> rfl)
    fun stream => by cases stream <;> rfl

theorem Like.subscribeServers (h : Like ρ g w v) :
    Like ρ g w.subscribeServers.2 v.subscribeServers.2 :=
  h.buses ⟨Stream.grows_refl _, Stream.subscribe_grows _⟩
    ⟨Stream.grows_refl _, Stream.subscribe_grows _⟩ (fun stream => by cases stream <;> rfl)
    fun stream => by cases stream <;> rfl

theorem Like.flight (h : Like ρ g w v) (refusal : Option TransportError) :
    v.flight refusal = w.flight refusal := by
  unfold Coordinator.flight
  rw [h.releases]

theorem Like.released (h : Like ρ g w v) (f : InFlight) : v.released f = w.released f := by
  unfold Coordinator.released
  rw [h.releases]

/-- A command for the guild is answered the same by a transport that is in the same state. -/
theorem Like.dispatch (h : Like ρ g w v) (steady : ∀ s c, (T.send s c).1.refusal = rule c)
    (line : v.line = w.line) (ticket : Nat) {u : VoiceUpdate} (own : u.guild = g) :
    (v.dispatch (T.about g rule) ticket u).1 = (w.dispatch T ticket u).1 ∧
      Like ρ g (w.dispatch T ticket u).2 (v.dispatch (T.about g rule) ticket u).2 := by
  have hreply : (v.dispatch (T.about g rule) ticket u).1 = (w.dispatch T ticket u).1 := by
    show ((T.about g rule).send v.line (.route u T.shardCount)).1 = _
    rw [line]
    exact Transport.about_reply steady w.line _
  refine ⟨hreply, h.identity, h.now, h.releases, ?_, h.registry, ?_, h.notes⟩
  · exact h.bus.of_grows (EventBus.publishAll_grows _ _) (EventBus.publishAll_grows _ _)
      (fun stream => EventBus.publishAll_ended stream _ _)
      fun stream => EventBus.publishAll_ended stream _ _
  · have hentry : (⟨ticket, .route u T.shardCount, (v.dispatch (T.about g rule) ticket u).1⟩ :
        Dispatch) = ⟨ticket, .route u T.shardCount, (w.dispatch T ticket u).1⟩ := by rw [hreply]
    refine (congrArg₂ (· ++ [·]) h.dispatches hentry).trans (filter_concat_of_pos ?_).symm
    exact decide_eq_true own

theorem Like.tryRegister (h : Like ρ g w v) (names : Registry.Numbers ρ g w.registry)
    {x : Session} (own : x.guild = g) :
    (v.tryRegister x).1 = (w.tryRegister x).1.rename ρ ∧
      Like ρ g (w.tryRegister x).2 (v.tryRegister x).2 := by
  obtain ⟨hanswer, hshare⟩ := h.registry.tryRegister names own
  exact ⟨hanswer, h.identity, h.now, h.releases, h.bus, hshare, h.dispatches, h.notes⟩

theorem Like.evict (h : Like ρ g w v) (names : Registry.Numbers ρ g w.registry)
    (lawful : w.registry.Lawful) (t : Option Nat) :
    (v.evict t g).1 = (w.evict t g).1 ∧ Like ρ g (w.evict t g).2 (v.evict t g).2 := by
  obtain ⟨hanswer, hshare⟩ := h.registry.evict names lawful
  have hevicted : Like ρ g { w with registry := (w.registry.evict g).2 }
      { v with registry := (v.registry.evict g).2 } :=
    ⟨h.identity, h.now, h.releases, h.bus, hshare, h.dispatches, h.notes⟩
  refine ⟨hanswer, ?_⟩
  unfold Coordinator.evict
  dsimp only
  rw [hanswer]
  split
  · exact hevicted.note t rfl
  · exact hevicted

end Coordinator

end VoiceGateway
