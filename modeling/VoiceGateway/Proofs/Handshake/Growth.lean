import VoiceGateway.Proofs.Handshake.Move
import VoiceGateway.Proofs.Stream

/-!
# What coordinators keep

Nothing that a coordinator has entered is ever taken back: its ledgers grow at
their ends, its clock does not go back, its streams grow and its registry evolves
(`Grows`). What is done for a call is entered under the ticket of that call.

> `Moves.grows`: a chain of moves grows the coordinator, all in the name of its
> ticket, and leaves the calls and the outcomes to whoever settles it.
> `Grows.dispatchesOf`, `Grows.notesOf`: whoever takes no part leaves no trace.
-/

namespace VoiceGateway.Coordinator

variable {σ : Type} {T : Transport σ} {By : Option Nat → Prop}

/-- The trace shows an eviction of a guild between two coordinators. -/
def Evicted (g : Snowflake) (w w' : Coordinator σ) : Prop :=
  ∃ n ∈ w'.notes.drop w.notes.length, n.event = .sessionEvicted g

/-- A coordinator later on. Everything entered in between is in the name of a ticket,
or of none, that satisfies `By`. -/
structure Grows (By : Option Nat → Prop) (w w' : Coordinator σ) : Prop where
  bus : w.bus.Grows w'.bus
  registry : w.registry.Evolves w'.registry
  /-- What a guild has it keeps, unless the trace shows that it was evicted. -/
  retained : ∀ g s, w.registry.get? g = some s →
    w'.registry.get? g = some s ∨ w.Evicted g w'
  now : w.now ≤ w'.now
  releases : w.releases ≤ w'.releases
  dispatches : ∃ l, w'.dispatches = w.dispatches ++ l ∧ ∀ d ∈ l, By (some d.ticket)
  notes : ∃ l, w'.notes = w.notes ++ l ∧ ∀ n ∈ l, By n.ticket
  outcomes : ∃ l, w'.outcomes = w.outcomes ++ l ∧ ∀ e ∈ l, By (some e.1)

theorem appended_nil {α : Type} {p : α → Prop} (l : List α) :
    ∃ l', l = l ++ l' ∧ ∀ x ∈ l', p x :=
  ⟨[], (List.append_nil l).symm, fun _ hx => absurd hx List.not_mem_nil⟩

theorem appended_one {α : Type} {p : α → Prop} (l : List α) {x : α} (hx : p x) :
    ∃ l', l ++ [x] = l ++ l' ∧ ∀ y ∈ l', p y :=
  ⟨[x], rfl, fun _ hy => List.mem_singleton.mp hy ▸ hx⟩

theorem appended_trans {α : Type} {p : α → Prop} {l₁ l₂ l₃ : List α}
    (h₁ : ∃ l, l₂ = l₁ ++ l ∧ ∀ x ∈ l, p x) (h₂ : ∃ l, l₃ = l₂ ++ l ∧ ∀ x ∈ l, p x) :
    ∃ l, l₃ = l₁ ++ l ∧ ∀ x ∈ l, p x := by
  obtain ⟨l, rfl, hl⟩ := h₁
  obtain ⟨l', rfl, hl'⟩ := h₂
  refine ⟨l ++ l', List.append_assoc .., fun x hx => ?_⟩
  rcases List.mem_append.mp hx with h | h
  · exact hl x h
  · exact hl' x h

theorem Evicted.later {g : Snowflake} {w₁ w₂ w₃ : Coordinator σ} (h : w₁.Evicted g w₂)
    (hn : w₂.notes <+: w₃.notes) : w₁.Evicted g w₃ := by
  obtain ⟨n, hmem, he⟩ := h
  obtain ⟨l, hl⟩ := hn
  refine ⟨n, ?_, he⟩
  rw [← hl, List.drop_append]
  exact List.mem_append_left _ hmem

theorem Evicted.sooner {g : Snowflake} {w₁ w₂ w₃ : Coordinator σ} (h : w₂.Evicted g w₃)
    (hn : w₁.notes <+: w₂.notes) : w₁.Evicted g w₃ := by
  obtain ⟨n, hmem, he⟩ := h
  exact ⟨n, (List.drop_sublist_drop_left _ hn.length_le).subset hmem, he⟩

theorem Grows.notes_prefix {w w' : Coordinator σ} (h : Grows By w w') : w.notes <+: w'.notes := by
  obtain ⟨l, hl, -⟩ := h.notes
  exact ⟨l, hl.symm⟩

theorem grows_refl (w : Coordinator σ) : Grows By w w :=
  ⟨EventBus.grows_refl _, Registry.evolves_refl _, fun _ _ => Or.inl, Nat.le_refl _,
    Nat.le_refl _, appended_nil _, appended_nil _, appended_nil _⟩

theorem grows_trans {w₁ w₂ w₃ : Coordinator σ} (h₁ : Grows By w₁ w₂) (h₂ : Grows By w₂ w₃) :
    Grows By w₁ w₃ := by
  refine ⟨EventBus.grows_trans h₁.bus h₂.bus, Registry.evolves_trans h₁.registry h₂.registry,
    fun g s hs => ?_, Nat.le_trans h₁.now h₂.now, Nat.le_trans h₁.releases h₂.releases,
    appended_trans h₁.dispatches h₂.dispatches, appended_trans h₁.notes h₂.notes,
    appended_trans h₁.outcomes h₂.outcomes⟩
  rcases h₁.retained g s hs with hs₂ | he
  · rcases h₂.retained g s hs₂ with hs₃ | he
    · exact Or.inl hs₃
    · exact Or.inr (he.sooner h₁.notes_prefix)
  · exact Or.inr (he.later h₂.notes_prefix)

/-- Growth in the name of some is growth in the name of more. -/
theorem Grows.mono {By' : Option Nat → Prop} (hB : ∀ t, By t → By' t) {w w' : Coordinator σ}
    (h : Grows By w w') : Grows By' w w' := by
  obtain ⟨ld, hd, hdl⟩ := h.dispatches
  obtain ⟨ln, hn, hnl⟩ := h.notes
  obtain ⟨lo, ho, hol⟩ := h.outcomes
  exact ⟨h.bus, h.registry, h.retained, h.now, h.releases, ⟨ld, hd, fun d hm => hB _ (hdl d hm)⟩,
    ⟨ln, hn, fun n hm => hB _ (hnl n hm)⟩, ⟨lo, ho, fun e hm => hB _ (hol e hm)⟩⟩

/-! ## Single operations -/

theorem note_grows (w : Coordinator σ) {t : Option Nat} (ht : By t) (e : TraceEvent) :
    Grows By w (w.note t e) :=
  ⟨EventBus.grows_refl _, Registry.evolves_refl _, fun _ _ => Or.inl, Nat.le_refl _, Nat.le_refl _,
    appended_nil _, appended_one _ ht, appended_nil _⟩

/-- A change of the bus alone. -/
theorem bus_grows (w : Coordinator σ) {bus : EventBus} (h : w.bus.Grows bus) :
    Grows By w { w with bus } :=
  ⟨h, Registry.evolves_refl _, fun _ _ => Or.inl, Nat.le_refl _, Nat.le_refl _, appended_nil _,
    appended_nil _, appended_nil _⟩

theorem subscribeStates_grows (w : Coordinator σ) : Grows By w w.subscribeStates.2 :=
  bus_grows w ⟨Stream.subscribe_grows _, Stream.grows_refl _⟩

theorem subscribeServers_grows (w : Coordinator σ) : Grows By w w.subscribeServers.2 :=
  bus_grows w ⟨Stream.grows_refl _, Stream.subscribe_grows _⟩

theorem unsubscribe_grows (w : Coordinator σ) (stream : StreamName) :
    Grows By w (w.unsubscribe stream) :=
  bus_grows w (EventBus.unsubscribe_grows _ stream)

theorem unsubscribeBoth_grows (w : Coordinator σ) : Grows By w w.unsubscribeBoth :=
  grows_trans (unsubscribe_grows w .state) (unsubscribe_grows _ .server)

theorem dispatch_grows (w : Coordinator σ) {ticket : Nat} (ht : By (some ticket))
    (u : VoiceUpdate) : Grows By w (w.dispatch T ticket u).2 :=
  ⟨EventBus.publishAll_grows _ _, Registry.evolves_refl _, fun _ _ => Or.inl, Nat.le_refl _,
    Nat.le_refl _,
    appended_one _ ht, appended_nil _, appended_nil _⟩

theorem tryRegister_grows (w : Coordinator σ) (x : Session) : Grows By w (w.tryRegister x).2 :=
  ⟨EventBus.grows_refl _, Registry.evolves_tryRegister _ x,
    fun _ _ hs => Or.inl (Registry.get?_tryRegister_of_some hs), Nat.le_refl _, Nat.le_refl _,
    appended_nil _, appended_nil _, appended_nil _⟩

theorem evict_grows (w : Coordinator σ) {t : Option Nat} (ht : By t) (g : Snowflake) :
    Grows By w (w.evict t g).2 := by
  cases hg : w.registry.get? g with
  | none =>
    have he : (w.evict t g).2 = { w with registry := w.registry } := by
      unfold evict
      rw [Registry.evict_of_none hg]
      rfl
    rw [he]
    exact grows_refl w
  | some s =>
    have he : (w.evict t g).2 =
        note { w with registry := (w.registry.evict g).2 } t (.sessionEvicted g) := by
      unfold evict
      rw [Registry.evict_of_some hg]
      rfl
    rw [he]
    refine ⟨EventBus.grows_refl _, Registry.evolves_evict _ g, fun g' s' hs' => ?_,
      Nat.le_refl _, Nat.le_refl _, appended_nil _, appended_one _ ht, appended_nil _⟩
    by_cases hgg : g = g'
    · refine Or.inr ⟨⟨t, .sessionEvicted g⟩, ?_, congrArg _ hgg⟩
      show _ ∈ (w.notes ++ [_]).drop w.notes.length
      rw [List.drop_left]
      exact List.mem_singleton_self _
    · refine Or.inl ?_
      show (w.registry.evict g).2.get? g' = some s'
      rw [Registry.get?_evict, if_neg hgg]
      exact hs'

theorem finish_grows (w : Coordinator σ) {ticket : Nat} (ht : By (some ticket)) (o : Outcome) :
    Grows By w (w.finish ticket o) :=
  ⟨EventBus.grows_refl _, Registry.evolves_refl _, fun _ _ => Or.inl, Nat.le_refl _, Nat.le_refl _,
    appended_nil _, appended_nil _, appended_one _ ht⟩

theorem putCall_grows (w : Coordinator σ) (c : Call) : Grows By w (w.putCall c) :=
  ⟨EventBus.grows_refl _, Registry.evolves_refl _, fun _ _ => Or.inl, Nat.le_refl _, Nat.le_refl _,
    appended_nil _, appended_nil _, appended_nil _⟩

/-- The subscriptions of a call are taken off. -/
def withdraw (w : Coordinator σ) (task : Task) : Coordinator σ :=
  let w := if task.holds .state then w.unsubscribe .state else w
  if task.holds .server then w.unsubscribe .server else w

theorem abandon_eq (w : Coordinator σ) (c : Call) (o : Outcome) :
    w.abandon c o = (w.withdraw c.task).finish c.ticket o := rfl

theorem withdraw_eq (w : Coordinator σ) (task : Task) :
    w.withdraw task = { w with bus := (w.withdraw task).bus } := by
  unfold withdraw
  dsimp only
  split <;> split <;> rfl

theorem withdraw_calls (w : Coordinator σ) (task : Task) :
    (w.withdraw task).calls = w.calls ∧ (w.withdraw task).outcomes = w.outcomes := by
  rw [withdraw_eq]
  exact ⟨rfl, rfl⟩

theorem withdraw_history (w : Coordinator σ) (task : Task) :
    (w.withdraw task).bus.states.history = w.bus.states.history ∧
      (w.withdraw task).bus.servers.history = w.bus.servers.history := by
  unfold withdraw
  dsimp only
  split <;> split <;> exact ⟨rfl, rfl⟩

theorem withdraw_bus_grows (w : Coordinator σ) (task : Task) :
    w.bus.Grows (w.withdraw task).bus := by
  unfold withdraw
  dsimp only
  split <;> split
  · exact EventBus.grows_trans (EventBus.unsubscribe_grows _ .state)
      (EventBus.unsubscribe_grows _ .server)
  · exact EventBus.unsubscribe_grows _ .server
  · exact EventBus.unsubscribe_grows _ .state
  · exact EventBus.grows_refl _

theorem abandon_grows (w : Coordinator σ) {c : Call} (ht : By (some c.ticket)) (o : Outcome) :
    Grows By w (w.abandon c o) := by
  rw [abandon_eq, withdraw_eq]
  exact grows_trans (bus_grows w (withdraw_bus_grows w c.task)) (finish_grows _ ht o)

/-! ## Moves -/

theorem finishFailure_grows (w : Coordinator σ) {ticket : Nat} (ht : By (some ticket))
    (guild : Snowflake) (cause : JoinError) (refusal : Option TransportError) :
    Grows By w (w.finishFailure ticket guild cause refusal).2 := by
  cases refusal with
  | none => exact evict_grows w ht guild
  | some e => exact grows_trans (evict_grows w ht guild) (note_grows _ ht _)

theorem Move.grows {ticket : Nat} (ht : By (some ticket)) {w w' : Coordinator σ} {task : Task}
    {p : Progress} (h : Move T ticket w task p w') : Grows By w w' := by
  have note : ∀ (w : Coordinator σ) e, Grows By w (w.note (some ticket) e) :=
    fun w e => note_grows w ht e
  have send : ∀ (w : Coordinator σ) u, Grows By w (w.dispatch T ticket u).2 :=
    fun w u => dispatch_grows w ht u
  cases h with
  | leave => exact send w _
  | left => exact evict_grows w ht _
  | anonymous hit missing => exact note w _
  | renew hit known =>
    exact grows_trans (note w _) (grows_trans (subscribeStates_grows _) (send _ _))
  | renewalRefused refused => exact unsubscribe_grows w _
  | renewalAccepted accepted => exact grows_refl w
  | unechoed => exact grows_refl w
  | echoed => exact unsubscribe_grows w _
  | echoClosed => exact unsubscribe_grows w _
  | «open» miss =>
    exact grows_trans (note w _) (grows_trans (subscribeStates_grows _)
      (grows_trans (subscribeServers_grows _) (send _ _)))
  | openingRefused refused => exact unsubscribeBoth_grows w
  | openingAccepted accepted known => exact grows_refl w
  | gather waits => exact grows_refl w
  | won met free =>
    exact grows_trans (unsubscribeBoth_grows w) (grows_trans (note _ _) (tryRegister_grows _ _))
  | lost met taken =>
    exact grows_trans (unsubscribeBoth_grows w) (grows_trans (note _ _) (note _ _))
  | fail fails =>
    exact grows_trans (unsubscribeBoth_grows w) (grows_trans (note _ _) (send _ _))
  | cleanedUp => exact finishFailure_grows w ht _ _ _
  | watch => exact subscribeServers_grows w
  | unassigned => exact grows_refl w
  | reassigned => exact unsubscribe_grows w _
  | watchClosed => exact unsubscribe_grows w _

theorem Moves.grows {ticket : Nat} (ht : By (some ticket)) {w w' : Coordinator σ} {task : Task}
    {p : Progress} (h : Moves T ticket w task p w') : Grows By w w' := by
  induction h with
  | rest w task begun => exact grows_refl w
  | last move => exact move.grows ht
  | next move _ ih => exact grows_trans (move.grows ht) ih

theorem evict_calls (w : Coordinator σ) (t : Option Nat) (g : Snowflake) :
    (w.evict t g).2.calls = w.calls ∧ (w.evict t g).2.outcomes = w.outcomes := by
  unfold evict
  dsimp only
  split <;> exact ⟨rfl, rfl⟩

theorem finishFailure_calls (w : Coordinator σ) (ticket : Nat) (guild : Snowflake)
    (cause : JoinError) (refusal : Option TransportError) :
    (w.finishFailure ticket guild cause refusal).2.calls = w.calls ∧
      (w.finishFailure ticket guild cause refusal).2.outcomes = w.outcomes := by
  cases refusal with
  | none => exact evict_calls w _ guild
  | some e => exact evict_calls w _ guild

/-- Nothing happens to a coordinator that is asked to evict a guild without a session. -/
theorem evict_free {w : Coordinator σ} {g : Snowflake} (free : w.registry.get? g = none)
    (t : Option Nat) : (w.evict t g).2 = w := by
  unfold evict
  rw [Registry.evict_of_none free]
  rfl

theorem evict_registry (w : Coordinator σ) (t : Option Nat) (g : Snowflake) :
    (w.evict t g).2.registry = (w.registry.evict g).2 := by
  unfold evict
  dsimp only
  split <;> rfl

theorem finishFailure_registry (w : Coordinator σ) (ticket : Nat) (g : Snowflake)
    (cause : JoinError) (refusal : Option TransportError) :
    (w.finishFailure ticket g cause refusal).2.registry = (w.registry.evict g).2 := by
  cases refusal with
  | none => exact evict_registry w _ g
  | some e => exact evict_registry w _ g

theorem evict_dispatches (w : Coordinator σ) (t : Option Nat) (g : Snowflake) :
    (w.evict t g).2.dispatches = w.dispatches := by
  unfold evict
  dsimp only
  split <;> rfl

theorem finishFailure_dispatches (w : Coordinator σ) (ticket : Nat) (g : Snowflake)
    (cause : JoinError) (refusal : Option TransportError) :
    (w.finishFailure ticket g cause refusal).2.dispatches = w.dispatches := by
  cases refusal with
  | none => exact evict_dispatches w _ g
  | some e => exact evict_dispatches w _ g

/-- No move touches the calls and the outcomes. -/
theorem Move.calls {ticket : Nat} {w w' : Coordinator σ} {task : Task} {p : Progress}
    (h : Move T ticket w task p w') : w'.calls = w.calls ∧ w'.outcomes = w.outcomes := by
  cases h with
  | left => exact evict_calls w _ _
  | cleanedUp => exact finishFailure_calls w _ _ _ _
  | _ => exact ⟨rfl, rfl⟩

theorem Moves.calls {ticket : Nat} {w w' : Coordinator σ} {task : Task} {p : Progress}
    (h : Moves T ticket w task p w') : w'.calls = w.calls ∧ w'.outcomes = w.outcomes := by
  induction h with
  | rest w task begun => exact ⟨rfl, rfl⟩
  | last move => exact move.calls
  | next move _ ih => exact ⟨ih.1.trans move.calls.1, ih.2.trans move.calls.2⟩

/-! ## Who has done what -/

/-- The commands that were handed over for a call, with their answers. -/
def dispatchesOf (w : Coordinator σ) (ticket : Nat) : List Dispatch :=
  w.dispatches.filter fun d => d.ticket = ticket

/-- The events of the trace that stem from a call. -/
def notesOf (w : Coordinator σ) (ticket : Nat) : List TraceEvent :=
  (w.notes.filter fun n => n.ticket = some ticket).map (·.event)

theorem notesOf_note (w : Coordinator σ) (ticket : Nat) (e : TraceEvent) :
    (w.note (some ticket) e).notesOf ticket = w.notesOf ticket ++ [e] := by
  unfold notesOf note
  rw [List.filter_append, List.map_append]
  simp

/-- Whoever takes no part leaves no trace. -/
theorem Grows.dispatchesOf {w w' : Coordinator σ} (h : Grows By w w') {ticket : Nat}
    (hn : ¬ By (some ticket)) : w'.dispatchesOf ticket = w.dispatchesOf ticket := by
  obtain ⟨l, hl, hb⟩ := h.dispatches
  unfold Coordinator.dispatchesOf
  rw [hl, List.filter_append]
  have hnil : l.filter (fun d => d.ticket = ticket) = [] := by
    rw [List.filter_eq_nil_iff]
    intro d hd he
    exact hn (of_decide_eq_true he ▸ hb d hd)
  rw [hnil, List.append_nil]

theorem Grows.notesOf {w w' : Coordinator σ} (h : Grows By w w') {ticket : Nat}
    (hn : ¬ By (some ticket)) : w'.notesOf ticket = w.notesOf ticket := by
  obtain ⟨l, hl, hb⟩ := h.notes
  unfold Coordinator.notesOf
  rw [hl, List.filter_append]
  have hnil : l.filter (fun n => n.ticket = some ticket) = [] := by
    rw [List.filter_eq_nil_iff]
    intro n hn' he
    exact hn (of_decide_eq_true he ▸ hb n hn')
  rw [hnil, List.append_nil]

/-- What was noted for a call stays in the trace. -/
theorem Grows.notesOf_subset {w w' : Coordinator σ} (h : Grows By w w') (ticket : Nat) :
    w.notesOf ticket ⊆ w'.notesOf ticket := by
  obtain ⟨l, hl, -⟩ := h.notes
  unfold Coordinator.notesOf
  rw [hl, List.filter_append, List.map_append]
  exact List.subset_append_left _ _

end VoiceGateway.Coordinator
