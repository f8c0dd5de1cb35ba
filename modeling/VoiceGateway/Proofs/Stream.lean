import VoiceGateway.EventBus

/-!
# What streams keep

Whatever is done with a stream, its window stays as wide as it is, the events that
were delivered stay in their places, and a stream that has ended does not begin
again (`Stream.Grows`). Events from outside do not change who is subscribed.

> `publishAll_grows`, `publishAll_subscribers`: a burst of events adds to the
> streams and to nothing else.
> `Stream.find?_heard_of_grows`: the first match among the events since a cursor
> stays the first one.
> `Stream.receive_of_heard`: a cursor that keeps up is given one event after the other.
-/

namespace VoiceGateway

namespace Stream

variable {α : Type}

/-- A stream later on: more events may have been delivered, and it may have ended. -/
structure Grows (s s' : Stream α) : Prop where
  window : s'.window = s.window
  history : s.history <+: s'.history
  closed : s.closed = true → s'.closed = true
  /-- A stream that has ended delivers nothing more. -/
  ended : s.closed = true → s'.history = s.history

theorem grows_refl (s : Stream α) : Grows s s :=
  ⟨rfl, List.prefix_rfl, id, fun _ => rfl⟩

theorem grows_trans {s₁ s₂ s₃ : Stream α} (h₁ : Grows s₁ s₂) (h₂ : Grows s₂ s₃) :
    Grows s₁ s₃ :=
  ⟨h₂.window.trans h₁.window, h₁.history.trans h₂.history, fun h => h₂.closed (h₁.closed h),
    fun h => (h₂.ended (h₁.closed h)).trans (h₁.ended h)⟩

theorem subscribe_grows (s : Stream α) : Grows s s.subscribe.2 :=
  ⟨rfl, List.prefix_rfl, id, fun _ => rfl⟩

theorem unsubscribe_grows (s : Stream α) : Grows s s.unsubscribe :=
  ⟨rfl, List.prefix_rfl, id, fun _ => rfl⟩

theorem close_grows (s : Stream α) : Grows s s.close :=
  ⟨rfl, List.prefix_rfl, fun _ => rfl, fun _ => rfl⟩

theorem publish_grows (s : Stream α) (e : α) : Grows s (s.publish e).2 := by
  unfold publish
  split
  · exact grows_refl s
  · next hopen =>
    split
    · exact grows_refl s
    · exact ⟨rfl, List.prefix_append .., id, fun h => absurd h hopen⟩

theorem publish_subscribers (s : Stream α) (e : α) :
    (s.publish e).2.subscribers = s.subscribers := by
  unfold publish
  split
  · rfl
  · split <;> rfl

theorem publish_closed (s : Stream α) (e : α) : (s.publish e).2.closed = s.closed := by
  unfold publish
  split
  · rfl
  · split <;> rfl

/-- An event that somebody waits for is added to those that were delivered. -/
theorem publish_delivered {s : Stream α} (opened : s.closed = false) (waited : s.subscribers ≠ 0)
    (e : α) : (s.publish e).2 = { s with history := s.history ++ [e] } := by
  unfold publish
  rw [if_neg (by simp [opened]), if_neg waited]

/-- The events that were delivered after the first `n`. -/
def heard (s : Stream α) (n : Nat) : List α := s.history.drop n

/-- The first match since a cursor stays the first one. -/
theorem find?_heard_of_grows {s s' : Stream α} (h : Grows s s') {n : Nat} {p : α → Bool} {e : α}
    (he : (s.heard n).find? p = some e) : (s'.heard n).find? p = some e := by
  obtain ⟨l, hl⟩ := h.history
  unfold heard at he ⊢
  rw [← hl, List.drop_append, List.find?_append, he]
  rfl

/-- A stream that has ended without a match never has one. -/
theorem find?_heard_of_ended {s s' : Stream α} (h : Grows s s') (hc : s.closed = true)
    {n : Nat} {p : α → Bool} (he : (s.heard n).find? p = none) :
    (s'.heard n).find? p = none := by
  unfold heard at he ⊢
  rw [h.ended hc]
  exact he

/-- A cursor that is not behind the window gets what is next. -/
theorem receive_of_heard {s : Stream α} {c : Cursor} {e : α} {rest : List α}
    (near : s.windowStart ≤ c.passed) (h : s.heard c.passed = e :: rest) :
    s.receive c = (.event e, ⟨c.passed + 1⟩) ∧ s.heard (c.passed + 1) = rest := by
  unfold heard at h ⊢
  have hget : s.history[c.passed]? = some e := by
    rw [← List.head?_drop, h]
    rfl
  constructor
  · unfold receive
    rw [if_neg (by omega), hget]
  · rw [← List.drop_drop, h]
    rfl

/-- A cursor with nothing before it stays where it is. -/
theorem receive_of_heard_nil {s : Stream α} {c : Cursor} (near : s.windowStart ≤ c.passed)
    (h : s.heard c.passed = []) : s.receive c = (if s.closed then .closed else .nothing, c) := by
  have hget : s.history[c.passed]? = none :=
    List.getElem?_eq_none_iff.mpr (List.drop_eq_nil_iff.mp h)
  unfold receive
  rw [if_neg (by omega), hget]

end Stream

namespace EventBus

/-- The number of subscriptions to a stream. -/
def subscribers (b : EventBus) : StreamName → Nat
  | .state => b.states.subscribers
  | .server => b.servers.subscribers

/-- A bus later on. -/
structure Grows (b b' : EventBus) : Prop where
  states : b.states.Grows b'.states
  servers : b.servers.Grows b'.servers

theorem grows_refl (b : EventBus) : Grows b b :=
  ⟨Stream.grows_refl _, Stream.grows_refl _⟩

theorem grows_trans {b₁ b₂ b₃ : EventBus} (h₁ : Grows b₁ b₂) (h₂ : Grows b₂ b₃) :
    Grows b₁ b₃ :=
  ⟨Stream.grows_trans h₁.states h₂.states, Stream.grows_trans h₁.servers h₂.servers⟩

theorem unsubscribe_grows (b : EventBus) (stream : StreamName) :
    Grows b (b.unsubscribe stream) := by
  cases stream with
  | state => exact ⟨Stream.unsubscribe_grows _, Stream.grows_refl _⟩
  | server => exact ⟨Stream.grows_refl _, Stream.unsubscribe_grows _⟩

theorem close_grows (b : EventBus) (stream : StreamName) : Grows b (b.close stream) := by
  cases stream with
  | state => exact ⟨Stream.close_grows _, Stream.grows_refl _⟩
  | server => exact ⟨Stream.grows_refl _, Stream.close_grows _⟩

theorem close_subscribers (b : EventBus) (stream other : StreamName) :
    (b.close stream).subscribers other = b.subscribers other := by
  cases stream <;> cases other <;> rfl

theorem publish_grows (b : EventBus) (e : GatewayEvent) : Grows b (b.publish e).2 := by
  cases e with
  | state e => exact ⟨Stream.publish_grows _ e, Stream.grows_refl _⟩
  | server e => exact ⟨Stream.grows_refl _, Stream.publish_grows _ e⟩

theorem publish_subscribers (b : EventBus) (e : GatewayEvent) (stream : StreamName) :
    (b.publish e).2.subscribers stream = b.subscribers stream := by
  cases e with
  | state e =>
    cases stream with
    | state => exact Stream.publish_subscribers _ e
    | server => rfl
  | server e =>
    cases stream with
    | state => rfl
    | server => exact Stream.publish_subscribers _ e

theorem publishAll_grows : ∀ (es : List GatewayEvent) (b : EventBus), Grows b (b.publishAll es).2
  | [], b => grows_refl b
  | e :: es, b => grows_trans (publish_grows b e) (publishAll_grows es _)

theorem publishAll_subscribers (stream : StreamName) :
    ∀ (es : List GatewayEvent) (b : EventBus),
      (b.publishAll es).2.subscribers stream = b.subscribers stream
  | [], _ => rfl
  | e :: es, b => (publishAll_subscribers stream es _).trans (publish_subscribers b e stream)

end EventBus

end VoiceGateway
