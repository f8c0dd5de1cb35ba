import VoiceGateway.Proofs.Handshake.Change

/-!
# Who is subscribed

Every subscription belongs to a pending call, and `Task.holds` says to which: a move
that takes a stage with a subscription takes the subscription, and one that leaves the
stage gives it back. So a stream has at all times one subscriber for each call that
holds it, besides those that it has had from the beginning (`run_subscribers`).

What is published while a call holds an open stream is therefore delivered.

> `Reachable.delivered_state`, `Reachable.delivered_server`: an event that is published
> to a stream that a call holds goes to the end of what the stream has delivered.
-/

namespace VoiceGateway

/-- Whether a call is subscribed to a stream after it was run. -/
def Progress.holds : Progress → StreamName → Bool
  | .pending task, stream => task.holds stream
  | .ended _, _ => false

namespace Coordinator

variable {σ : Type} {T : Transport σ}

/-- The number of pending calls that are subscribed to a stream. -/
def holders (w : Coordinator σ) (stream : StreamName) : Nat :=
  w.calls.countP fun c => c.task.holds stream

/-! ## Single operations -/

theorem dispatch_subscribers (w : Coordinator σ) (ticket : Nat) (u : VoiceUpdate)
    (stream : StreamName) :
    (w.dispatch T ticket u).2.bus.subscribers stream = w.bus.subscribers stream :=
  EventBus.publishAll_subscribers stream _ _

theorem unsubscribe_subscribers (w : Coordinator σ) (stream : StreamName) {n : Nat}
    (h : w.bus.subscribers stream = n + 1) :
    (w.unsubscribe stream).bus.subscribers stream = n := by
  cases stream with
  | state => exact congrArg (· - 1) h
  | server => exact congrArg (· - 1) h

theorem unsubscribeBoth_subscribers (w : Coordinator σ) {stream : StreamName} {n : Nat}
    (h : w.bus.subscribers stream = n + 1) :
    w.unsubscribeBoth.bus.subscribers stream = n := by
  cases stream with
  | state => exact congrArg (· - 1) h
  | server => exact congrArg (· - 1) h

theorem evict_bus (w : Coordinator σ) (t : Option Nat) (g : Snowflake) :
    (w.evict t g).2.bus = w.bus := by
  unfold evict
  dsimp only
  split <;> rfl

theorem finishFailure_bus (w : Coordinator σ) (ticket : Nat) (g : Snowflake)
    (cause : JoinError) (refusal : Option TransportError) :
    (w.finishFailure ticket g cause refusal).2.bus = w.bus := by
  cases refusal with
  | none => exact evict_bus w _ g
  | some e => exact evict_bus w _ g

/-! ## Moves -/

/-- A move takes and gives back what the stages that it leads from and to hold. -/
theorem Move.subscribers {ticket : Nat} {w w' : Coordinator σ} {task : Task} {p : Progress}
    (h : Move T ticket w task p w') {stream : StreamName} {others : Nat}
    (hw : w.bus.subscribers stream = others + (task.holds stream).toNat) :
    w'.bus.subscribers stream = others + (p.holds stream).toNat := by
  cases h with
  | leave => exact (dispatch_subscribers w _ _ _).trans hw
  | left =>
    rw [evict_bus]
    exact hw
  | anonymous hit missing => exact hw
  | renew hit known =>
    refine (dispatch_subscribers _ _ _ _).trans ?_
    cases stream with
    | state => exact congrArg (· + 1) hw
    | server => exact hw
  | renewalRefused refused =>
    cases stream with
    | state => exact unsubscribe_subscribers w _ hw
    | server => exact hw
  | renewalAccepted accepted => cases stream <;> exact hw
  | unechoed => cases stream <;> exact hw
  | echoed =>
    cases stream with
    | state => exact unsubscribe_subscribers w _ hw
    | server => exact hw
  | echoClosed =>
    cases stream with
    | state => exact unsubscribe_subscribers w _ hw
    | server => exact hw
  | «open» miss =>
    refine (dispatch_subscribers _ _ _ _).trans ?_
    cases stream with
    | state => exact congrArg (· + 1) hw
    | server => exact congrArg (· + 1) hw
  | openingRefused refused => exact unsubscribeBoth_subscribers w hw
  | openingAccepted accepted known => exact hw
  | gather waits => exact hw
  | won met free => exact unsubscribeBoth_subscribers w hw
  | lost met taken => exact unsubscribeBoth_subscribers w hw
  | fail fails =>
    refine (dispatch_subscribers _ _ _ _).trans ?_
    cases fails with
    | selfIdMissing => exact unsubscribeBoth_subscribers w hw
    | streamClosed => exact unsubscribeBoth_subscribers w hw
    | expired => exact unsubscribeBoth_subscribers w hw
  | cleanedUp =>
    rw [finishFailure_bus]
    exact hw
  | watch =>
    cases stream with
    | state => exact hw
    | server => exact congrArg (· + 1) hw
  | unassigned => cases stream <;> exact hw
  | reassigned =>
    cases stream with
    | state => exact hw
    | server => exact unsubscribe_subscribers w _ hw
  | watchClosed =>
    cases stream with
    | state => exact hw
    | server => exact unsubscribe_subscribers w _ hw

theorem Moves.subscribers {ticket : Nat} {w w' : Coordinator σ} {task : Task} {p : Progress}
    (h : Moves T ticket w task p w') {stream : StreamName} {others : Nat}
    (hw : w.bus.subscribers stream = others + (task.holds stream).toNat) :
    w'.bus.subscribers stream = others + (p.holds stream).toNat := by
  induction h with
  | rest w task begun => exact hw
  | last move => exact move.subscribers hw
  | next move _ ih => exact ih (move.subscribers hw)

/-- Giving a call up gives back what it holds. -/
theorem withdraw_subscribers (w : Coordinator σ) {task : Task} {stream : StreamName}
    {others : Nat} (hw : w.bus.subscribers stream = others + (task.holds stream).toNat) :
    (w.withdraw task).bus.subscribers stream = others := by
  unfold withdraw
  dsimp only
  cases hs : task.holds .state with
  | true =>
    cases stream with
    | state =>
      rw [hs] at hw
      have h := unsubscribe_subscribers w .state hw
      cases task.holds .server <;> exact h
    | server =>
      cases hv : task.holds .server with
      | true =>
        rw [hv] at hw
        exact unsubscribe_subscribers (w.unsubscribe .state) .server hw
      | false =>
        rw [hv] at hw
        exact hw
  | false =>
    cases stream with
    | state =>
      rw [hs] at hw
      cases task.holds .server <;> exact hw
    | server =>
      cases hv : task.holds .server with
      | true =>
        rw [hv] at hw
        exact unsubscribe_subscribers w .server hw
      | false =>
        rw [hv] at hw
        exact hw

/-! ## Runs -/

/-- The holders of a stream among calls are one of them, perhaps, and some of the
others. -/
theorem countP_holds {calls : List Call} (nodup : (calls.map (·.ticket)).Nodup) {c : Call}
    (hc : c ∈ calls) (stream : StreamName) :
    calls.countP (fun x => x.task.holds stream) =
      (calls.filter fun x => x.ticket ≠ c.ticket).countP (fun x => x.task.holds stream) +
        (c.task.holds stream).toNat := by
  induction calls with
  | nil => exact absurd hc List.not_mem_nil
  | cons x calls ih =>
    rw [List.map_cons, List.nodup_cons] at nodup
    obtain ⟨hx, hrest⟩ := nodup
    rcases List.mem_cons.mp hc with rfl | hmem
    · have hall : (c :: calls).filter (fun x => x.ticket ≠ c.ticket) = calls := by
        rw [List.filter_cons_of_neg (by simp), List.filter_eq_self]
        intro y hy
        exact decide_eq_true fun he => hx (he ▸ List.mem_map_of_mem hy)
      rw [hall, List.countP_cons]
      cases c.task.holds stream <;> rfl
    · have hne : x.ticket ≠ c.ticket := fun he => hx (he ▸ List.mem_map_of_mem hmem)
      rw [List.filter_cons_of_pos (by simp [hne]), List.countP_cons, List.countP_cons,
        ih hrest hmem]
      omega

/-- The calls that hold a stream, one call set aside. -/
def holdersBeside (w : Coordinator σ) (ticket : Nat) (stream : StreamName) : Nat :=
  (w.calls.filter fun x => x.ticket ≠ ticket).countP fun x => x.task.holds stream

theorem Tidy.holders {w : Coordinator σ} (tidy : w.Tidy) {ticket : Nat} {c : Call}
    (found : w.call? ticket = some c) (stream : StreamName) :
    w.holders stream = w.holdersBeside ticket stream + (c.task.holds stream).toNat :=
  call?_ticket found ▸ countP_holds tidy.nodup (mem_calls_of_call? found) stream

/-- What becomes of a call does not touch the others. -/
theorem settle_others (w : Coordinator σ) (c : Call) (p : Progress) :
    (w.settle c p).calls.filter (fun y => y.ticket ≠ c.ticket) =
      w.calls.filter fun y => y.ticket ≠ c.ticket := by
  cases p with
  | pending task =>
    have hp : ((fun y : Call => decide (y.ticket ≠ c.ticket)) ∘
        fun y => if y.ticket = c.ticket then { c with task } else y) =
        fun y => decide (y.ticket ≠ c.ticket) := by
      funext y
      by_cases hy : y.ticket = c.ticket
      · simp [hy]
      · simp [hy]
    show (w.calls.map fun y => if y.ticket = c.ticket then { c with task } else y).filter _ = _
    rw [List.filter_map, hp]
    refine (List.map_congr_left fun y hy => ?_).trans (List.map_id _)
    exact if_neg (of_decide_eq_true (List.mem_filter.mp hy).2)
  | ended o =>
    show (w.calls.filter _).filter _ = _
    rw [List.filter_filter]
    simp

/-- What becomes of a call does not change which others hold a stream. -/
theorem settle_holders {w : Coordinator σ} (tidy : w.Tidy) {c x : Call}
    (found : w.call? c.ticket = some x) (p : Progress) (stream : StreamName) :
    (w.settle c p).holders stream =
      w.holdersBeside c.ticket stream + (p.holds stream).toNat := by
  cases p with
  | pending task =>
    have hcall := call?_settle_pending found task
    refine ((tidy.putCall { c with task }).holders hcall stream).trans ?_
    exact congrArg (· + (task.holds stream).toNat)
      (congrArg (List.countP _) (settle_others w c (.pending task)))
  | ended o => rfl

/-- A stream has one subscriber for each call that holds it, besides others. -/
def Subscribed (others : StreamName → Nat) (w : Coordinator σ) : Prop :=
  ∀ stream, w.bus.subscribers stream = others stream + w.holders stream

theorem Change.subscribed {others : StreamName → Nat} {a : Act σ} {w w' : Coordinator σ}
    (h : Change T a w w') (tidy : w.Tidy) (hw : w.Subscribed others) : w'.Subscribed others := by
  intro stream
  cases h with
  | @started _ ticket job patience unused =>
    show w.bus.subscribers stream = others stream + (w.calls ++ [_]).countP _
    rw [List.countP_append, hw stream]
    cases job <;> rfl
  | @ran _ w₁ _ c limit p act found moves =>
    have hown := hw stream
    rw [tidy.holders found, ← Nat.add_assoc] at hown
    have hbus : (w₁.settle { c with limit } p).bus = w₁.bus := by
      cases p <;> rfl
    have hbeside : w₁.holdersBeside c.ticket stream = w.holdersBeside c.ticket stream :=
      congrArg (fun calls => (List.filter _ calls).countP _) moves.calls.1
    have hfound : w₁.call? c.ticket = some c := (call?_congr moves.calls.1 _).trans found
    rw [hbus, moves.subscribers hown, settle_holders (c := { c with limit })
      (tidy.congr moves.calls.1 moves.calls.2) hfound, hbeside, Nat.add_assoc]
  | @gaveUp _ _ c o act found outside =>
    have hown := hw stream
    rw [tidy.holders found, ← Nat.add_assoc] at hown
    have hcalls : (w.abandon c o).holders stream = w.holdersBeside c.ticket stream := by
      rw [abandon_eq, withdraw_eq]
      rfl
    rw [hcalls]
    exact withdraw_subscribers w hown
  | registered => exact hw stream
  | evicted =>
    rw [evict_bus]
    unfold holders
    rw [(evict_calls w _ _).1]
    exact hw stream
  | surroundings act grown same => exact (same stream).trans (hw stream)

/-- A stream has one subscriber for each call that holds it, besides those that it has
had from the beginning. -/
theorem run_subscribers (line : σ) (identity : Identity) (bus : EventBus)
    (acts : List (Act σ)) (stream : StreamName) :
    (run T { line, identity, bus } acts).bus.subscribers stream =
      bus.subscribers stream + (run T { line, identity, bus } acts).holders stream := by
  have h : (run T { line, identity, bus } acts).Tidy ∧
      (run T { line, identity, bus } acts).Subscribed bus.subscribers :=
    run_preserves (P := fun w => w.Tidy ∧ w.Subscribed bus.subscribers)
      (fun _ _ _ _ hc hw => ⟨hc.tidy hw.1, hc.subscribed hw.1 hw.2⟩)
      ⟨tidy_init line identity bus, fun _ => rfl⟩
  exact h.2 stream

/-! ## Delivery -/

/-- A stream that a call holds has a subscriber. -/
theorem Reachable.subscribers_ne_zero {w : Coordinator σ} (h : Reachable T w) {ticket : Nat}
    {c : Call} (call : w.call? ticket = some c) {stream : StreamName}
    (holds : c.task.holds stream = true) : w.bus.subscribers stream ≠ 0 := by
  have hmem := mem_calls_of_call? call
  obtain ⟨line, identity, bus, acts, rfl⟩ := h
  rw [run_subscribers]
  have hpos : 0 < (Coordinator.run T { line, identity, bus } acts).holders stream :=
    List.countP_pos_iff.mpr ⟨c, hmem, (holds : c.task.holds stream = true)⟩
  omega

/-- What is published to an open state stream while a call holds it is delivered. -/
theorem Reachable.delivered_state {w : Coordinator σ} (h : Reachable T w) {ticket : Nat}
    {c : Call} (call : w.call? ticket = some c) (holds : c.task.holds .state = true)
    (opened : w.bus.states.closed = false) (e : StateEvent) :
    (w.step T (.publish (.state e))).bus.states.history = w.bus.states.history ++ [e] := by
  have hne : w.bus.states.subscribers ≠ 0 := h.subscribers_ne_zero call holds
  show (w.bus.states.publish e).2.history = _
  unfold Stream.publish
  rw [if_neg (by simp [opened]), if_neg hne]

/-- What is published to an open server stream while a call holds it is delivered. -/
theorem Reachable.delivered_server {w : Coordinator σ} (h : Reachable T w) {ticket : Nat}
    {c : Call} (call : w.call? ticket = some c) (holds : c.task.holds .server = true)
    (opened : w.bus.servers.closed = false) (v : ServerEvent) :
    (w.step T (.publish (.server v))).bus.servers.history = w.bus.servers.history ++ [v] := by
  have hne : w.bus.servers.subscribers ≠ 0 := h.subscribers_ne_zero call holds
  show (w.bus.servers.publish v).2.history = _
  unfold Stream.publish
  rw [if_neg (by simp [opened]), if_neg hne]

end Coordinator

end VoiceGateway
