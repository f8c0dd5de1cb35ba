import VoiceGateway.Proofs.Handshake.Audience
import VoiceGateway.Proofs.Handshake.Convergence

/-!
# What the trace adds up to

Where sessions enter the registry through joins only, the trace shows whether a guild
has one: every handshake that completes registers a session or notes that it came too
late, and what an eviction takes out it notes (`Balanced`).

For one join the trace is a sentence of fixed form. It begins with the lookup. A
handshake that was begun and not refused ends in one of two ways: it completes, perhaps
too late, or it fails, with the evictions and the refused leave of its cleanup after
(`Resolved`).

> `Reachable.regrets`: whoever notes a refused leave is a join that has failed.
> `trace_accounting`: both, for every run.
-/

namespace VoiceGateway

namespace TraceEvent

/-- Whether an event tells that a join has looked its guild up. -/
def requests : TraceEvent → Bool
  | .joinRequested .. => true
  | _ => false

/-- Whether an event tells that the session of a guild was evicted. -/
def evicts (g : Snowflake) : TraceEvent → Bool
  | .sessionEvicted g' => g' = g
  | _ => false

/-- Whether an event tells that the leave of a cleanup was refused. -/
def regrets : TraceEvent → Bool
  | .cleanupFailed .. => true
  | _ => false

end TraceEvent

namespace Coordinator

variable {σ : Type} {T : Transport σ} {ticket : Nat} {g : Snowflake}

/-! ## The balance of a guild -/

/-- How many events of a kind the trace shows. -/
def tally (w : Coordinator σ) (kind : TraceEvent → Bool) : Nat :=
  w.notes.countP fun n => kind n.event

/-- Of the handshakes of a guild that have completed, those that neither came too late
nor were evicted are the session that the guild has. -/
def Balanced (g : Snowflake) (w : Coordinator σ) : Prop :=
  w.tally (·.completes g) =
    w.tally (·.loses g) + w.tally (·.evicts g) + (w.registry.get? g).isSome.toNat

theorem tally_note (w : Coordinator σ) (t : Option Nat) (e : TraceEvent)
    (kind : TraceEvent → Bool) : (w.note t e).tally kind = w.tally kind + (kind e).toNat := by
  show (w.notes ++ [_]).countP _ = _
  rw [List.countP_append, List.countP_singleton]
  cases kind e <;> simp [tally]

theorem Balanced.congr {w w' : Coordinator σ} (h : Balanced g w) (notes : w'.notes = w.notes)
    (registry : w'.registry.get? g = w.registry.get? g) : Balanced g w' := by
  unfold Balanced tally at h ⊢
  rw [notes, registry]
  exact h

/-- An event of another kind does not count. -/
theorem Balanced.note {w : Coordinator σ} (h : Balanced g w) (t : Option Nat) {e : TraceEvent}
    (other : (e.completes g || e.loses g || e.evicts g) = false) : Balanced g (w.note t e) := by
  obtain ⟨⟨hc, hl⟩, he⟩ : (e.completes g = false ∧ e.loses g = false) ∧ e.evicts g = false := by
    simpa using other
  unfold Balanced at h ⊢
  rw [tally_note, tally_note, tally_note, hc, hl, he]
  exact h

theorem Balanced.evict {w : Coordinator σ} (h : Balanced g w) (t : Option Nat) (g' : Snowflake) :
    Balanced g (w.evict t g').2 := by
  cases hs : w.registry.get? g' with
  | none =>
    refine h.congr ?_ ?_
    · unfold Coordinator.evict
      rw [Registry.evict_of_none hs]
      rfl
    · rw [evict_registry, Registry.evict_of_none hs]
  | some s =>
    have he : (w.evict t g').2 =
        Coordinator.note { w with registry := (w.registry.evict g').2 } t (.sessionEvicted g') := by
      unfold Coordinator.evict
      rw [Registry.evict_of_some hs]
      rfl
    rw [he]
    by_cases hg : g' = g
    · subst hg
      have hgone : (w.registry.evict g').2.get? g' = none := by
        rw [Registry.get?_evict, if_pos rfl]
      unfold Balanced at h ⊢
      rw [hs] at h
      rw [tally_note, tally_note, tally_note]
      show w.tally (·.completes g') + 0 = w.tally (·.loses g') + 0 +
        (w.tally (·.evicts g') + (decide (g' = g')).toNat) +
          ((w.registry.evict g').2.get? g').isSome.toNat
      rw [hgone, h, decide_eq_true rfl]
      exact Nat.add_assoc ..
    · have hkept : Balanced g { w with registry := (w.registry.evict g').2 } :=
        h.congr rfl (Registry.get?_evict_of_ne hg)
      exact hkept.note t (by simp [TraceEvent.completes, TraceEvent.loses, TraceEvent.evicts, hg])

/-- A handshake that completes registers its session where the guild has none. -/
theorem Balanced.won {w : Coordinator σ} (h : Balanced g w) {x : Session}
    (free : w.registry.get? x.guild = none) :
    Balanced g ((w.confirm ticket x).tryRegister x).2 := by
  by_cases hg : x.guild = g
  · subst hg
    have hreg : (w.registry.tryRegister x).2.get? x.guild = some w.registry.nextRef :=
      Registry.get?_tryRegister_of_none free
    unfold Balanced at h ⊢
    rw [free] at h
    show (w.confirm ticket x).tally _ = (w.confirm ticket x).tally _ +
      (w.confirm ticket x).tally _ + ((w.registry.tryRegister x).2.get? x.guild).isSome.toNat
    unfold confirm
    rw [hreg, tally_note, tally_note, tally_note]
    show w.tally (·.completes x.guild) + (decide (x.guild = x.guild)).toNat =
      w.tally (·.loses x.guild) + 0 + (w.tally (·.evicts x.guild) + 0) + 1
    rw [h]
    simp
  · have hreg : (w.registry.tryRegister x).2.get? g = w.registry.get? g :=
      Registry.get?_tryRegister_of_ne hg
    have hboth : Balanced g w.unsubscribeBoth := h.congr rfl rfl
    have hnoted : Balanced g (w.confirm ticket x) :=
      hboth.note _ (by simp [TraceEvent.completes, TraceEvent.loses, TraceEvent.evicts, hg])
    exact hnoted.congr rfl hreg

/-- A handshake that completes notes that it came too late where the guild has one. -/
theorem Balanced.lost {w : Coordinator σ} (h : Balanced g w) (x : Session) :
    Balanced g ((w.confirm ticket x).note (some ticket) (.raceLost x.guild)) := by
  unfold Balanced confirm at *
  rw [tally_note, tally_note, tally_note, tally_note, tally_note, tally_note]
  show w.tally (·.completes g) + (decide (x.guild = g)).toNat + 0 =
    w.tally (·.loses g) + 0 + (decide (x.guild = g)).toNat + (w.tally (·.evicts g) + 0 + 0) +
      (w.registry.get? g).isSome.toNat
  rw [h]
  omega

theorem Move.balanced {w w' : Coordinator σ} {task : Task} {p : Progress}
    (h : Move T ticket w task p w') (hw : Balanced g w) : Balanced g w' := by
  have looked : ∀ q, Balanced g (w.lookUp T ticket q) := fun q => hw.note _ rfl
  cases h with
  | left => exact hw.evict _ _
  | @anonymous q => exact looked q
  | @renew q => exact (looked q).congr rfl rfl
  | @«open» q => exact (looked q).congr rfl rfl
  | won met free => exact hw.won (x := sessionOf T _ _ _ _) free
  | lost met taken => exact hw.lost (sessionOf T _ _ _ _)
  | fail fails =>
    refine Balanced.congr (w := w.unsubscribeBoth.note _ _) ?_ rfl rfl
    exact Balanced.note (hw.congr rfl rfl) _ rfl
  | @cleanedUp _ cause f =>
    cases hr : f.refusal with
    | none => exact hw.evict _ _
    | some e => exact (hw.evict _ _).note _ rfl
  | _ => exact hw.congr rfl rfl

theorem Moves.balanced {w w' : Coordinator σ} {task : Task} {p : Progress}
    (h : Moves T ticket w task p w') (hw : Balanced g w) : Balanced g w' := by
  induction h with
  | rest w task begun => exact hw
  | last move => exact move.balanced hw
  | next move _ ih => exact ih (move.balanced hw)

/-- Only to register a session from outside upsets the balance. -/
theorem Change.balanced {a : Act σ} {w w' : Coordinator σ} (h : Change T a w w')
    (inside : ∀ x, a ≠ .register x) (hw : Balanced g w) : Balanced g w' := by
  cases h with
  | started => exact hw.congr rfl rfl
  | @ran _ _ _ _ _ p act found moves =>
    have hm := moves.balanced hw
    cases p <;> exact hm.congr rfl rfl
  | gaveUp act found outside =>
    rw [abandon_eq, withdraw_eq]
    exact hw.congr rfl rfl
  | registered => exact absurd rfl (inside _)
  | evicted => exact hw.evict _ _
  | surroundings => exact hw.congr rfl rfl

theorem run_balanced (line : σ) (identity : Identity) (bus : EventBus) {acts : List (Act σ)}
    (joined : ∀ x, .register x ∉ acts) (g : Snowflake) :
    Balanced g (run T { line, identity, bus } acts) :=
  run_preserves (fun _ ha _ _ hc => hc.balanced fun x he => joined x (he ▸ ha)) rfl

/-! ## The leave of a cleanup -/

/-- The refusal of the leave that was sent for a call, if it was refused. -/
def leaveRefusalOf (w : Coordinator σ) (ticket : Nat) : Option TransportError :=
  ((w.dispatchesOf ticket).find? (·.command.update.isLeave)).bind (·.reply.refusal)

theorem leaveRefusalOf_congr {w w' : Coordinator σ}
    (h : w'.dispatchesOf ticket = w.dispatchesOf ticket) :
    w'.leaveRefusalOf ticket = w.leaveRefusalOf ticket := by
  unfold leaveRefusalOf
  rw [h]

theorem leaveRefusalOf_sendLeave {w : Coordinator σ} (stays : ¬ w.HasLeft ticket)
    (q : JoinRequest) (cause : JoinError) :
    (w.sendLeave T ticket q cause).2.leaveRefusalOf ticket =
      (w.sendLeave T ticket q cause).1.refusal := by
  have hnone : (w.dispatchesOf ticket).find? (·.command.update.isLeave) = none :=
    List.find?_eq_none.mpr fun d hd hl => stays ⟨d, hd, hl⟩
  unfold leaveRefusalOf
  rw [dispatchesOf_sendLeave, List.find?_append, hnone]
  rfl

/-- No leave was sent for a join before its cleanup, and a cleanup waits for the answer to
its leave. -/
structure Answering (ticket : Nat) (w : Coordinator σ) (task : Task) : Prop where
  parting : w.HasLeft ticket → Parting task
  reply : ∀ q cause f, task = .join q (.leaving cause f) → w.leaveRefusalOf ticket = f.refusal

theorem Answering.congr {w w' : Coordinator σ} {task : Task} (h : Answering ticket w task)
    (hd : w'.dispatchesOf ticket = w.dispatchesOf ticket) : Answering ticket w' task where
  parting left := h.parting (by
    unfold HasLeft at left ⊢
    rw [← hd]
    exact left)
  reply q cause f he := (leaveRefusalOf_congr hd).trans (h.reply q cause f he)

theorem Silent.answering {w : Coordinator σ} (h : w.Silent ticket) {task : Task}
    (waits : task.begun = false) : Answering ticket w task where
  parting := by
    rintro ⟨d, hd, -⟩
    rw [h.1] at hd
    exact absurd hd List.not_mem_nil
  reply q cause f he := absurd (he ▸ waits) (by simp [Task.begun])

theorem Move.answering {w w' : Coordinator σ} {task task' : Task}
    (h : Move T ticket w task (.pending task') w') (hw : Answering ticket w task) :
    Answering ticket w' task' := by
  refine ⟨h.parting hw.parting, fun q cause f he => ?_⟩
  cases h with
  | @fail _ stage _ fails =>
    injection he with hq he
    injection he with hcause hf
    subst hq hcause hf
    refine leaveRefusalOf_sendLeave (fun left => ?_) _ _
    -- A join that fails has not come to its cleanup yet.
    have hparting := hw.parting left
    cases fails <;> exact hparting
  | _ => exact absurd he (by simp)

/-! ## Who notes a refused leave -/

/-- No refused leave was noted for a call. -/
def Unregretted (ticket : Nat) (w : Coordinator σ) : Prop :=
  ∀ e ∈ w.notesOf ticket, e.regrets = false

/-- If a refused leave was noted for a call, it has failed and its leave was refused so. -/
def Regretted (ticket : Nat) (w : Coordinator σ) (o : Outcome) : Prop :=
  ∀ g error, .cleanupFailed g error ∈ w.notesOf ticket →
    (∃ cause, o = .joinFailed cause) ∧
      ∃ e, w.leaveRefusalOf ticket = some e ∧ error = e.message

theorem Unregretted.regretted {w : Coordinator σ} (h : w.Unregretted ticket) (o : Outcome) :
    w.Regretted ticket o :=
  fun g error he => absurd (h _ he) (by simp [TraceEvent.regrets])

theorem Unregretted.note {w : Coordinator σ} (h : w.Unregretted ticket) {e : TraceEvent}
    (he : e.regrets = false) : (w.note (some ticket) e).Unregretted ticket := by
  intro x hx
  rw [notesOf_note] at hx
  rcases List.mem_append.mp hx with hold | hnew
  · exact h x hold
  · rw [List.mem_singleton.mp hnew]
    exact he

/-- What an eviction notes. -/
def evictionOf (g : Snowflake) (had : Option SessionRef) : List TraceEvent :=
  if had.isSome then [.sessionEvicted g] else []

theorem notesOf_evict (w : Coordinator σ) (ticket : Nat) (g : Snowflake) :
    (w.evict (some ticket) g).2.notesOf ticket =
      w.notesOf ticket ++ evictionOf g (w.registry.get? g) := by
  unfold evict evictionOf
  cases hs : w.registry.get? g with
  | none =>
    rw [Registry.evict_of_none hs]
    exact (List.append_nil _).symm
  | some s =>
    rw [Registry.evict_of_some hs]
    exact notesOf_note { w with registry := _ } ticket _

/-- What a cleanup notes about its leave. -/
def regretOf (g : Snowflake) (refusal : Option TransportError) : List TraceEvent :=
  refusal.toList.map fun e => .cleanupFailed g e.message

theorem notesOf_finishFailure (w : Coordinator σ) (ticket : Nat) (g : Snowflake)
    (cause : JoinError) (refusal : Option TransportError) :
    (w.finishFailure ticket g cause refusal).2.notesOf ticket =
      w.notesOf ticket ++ evictionOf g (w.registry.get? g) ++ regretOf g refusal := by
  cases refusal with
  | none =>
    refine (notesOf_evict w ticket g).trans ?_
    exact (List.append_nil _).symm
  | some e =>
    refine (notesOf_note (w.evict (some ticket) g).2 ticket _).trans ?_
    rw [notesOf_evict]
    rfl

theorem Unregretted.evict {w : Coordinator σ} (h : w.Unregretted ticket) (g : Snowflake) :
    (w.evict (some ticket) g).2.Unregretted ticket := by
  intro e he
  rw [notesOf_evict] at he
  rcases List.mem_append.mp he with hold | hnew
  · exact h e hold
  · unfold evictionOf at hnew
    split at hnew
    · rw [List.mem_singleton.mp hnew]
      rfl
    · exact absurd hnew List.not_mem_nil

theorem dispatchesOf_finishFailure (w : Coordinator σ) (g : Snowflake) (cause : JoinError)
    (refusal : Option TransportError) :
    (w.finishFailure ticket g cause refusal).2.dispatchesOf ticket = w.dispatchesOf ticket := by
  unfold dispatchesOf
  rw [finishFailure_dispatches]

theorem Unregretted.congr {w w' : Coordinator σ} (h : w.Unregretted ticket)
    (hn : w'.notesOf ticket = w.notesOf ticket) : w'.Unregretted ticket := by
  intro e he
  rw [hn] at he
  exact h e he

/-- Only the end of a cleanup may note a refused leave. -/
theorem Move.unregretted {w w' : Coordinator σ} {task : Task} {p : Progress}
    (h : Move T ticket w task p w') (hw : w.Unregretted ticket)
    (other : ∀ q cause f, p = .ended (.joinFailed cause) → task ≠ .join q (.leaving cause f)) :
    w'.Unregretted ticket := by
  have looked : ∀ q, (w.lookUp T ticket q).Unregretted ticket := fun q => hw.note rfl
  cases h with
  | left => exact hw.evict _
  | @anonymous q => exact looked q
  | @renew q => exact looked q
  | @«open» q => exact looked q
  | won met free => exact hw.note (w := w.unsubscribeBoth) rfl
  | lost met taken => exact Unregretted.note (hw.note (w := w.unsubscribeBoth) rfl) rfl
  | fail fails => exact hw.note (w := w.unsubscribeBoth) rfl
  | @cleanedUp q cause f => exact absurd rfl (other q cause f rfl)
  | _ => exact hw

theorem Move.regretted {w w' : Coordinator σ} {task : Task} {o : Outcome}
    (h : Move T ticket w task (.ended o) w') (hw : w.Unregretted ticket)
    (answering : Answering ticket w task) : w'.Regretted ticket o := by
  cases h with
  | @cleanedUp q cause f =>
    intro g error he
    rw [notesOf_finishFailure] at he
    refine ⟨⟨cause, rfl⟩, ?_⟩
    have hreply : (w.finishFailure ticket q.guild cause f.refusal).2.leaveRefusalOf ticket =
        f.refusal :=
      (leaveRefusalOf_congr (dispatchesOf_finishFailure w q.guild cause f.refusal)).trans
        (answering.reply q cause f rfl)
    rcases List.mem_append.mp he with hearlier | hregret
    · have hevict : ((w.evict (some ticket) q.guild).2).Unregretted ticket := hw.evict _
      rw [← notesOf_evict] at hearlier
      exact absurd (hevict _ hearlier) (by simp [TraceEvent.regrets])
    · obtain ⟨e, hmem, hev⟩ := List.mem_map.mp hregret
      injection hev with hg herror
      exact ⟨e, hreply.trans (Option.mem_toList.mp hmem), herror.symm⟩
  | left => exact (hw.evict _).regretted _
  | anonymous hit missing => exact (Unregretted.note hw rfl).regretted _
  | won met free => exact (hw.note (w := w.unsubscribeBoth) rfl).regretted _
  | lost met taken =>
    exact (Unregretted.note (hw.note (w := w.unsubscribeBoth) rfl) rfl).regretted _
  | _ => exact hw.regretted _

theorem regret_untouched : Untouched ticket
    (fun (w : Coordinator σ) task => w.Unregretted ticket ∧ Answering ticket w task)
    (Regretted ticket) where
  pending h hw := ⟨hw.1.congr h.notes, hw.2.congr h.dispatches⟩
  finished h hw g error he := by
    rw [leaveRefusalOf_congr h.dispatches]
    exact hw g error (h.notes ▸ he)

theorem regret_carried : Carried T ticket
    (fun (w : Coordinator σ) task => w.Unregretted ticket ∧ Answering ticket w task)
    (Regretted ticket) :=
  regret_untouched.carried
    (fun h hw => ⟨h.unregretted hw.1 fun _ _ _ he => absurd he (by simp), h.answering hw.2⟩)
    (fun h hw => h.regretted hw.1 hw.2) fun _ hw => hw.1.regretted _

/-- A refused leave is noted in the name of a call. -/
theorem Change.regrets {a : Act σ} {w w' : Coordinator σ} (h : Change T a w w')
    (hw : ∀ n ∈ w.notes, n.event.regrets = true → n.ticket ≠ none) :
    ∀ n ∈ w'.notes, n.event.regrets = true → n.ticket ≠ none := by
  intro n hn hr
  cases ha : a.ticket? with
  | some t =>
    obtain ⟨l, hl, hby⟩ := h.grows.notes
    rw [hl] at hn
    rcases List.mem_append.mp hn with hold | hnew
    · exact hw n hold hr
    · rw [hby n hnew, ha]
      simp
  | none =>
    cases h with
    | @evicted _ g =>
      unfold evict at hn
      dsimp only at hn
      split at hn
      · rcases List.mem_append.mp hn with hold | hnew
        · exact hw n hold hr
        · rw [List.mem_singleton.mp hnew] at hr
          exact absurd hr (by simp [TraceEvent.regrets])
      · exact hw n hn hr
    | started => exact absurd ha (by simp [Act.ticket?])
    | ran _ act => exact absurd ((Act.ticket?_of_runs act).symm.trans ha) (by simp)
    | gaveUp act => exact absurd (act.symm.trans ha) (by simp)
    | _ => exact hw n hn hr

/-- Whoever notes a refused leave is a join that has failed and whose leave was refused
so. -/
theorem Reachable.regrets {w : Coordinator σ} (h : Reachable T w) {n : Note} (hn : n ∈ w.notes)
    {error : String} (he : n.event = .cleanupFailed g error) :
    ∃ ticket cause e, n.ticket = some ticket ∧ w.outcome? ticket = some (.joinFailed cause) ∧
      w.leaveRefusalOf ticket = some e ∧ error = e.message := by
  have hnamed : n.ticket ≠ none := by
    refine h.induct (P := fun w => ∀ n ∈ w.notes, n.event.regrets = true → n.ticket ≠ none)
      (fun _ _ _ n hn => absurd hn List.not_mem_nil) (fun hc hw => hc.regrets hw) n hn ?_
    rw [he]
    rfl
  obtain ⟨ticket, ht⟩ := Option.ne_none_iff_exists'.mp hnamed
  have hmem : .cleanupFailed g error ∈ w.notesOf ticket :=
    List.mem_map.mpr ⟨n, List.mem_filter.mpr ⟨hn, decide_eq_true ht⟩, he⟩
  obtain ⟨line, identity, bus, acts, rfl⟩ := h
  have hfollowed := run_followed (F := Silent ticket) (T := T) regret_carried regret_untouched
    Change.silent
    (fun job hs => ⟨fun e he => absurd (hs.2 ▸ he) List.not_mem_nil,
      hs.answering (by cases job <;> rfl)⟩)
    (tidy_init line identity bus) (Or.inl ⟨rfl, rfl, rfl⟩) acts
  rcases hfollowed with ⟨-, hs⟩ | hcourse
  · rw [hs.2] at hmem
    exact absurd hmem List.not_mem_nil
  · cases hcourse with
    | pending found holds => exact absurd (holds.1 _ hmem) (by simp [TraceEvent.regrets])
    | finished ended holds =>
      obtain ⟨⟨cause, rfl⟩, e, hleave, herror⟩ := holds g error hmem
      exact ⟨ticket, cause, e, ht, ended, hleave, herror⟩

/-! ## The sentence of a join -/

/-- The trace of a join begins with its lookup and has no other. -/
def Opened (T : Transport σ) (ticket : Nat) (q : JoinRequest) (found : Option SessionRef)
    (w : Coordinator σ) : Prop :=
  ∃ rest, w.notesOf ticket = requested T q found :: rest ∧ ∀ e ∈ rest, e.requests = false

variable {q : JoinRequest} {found : Option SessionRef} {me : Option Snowflake}

theorem Opened.append {w w' : Coordinator σ} (h : Opened T ticket q found w)
    {l : List TraceEvent} (hl : w'.notesOf ticket = w.notesOf ticket ++ l)
    (others : ∀ e ∈ l, e.requests = false) : Opened T ticket q found w' := by
  obtain ⟨rest, hr, hrest⟩ := h
  refine ⟨rest ++ l, ?_, fun e he => ?_⟩
  · rw [hl, hr]
    rfl
  · rcases List.mem_append.mp he with hold | hnew
    · exact hrest e hold
    · exact others e hnew

theorem evictionOf_requests (g : Snowflake) (had : Option SessionRef) :
    ∀ e ∈ evictionOf g had, e.requests = false := by
  intro e he
  unfold evictionOf at he
  split at he
  · rw [List.mem_singleton.mp he]
    rfl
  · exact absurd he List.not_mem_nil

theorem regretOf_requests (g : Snowflake) (refusal : Option TransportError) :
    ∀ e ∈ regretOf g refusal, e.requests = false := by
  intro e he
  obtain ⟨x, -, rfl⟩ := List.mem_map.mp he
  rfl

/-- The first run of a join notes its lookup. -/
theorem Move.opens {w w' : Coordinator σ} {p : Progress}
    (h : Move T ticket w (.join q .fresh) p w') (silent : w.Silent ticket) :
    Opened T ticket q (w.registry.get? q.guild) w' := by
  have looked : Opened T ticket q (w.registry.get? q.guild) (w.lookUp T ticket q) := by
    refine ⟨[], ?_, fun e he => absurd he List.not_mem_nil⟩
    unfold lookUp
    rw [notesOf_note, silent.2]
    rfl
  cases h with
  | anonymous hit missing => exact looked
  | renew hit known => exact looked
  | «open» miss => exact looked
  | fail fails => exact absurd fails (by rintro ⟨⟩)

/-- A join that has begun does not look its guild up any more. -/
theorem Move.opened {w w' : Coordinator σ} {task : Task} {p : Progress}
    (h : Move T ticket w task p w') (begun : task.begun = true)
    (hw : Opened T ticket q found w) : Opened T ticket q found w' := by
  have noted : ∀ (w : Coordinator σ) (e : TraceEvent), e.requests = false →
      Opened T ticket q found w → Opened T ticket q found (w.note (some ticket) e) := by
    intro w e he hw
    refine hw.append (notesOf_note w ticket e) fun x hx => ?_
    rw [List.mem_singleton.mp hx]
    exact he
  cases h with
  | left => exact hw.append (notesOf_evict w ticket _) (evictionOf_requests _ _)
  | anonymous => exact absurd begun (by simp [Task.begun])
  | renew => exact absurd begun (by simp [Task.begun])
  | «open» => exact absurd begun (by simp [Task.begun])
  | won met free => exact noted w.unsubscribeBoth _ rfl hw
  | lost met taken => exact noted _ _ rfl (noted w.unsubscribeBoth _ rfl hw)
  | fail fails => exact noted w.unsubscribeBoth _ rfl hw
  | cleanedUp =>
    refine hw.append ((notesOf_finishFailure w ticket _ _ _).trans (List.append_assoc ..)) ?_
    intro e he
    rcases List.mem_append.mp he with hev | hrg
    · exact evictionOf_requests _ _ e hev
    · exact regretOf_requests _ _ e hrg
  | _ => exact hw

theorem opened_untouched : Untouched ticket
    (fun w task => task.begun = true ∧ Opened T ticket q found w)
    (fun w _ => Opened T ticket q found w) where
  pending h hw := ⟨hw.1, hw.2.append (h.notes.trans (List.append_nil _).symm)
    fun _ he => absurd he List.not_mem_nil⟩
  finished h hw := hw.append (h.notes.trans (List.append_nil _).symm)
    fun _ he => absurd he List.not_mem_nil

theorem opened_carried : Carried T ticket
    (fun w task => task.begun = true ∧ Opened T ticket q found w)
    (fun w _ => Opened T ticket q found w) :=
  opened_untouched.carried (fun h hw => ⟨h.begun, h.opened hw.1 hw.2⟩)
    (fun h hw => h.opened hw.1 hw.2) fun _ hw => hw.2

/-- The first move looks the guild up, and the others go on from there. -/
theorem Moves.opens {w w' : Coordinator σ} {task : Task} {p : Progress}
    (h : Moves T ticket w task p w') (fresh : task = .join q .fresh) (silent : w.Silent ticket) :
    p.Meets (fun task => task.begun = true ∧ Opened T ticket q (w.registry.get? q.guild) w')
      (fun _ => Opened T ticket q (w.registry.get? q.guild) w') := by
  subst fresh
  cases h with
  | rest _ _ begun => exact absurd begun (by simp [Task.begun])
  | last move => exact move.opens silent
  | next move more =>
    exact more.preserves opened_carried.keeps opened_carried.leaves
      ⟨move.begun, move.opens silent⟩

/-- From its first run on the trace of a join begins with its lookup. -/
theorem Reachable.opened {u : Coordinator σ} (hu : Reachable T u) {c : Call}
    (call : u.call? ticket = some c) (fresh : c.task = .join q .fresh) {first : Act σ}
    (looksUp : first.runs ticket) (more : List (Act σ)) :
    Opened T ticket q (u.registry.get? q.guild) (u.run T (first :: more)) := by
  have silent : u.Silent ticket := hu.silent call (by rw [fresh]; rfl)
  obtain ⟨order, hrest⟩ := step_of_poll (T := T) u looksUp
  obtain ⟨limit, hpoll⟩ := poll_eq (T := T) call order
  have moves := moves_runTask (T := T) u ticket order c.task
  have hmeets := moves.opens fresh silent
  have hcalls := moves.calls
  have polled : Course ticket (fun w task => task.begun = true ∧
      Opened T ticket q (u.registry.get? q.guild) w)
      (fun w _ => Opened T ticket q (u.registry.get? q.guild) w) (u.poll T order ticket) := by
    rw [hpoll]
    exact course_settle hu.tidy call hcalls.1 hcalls.2 limit (opened_carried.settle hmeets)
  have tidy : (u.poll T order ticket).Tidy :=
    changes_preserve (fun hc hw => hc.tidy hw) (poll_changes u order looksUp) hu.tidy
  have stepped := changes_course opened_carried (Act.ticket?_of_runs looksUp) hrest tidy polled
  rw [run_cons]
  cases run_course opened_carried opened_untouched (step_tidy hu.tidy first) stepped more with
  | pending found holds => exact holds.2
  | finished ended holds => exact holds

/-- The event of a completed handshake. -/
def completion (T : Transport σ) (q : JoinRequest) (endpoint : String) : TraceEvent :=
  .handshakeCompleted q.guild (shardOf q.guild T.shardCount) endpoint 0

/-- A join has found no session, and its command was accepted. -/
def Through (ticket : Nat) (found : Option SessionRef) (w : Coordinator σ) : Prop :=
  found = none ∧ w.refusalOf ticket = none

/-- What is noted for a join by the time it returns, by the ways in which it does; `r` is
the registry just before. -/
inductive Resolved (T : Transport σ) (ticket : Nat) (q : JoinRequest)
    (found : Option SessionRef) (r : Registry) (w : Coordinator σ) : Outcome → Prop
  | plain {o : Outcome} (other : ¬ w.Through ticket found)
      (noted : w.notesOf ticket = [requested T q found]) : Resolved T ticket q found r w o
  | won (endpoint : String) (through : w.Through ticket found) (free : r.get? q.guild = none)
      (noted : w.notesOf ticket = [requested T q found, completion T q endpoint]) :
      Resolved T ticket q found r w (.joined r.nextRef)
  | lost {s : SessionRef} (endpoint : String) (through : w.Through ticket found)
      (taken : r.get? q.guild = some s) (noted : w.notesOf ticket =
        [requested T q found, completion T q endpoint, .raceLost q.guild]) :
      Resolved T ticket q found r w (.joined s)
  | cleanedUp {cause : JoinError} (through : w.Through ticket found)
      (noted : w.notesOf ticket = [requested T q found, failed T q cause] ++
        evictionOf q.guild (r.get? q.guild) ++ regretOf q.guild (w.leaveRefusalOf ticket)) :
      Resolved T ticket q found r w (.joinFailed cause)
  | givenUp {o : Outcome} (outside : o = .aborted ∨ o = .outOfPatience) :
      Resolved T ticket q found r w o

theorem refusalOf_congr {w w' : Coordinator σ}
    (h : w'.dispatchesOf ticket = w.dispatchesOf ticket) :
    w'.refusalOf ticket = w.refusalOf ticket := by
  unfold refusalOf
  rw [h]

/-- A move that does not end a call leaves the registry as it is. -/
theorem Move.registry {w w' : Coordinator σ} {task task' : Task}
    (h : Move T ticket w task (.pending task') w') : w'.registry = w.registry := by
  cases h <;> rfl

theorem Move.resolved {w w' : Coordinator σ} {task : Task} {o : Outcome}
    (h : Move T ticket w task (.ended o) w') (owes : OwesTask T ticket q found me w task)
    (answering : Answering ticket w task) :
    Resolved T ticket q found w.registry w' o := by
  obtain ⟨stage, rfl, ho⟩ := owes
  have aside : ∀ {w' : Coordinator σ} {s : SessionRef}, found = some s →
      ¬ w'.Through ticket found := fun hit through => absurd (hit.symm.trans through.1) (by simp)
  cases h with
  | anonymous hit missing =>
    obtain ⟨hf, -, -, hn⟩ := ho
    refine .plain (aside (hf.symm.trans hit)) ?_
    unfold lookUp
    rw [notesOf_note, hn, hf]
    rfl
  | renewalRefused refused =>
    obtain ⟨hit, -, -, hn⟩ := ho
    exact .plain (aside hit) hn
  | echoed =>
    obtain ⟨hit, -, -, hn⟩ := ho
    exact .plain (aside hit) hn
  | echoClosed =>
    obtain ⟨hit, -, -, hn⟩ := ho
    exact .plain (aside hit) hn
  | openingRefused refused =>
    obtain ⟨-, hs, hn⟩ := ho
    refine .plain (fun through => ?_) hn
    have hr : w.refusalOf ticket = none := through.2
    rw [hs.refusalOf, refused] at hr
    exact absurd hr (by simp)
  | @won _ r _ _ e v met free =>
    obtain ⟨miss, hs, hn⟩ := ho
    have through : w.Through ticket found := ⟨miss, hs.refusalOf⟩
    refine .won (sessionOf T q r.selfId e v).server.endpoint through free ?_
    refine (notesOf_note w.unsubscribeBoth ticket _).trans ?_
    rw [show w.unsubscribeBoth.notesOf ticket = _ from hn]
    rfl
  | @lost _ r _ _ e v s met taken =>
    obtain ⟨miss, hs, hn⟩ := ho
    have through : w.Through ticket found := ⟨miss, hs.refusalOf⟩
    refine .lost (sessionOf T q r.selfId e v).server.endpoint through taken ?_
    refine (notesOf_note _ ticket _).trans ?_
    unfold confirm
    rw [notesOf_note, show w.unsubscribeBoth.notesOf ticket = _ from hn]
    rfl
  | @cleanedUp _ cause f =>
    obtain ⟨miss, -, hs, hn⟩ := ho
    have hsame : (w.finishFailure ticket q.guild cause f.refusal).2.dispatchesOf ticket =
        w.dispatchesOf ticket := dispatchesOf_finishFailure w q.guild cause f.refusal
    refine .cleanedUp ⟨miss, (refusalOf_congr hsame).trans hs.refusalOf⟩ ?_
    rw [leaveRefusalOf_congr hsame, answering.reply q cause f rfl, notesOf_finishFailure, hn]

/-! ## From the first run to the return -/

/-- A pending join that has entered what its stage says, the answer to its leave
included. -/
structure Outstanding (T : Transport σ) (ticket : Nat) (q : JoinRequest)
    (found : Option SessionRef) (me : Option Snowflake) (w : Coordinator σ) (task : Task) :
    Prop where
  owes : OwesTask T ticket q found me w task
  answering : Answering ticket w task

theorem outstanding_carried :
    Carried T ticket (Outstanding T ticket q found me) (fun _ _ => True) where
  keeps h hw := ⟨h.owes hw.owes, h.answering hw.answering⟩
  leaves _ _ := trivial
  quits _ _ := trivial
  settled hw := ⟨owes_carried.settled hw.owes, hw.answering.congr rfl⟩
  answered _ := trivial

theorem outstanding_untouched : Untouched ticket
    (fun w task => task.begun = true ∧ Outstanding T ticket q found me w task)
    (fun (_ : Coordinator σ) _ => True) where
  pending h hw :=
    have hb := begun_untouched.pending h ⟨hw.1, hw.2.owes⟩
    ⟨hb.1, hb.2, hw.2.answering.congr h.dispatches⟩
  finished _ _ := trivial

theorem Resolved.congr {r : Registry} {w w' : Coordinator σ} {o : Outcome}
    (h : Resolved T ticket q found r w o) (hd : w'.dispatchesOf ticket = w.dispatchesOf ticket)
    (hn : w'.notesOf ticket = w.notesOf ticket) : Resolved T ticket q found r w' o := by
  have same : w'.Through ticket found ↔ w.Through ticket found := by
    unfold Through
    rw [refusalOf_congr hd]
  cases h with
  | plain other noted => exact .plain (mt same.mp other) (hn.trans noted)
  | won endpoint through free noted => exact .won endpoint (same.mpr through) free (hn.trans noted)
  | lost endpoint through taken noted =>
    exact .lost endpoint (same.mpr through) taken (hn.trans noted)
  | cleanedUp through noted =>
    exact .cleanedUp (same.mpr through) ((leaveRefusalOf_congr hd) ▸ hn.trans noted)
  | givenUp outside => exact .givenUp outside

/-- While no session comes or goes, what is outstanding of a join comes to what its outcome
says. -/
theorem resolving_carried (r : Registry) :
    Carried T ticket (fun w task => Outstanding T ticket q found me w task ∧ w.registry = r)
      (Resolved T ticket q found r) where
  keeps h hw := ⟨outstanding_carried.keeps h hw.1, h.registry.trans hw.2⟩
  leaves h hw := hw.2 ▸ h.resolved hw.1.owes hw.1.answering
  quits outside _ := .givenUp outside
  settled hw := ⟨outstanding_carried.settled hw.1, hw.2⟩
  answered hw := hw.congr rfl rfl

/-- From the first run of a join to its return: at the return the trace of the join is that
of its outcome. -/
theorem resolved_of_return {u : Coordinator σ} (hu : Reachable T u) {c : Call}
    (call : u.call? ticket = some c) (fresh : c.task = .join q .fresh) {acts : List (Act σ)}
    {first last : Act σ} (head : (acts ++ [last]).head? = some first)
    (looksUp : first.runs ticket) (waiting : (u.run T acts).outcome? ticket = none) {o : Outcome}
    (returns : (u.run T (acts ++ [last])).outcome? ticket = some o) :
    Resolved T ticket q (u.registry.get? q.guild) (u.run T acts).registry
      (u.run T (acts ++ [last])) o := by
  have silent : u.Silent ticket := hu.silent call (by rw [fresh]; rfl)
  have start : Course ticket (Outstanding T ticket q (u.registry.get? q.guild)
      u.identity.selfId) (fun _ _ => True) u :=
    .pending call ⟨⟨.fresh, fresh, rfl, rfl, silent.1, silent.2⟩,
      silent.answering (by rw [fresh]; rfl)⟩
  obtain ⟨c', found', holds⟩ :=
    course_of_waiting outstanding_carried outstanding_untouched hu.tidy start head looksUp waiting
  have tidy := (hu.run acts).tidy
  rw [run_concat] at returns ⊢
  have own := own_of_returns tidy found' returns
  exact (step_course (resolving_carried _) own tidy
    (.pending found' ⟨holds, rfl⟩)).of_outcome (step_tidy tidy last) returns

/-- A join that has found a session, or whose command was refused, notes its lookup only. -/
theorem Resolved.of_other {r : Registry} {z : Coordinator σ} {o : Outcome}
    (h : Resolved T ticket q found r z o) (kept : o ≠ .aborted ∧ o ≠ .outOfPatience)
    (other : ¬ z.Through ticket found) : z.notesOf ticket = [requested T q found] := by
  cases h with
  | plain _ noted => exact noted
  | won _ through => exact absurd through other
  | lost _ through => exact absurd through other
  | cleanedUp through => exact absurd through other
  | givenUp outside => exact absurd outside (by simp [kept])

/-- A handshake that was begun completes, perhaps too late, or fails. -/
theorem Resolved.of_through {r : Registry} {z : Coordinator σ} {o : Outcome}
    (h : Resolved T ticket q found r z o) (kept : o ≠ .aborted ∧ o ≠ .outOfPatience)
    (through : z.Through ticket found) :
    (∃ endpoint, r.get? q.guild = none ∧ o = .joined r.nextRef ∧
      z.notesOf ticket = [requested T q found, completion T q endpoint]) ∨
    (∃ endpoint s, r.get? q.guild = some s ∧ o = .joined s ∧
      z.notesOf ticket = [requested T q found, completion T q endpoint, .raceLost q.guild]) ∨
    ∃ cause, o = .joinFailed cause ∧
      z.notesOf ticket = [requested T q found, failed T q cause] ++
        evictionOf q.guild (r.get? q.guild) ++ regretOf q.guild (z.leaveRefusalOf ticket) := by
  cases h with
  | plain other => exact absurd through other
  | won endpoint _ free noted => exact Or.inl ⟨endpoint, free, rfl, noted⟩
  | @lost s endpoint _ taken noted => exact Or.inr (Or.inl ⟨endpoint, s, taken, rfl, noted⟩)
  | @cleanedUp cause _ noted => exact Or.inr (Or.inr ⟨cause, rfl, noted⟩)
  | givenUp outside => exact absurd outside (by simp [kept])

/-- The trace after every run in which sessions enter the registry through joins only. For
every guild the handshakes that have completed, less those that came too late and less the
evictions, are the sessions that the guild has, which is one or none. A refused leave is
noted by joins only that have failed and whose leave was refused. A join notes nothing
before it is run, then first its lookup, and no lookup ever again. When it returns it has
noted nothing else if it has found a session or its command was refused. Otherwise it has
noted that it has completed, and that it came too late exactly if its guild had a session
by then, which is the answer; or that it has failed with what it returns, the eviction
of its cleanup if its guild had a session by then, and last the refusal of its leave if
that was refused. It notes nothing once it has returned. -/
theorem trace_accounting (line : σ) (identity : Identity) (bus : EventBus)
    {before : List (Act σ)} (inside : ∀ x, .register x ∉ before) :
    let u := run T { line, identity, bus } before
    (∀ g, (u.tally (·.completes g) : Int) - u.tally (·.loses g) - u.tally (·.evicts g) =
      if (u.registry.get? g).isSome then 1 else 0) ∧
    (∀ n ∈ u.notes, ∀ g error, n.event = .cleanupFailed g error →
      ∃ ticket cause e, n.ticket = some ticket ∧ u.outcome? ticket = some (.joinFailed cause) ∧
        u.leaveRefusalOf ticket = some e ∧ error = e.message) ∧
    ∀ ticket c q, u.call? ticket = some c → c.task = .join q .fresh →
      let found := u.registry.get? q.guild
      u.notesOf ticket = [] ∧ ∀ first, first.runs ticket →
        (∀ more, Opened T ticket q found (u.run T (first :: more))) ∧
        ∀ acts last o, (acts ++ [last]).head? = some first →
          let y := u.run T acts
          let z := u.run T (acts ++ [last])
          y.outcome? ticket = none → z.outcome? ticket = some o →
          o ≠ .aborted ∧ o ≠ .outOfPatience →
          (¬ z.Through ticket found → z.notesOf ticket = [requested T q found]) ∧
          (z.Through ticket found →
            (∃ endpoint, y.registry.get? q.guild = none ∧ o = .joined y.registry.nextRef ∧
              z.notesOf ticket = [requested T q found, completion T q endpoint]) ∨
            (∃ endpoint s, y.registry.get? q.guild = some s ∧ o = .joined s ∧
              z.notesOf ticket =
                [requested T q found, completion T q endpoint, .raceLost q.guild]) ∨
            ∃ cause, o = .joinFailed cause ∧
              z.notesOf ticket = [requested T q found, failed T q cause] ++
                evictionOf q.guild (y.registry.get? q.guild) ++
                  regretOf q.guild (z.leaveRefusalOf ticket)) ∧
          ∀ more, (z.run T more).notesOf ticket = z.notesOf ticket := by
  intro u
  have hu : Reachable T u := ⟨line, identity, bus, before, rfl⟩
  refine ⟨fun g => ?_, fun n hn g error he => hu.regrets hn he, ?_⟩
  · have hb : Balanced g u := run_balanced line identity bus inside g
    unfold Balanced at hb
    rw [hb]
    cases u.registry.get? g with
    | none =>
      show ((u.tally _ + u.tally _ + 0 : Nat) : Int) - u.tally _ - u.tally _ = 0
      omega
    | some s =>
      show ((u.tally _ + u.tally _ + 1 : Nat) : Int) - u.tally _ - u.tally _ = 1
      omega
  · intro ticket c q call fresh found
    refine ⟨(hu.silent call (by rw [fresh]; rfl)).2, fun first looksUp =>
      ⟨hu.opened call fresh looksUp, ?_⟩⟩
    intro acts last o head y z waiting returns kept
    have h := resolved_of_return hu call fresh head looksUp waiting returns
    exact ⟨h.of_other kept, h.of_through kept,
      fun more => (run_of_outcome (hu.run _).tidy returns more).2.2⟩

/-- Of two joins that both find no session the second to complete comes too late, and the
trace shows one session. -/
theorem trace_accounting_of_race :
    let T := Transport.scripted 4
    let q : JoinRequest := ⟨⟨1⟩, ⟨2⟩, false, false, .ofSecs 5⟩
    let before : List (Act LineMode) :=
      [.start 0 (.join q) none, .poll 0 statesFirst, .start 1 (.join q) none]
    let acts : List (Act LineMode) :=
      [.poll 1 statesFirst, .publish (.state ⟨⟨1⟩, ⟨7⟩, some ⟨2⟩, "s"⟩),
        .publish (.server ⟨⟨1⟩, some "e", "t"⟩), .poll 0 statesFirst]
    let u := run T { line := .accepts, identity := .fixed (some ⟨7⟩), bus := {} } before
    let z := u.run T (acts ++ [.poll 1 statesFirst])
    (∃ endpoint, z.notesOf 1 =
      [requested T q none, completion T q endpoint, .raceLost q.guild]) ∧
      (z.tally (·.completes q.guild) : Int) - z.tally (·.loses q.guild) -
        z.tally (·.evicts q.guild) = 1 := by
  intro T q before acts u z
  have taken : (u.run T acts).registry.get? q.guild = some ⟨0⟩ := by decide
  have joined : z.outcome? 1 = some (.joined ⟨0⟩) := by decide
  have miss : u.registry.get? q.guild = none := by decide
  have through : z.Through 1 (u.registry.get? q.guild) := ⟨miss, by decide⟩
  have inside : ∀ x, .register x ∉ before := by simp [before]
  have inside' : ∀ x, .register x ∉ before ++ (acts ++ [.poll 1 statesFirst]) := by
    simp [before, acts]
  obtain ⟨-, -, hjoin⟩ := trace_accounting (T := T) .accepts (.fixed (some ⟨7⟩)) {} inside
  have h := ((hjoin 1 ⟨1, .join q .fresh, none, none⟩ q (by decide) rfl).2 (.poll 1 statesFirst)
    rfl).2 acts (.poll 1 statesFirst) (.joined ⟨0⟩) rfl (by decide) joined (by decide)
  have hsum := (trace_accounting (T := T) .accepts (.fixed (some ⟨7⟩)) {} inside').1 q.guild
  rw [run_append] at hsum
  have registered : (z.registry.get? q.guild).isSome = true := by decide
  refine ⟨?_, hsum.trans (if_pos registered)⟩
  rcases h.2.1 through with ⟨_, free, -⟩ | ⟨endpoint, _, -, -, noted⟩ | ⟨_, he, -⟩
  · exact absurd (taken.symm.trans free) (by simp)
  · exact ⟨endpoint, miss ▸ noted⟩
  · exact absurd he (by simp)

end Coordinator

end VoiceGateway
