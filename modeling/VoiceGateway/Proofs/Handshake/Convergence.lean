import VoiceGateway.Proofs.Handshake.Lifecycle
import VoiceGateway.Transport.Scripted

/-!
# Joins of one guild converge

Between a join's lookup and its registration anything may happen, so several joins
of a guild may each complete a handshake of their own. As long as the guild is not
evicted they all come to the same session: the first handshake to complete registers
it, every later one loses to it, and a join that looks the guild up in between finds
it.

> `joins_converge`: what the joins of a guild return between two evictions, and which
> of them registers.
-/

namespace VoiceGateway

/-- Whether an event tells that a handshake of a guild has completed. -/
def TraceEvent.completes (g : Snowflake) : TraceEvent → Bool
  | .handshakeCompleted g' _ _ _ => g' = g
  | _ => false

/-- Whether an event tells that a completed handshake of a guild came too late. -/
def TraceEvent.loses (g : Snowflake) : TraceEvent → Bool
  | .raceLost g' => g' = g
  | _ => false

/-- The calls whose handshakes of a guild have completed, by the trace, in order. -/
def completed (g : Snowflake) (notes : List Note) : List Nat :=
  (notes.filter fun n => n.event.completes g).filterMap (·.ticket)

/-- The calls whose completed handshakes of a guild came too late, by the trace. -/
def beaten (g : Snowflake) (notes : List Note) : List Nat :=
  (notes.filter fun n => n.event.loses g).filterMap (·.ticket)

theorem completed_append (g : Snowflake) (l l' : List Note) :
    completed g (l ++ l') = completed g l ++ completed g l' := by
  unfold completed
  rw [List.filter_append, List.filterMap_append]

theorem beaten_append (g : Snowflake) (l l' : List Note) :
    beaten g (l ++ l') = beaten g l ++ beaten g l' := by
  unfold beaten
  rw [List.filter_append, List.filterMap_append]

namespace Coordinator

variable {σ : Type} {T : Transport σ} {ticket : Nat} {g : Snowflake} {w₀ : Coordinator σ}

/-! ## What joins find in a stretch without an eviction -/

/-- Without an eviction a guild keeps what it has. -/
theorem Grows.stays {By : Option Nat → Prop} {w w' : Coordinator σ} (h : Grows By w w')
    (since : w₀.notes <+: w.notes) (kept : ¬ w₀.Evicted g w') {s : SessionRef}
    (hs : w.registry.get? g = some s) : w'.registry.get? g = some s := by
  rcases h.retained g s hs with hs' | he
  · exact hs'
  · exact absurd (he.sooner since) kept

/-- The session that a join holds is the one that its guild has, unless that was
evicted since. -/
def Current (g : Snowflake) (w₀ w : Coordinator σ) (task : Task) : Prop :=
  w₀.notes <+: w.notes ∧ (¬ w₀.Evicted g w → task.guild = g →
    ∀ s, task.session? = some s → w.registry.get? g = some s)

/-- The session that a join of the guild has returned is the one that its guild has,
unless that was evicted since. -/
def CurrentAnswer (g : Snowflake) (w₀ w : Coordinator σ) (o : Outcome) : Prop :=
  w₀.notes <+: w.notes ∧ (¬ w₀.Evicted g w →
    ∀ s, o = .joined s → w.registry.get? g = some s)

/-- The guild that a call is about never changes. -/
theorem Move.guild {w w' : Coordinator σ} {task task' : Task}
    (h : Move T ticket w task (.pending task') w') : task'.guild = task.guild := by
  cases h <;> rfl

theorem Move.current {w w' : Coordinator σ} {task task' : Task}
    (h : Move T ticket w task (.pending task') w') (hw : Current g w₀ w task) :
    Current g w₀ w' task' := by
  have hg : Grows (fun _ => True) w w' := h.grows trivial
  refine ⟨hw.1.trans hg.notes_prefix, fun kept hguild s hs => ?_⟩
  have before : ¬ w₀.Evicted g w := fun he => kept (he.later hg.notes_prefix)
  refine hg.stays hw.1 kept ?_
  cases h with
  | renew hit known =>
    injection hs with hs
    exact hguild ▸ hs ▸ hit
  | renewalAccepted accepted => exact hw.2 before hguild s hs
  | unechoed => exact hw.2 before hguild s hs
  | _ => exact absurd hs (by simp [Task.session?])

theorem Move.currentAnswer {w w' : Coordinator σ} {task : Task} {o : Outcome}
    (h : Move T ticket w task (.ended o) w') (hguild : task.guild = g)
    (hw : Current g w₀ w task) : CurrentAnswer g w₀ w' o := by
  have hg : Grows (fun _ => True) w w' := h.grows trivial
  refine ⟨hw.1.trans hg.notes_prefix, fun kept s hs => ?_⟩
  have before : ¬ w₀.Evicted g w := fun he => kept (he.later hg.notes_prefix)
  cases h with
  | echoed =>
    injection hs with hs
    exact hw.2 before hguild s (congrArg some hs)
  | @won q r _ _ e v met free =>
    injection hs with hs
    exact hguild ▸ hs ▸
      Registry.get?_tryRegister_of_none (x := sessionOf T q r.selfId e v) free
  | lost met taken =>
    injection hs with hs
    exact hguild ▸ hs ▸ taken
  | @left _ f =>
    unfold leaveOutcome at hs
    split at hs <;> exact absurd hs (by simp)
  | _ => exact absurd hs (by simp)

theorem current_pending {w w' : Coordinator σ} {task : Task} (h : Aside ticket w w')
    (hw : Current g w₀ w task) : Current g w₀ w' task := by
  refine ⟨hw.1.trans h.grows.notes_prefix, fun kept hguild s hs => ?_⟩
  have before : ¬ w₀.Evicted g w := fun he => kept (he.later h.grows.notes_prefix)
  exact h.grows.stays hw.1 kept (hw.2 before hguild s hs)

theorem currentAnswer_over {w w' : Coordinator σ} {o : Outcome} (h : Aside ticket w w')
    (hw : CurrentAnswer g w₀ w o) : CurrentAnswer g w₀ w' o := by
  refine ⟨hw.1.trans h.grows.notes_prefix, fun kept s hs => ?_⟩
  have before : ¬ w₀.Evicted g w := fun he => kept (he.later h.grows.notes_prefix)
  exact h.grows.stays hw.1 kept (hw.2 before s hs)

variable (T) in
/-- A join of a guild is pending at some time in a stretch and returns a session in it.
At the beginning of the stretch it was not started yet, or not run, or it had found no
session. -/
structure Returned (w : Coordinator σ) (acts : List (Act σ)) (g : Snowflake) (ticket : Nat)
    (s : SessionRef) : Prop where
  pending : ∃ before after c q stage, acts = before ++ after ∧
    (w.run T before).call? ticket = some c ∧ c.task = .join q stage ∧ q.guild = g
  late : ∀ c, w.call? ticket = some c → c.task.session? = none
  answer : (w.run T acts).outcome? ticket = some (.joined s)

/-- What a join returns in a stretch without an eviction is what the guild has. -/
theorem Returned.registered {w : Coordinator σ} (tidy : w.Tidy) {acts : List (Act σ)}
    {s : SessionRef} (h : Returned T w acts g ticket s) (kept : ¬ w.Evicted g (w.run T acts)) :
    (w.run T acts).registry.get? g = some s := by
  obtain ⟨before, after, c, q, stage, rfl, call, htask, hguild⟩ := h.pending
  have htidy := run_tidy (T := T) tidy before
  -- Up to where the join is known to be of the guild it is followed on condition of that.
  have hfirst : Current g w (w.run T before) c.task := by
    have untouched : Untouched ticket (Current g w) (fun (_ : Coordinator σ) _ => True) :=
      ⟨current_pending, fun _ _ => trivial⟩
    have hw : Followed ticket (fun x => w.notes <+: x.notes) (Current g w) (fun _ _ => True)
        (w.run T before) := by
      refine run_followed (untouched.carried Move.current (fun _ _ => trivial)
        fun _ _ => trivial) untouched (fun hc _ hp => hp.trans hc.grows.notes_prefix)
        (fun job hp => ⟨hp, fun _ _ s hs => ?_⟩) tidy ?_ before
      · cases job <;> exact absurd hs (by simp [Job.task, Task.session?])
      · cases hcall : w.call? ticket with
        | none =>
          refine Or.inl ⟨(isFresh_iff w ticket).mpr ⟨hcall, ?_⟩, List.prefix_rfl⟩
          cases hout : w.outcome? ticket with
          | none => rfl
          | some o =>
            have ho := (run_grows (T := T) w before).outcome? hout
            exact absurd ((htidy.outcome?_eq_none call).symm.trans ho) (by simp)
        | some c₀ =>
          refine Or.inr (.pending hcall ⟨List.prefix_rfl, fun _ _ s hs => ?_⟩)
          exact absurd ((h.late c₀ hcall).symm.trans hs) (by simp)
    exact hw.of_call htidy call
  have untouched : Untouched ticket
      (fun (x : Coordinator σ) task => task.guild = g ∧ Current g w x task) (CurrentAnswer g w) :=
    ⟨fun ha hx => ⟨hx.1, current_pending ha hx.2⟩, currentAnswer_over⟩
  have carried : Carried T ticket
      (fun (x : Coordinator σ) task => task.guild = g ∧ Current g w x task)
      (CurrentAnswer g w) := by
    refine untouched.carried (fun hm hx => ⟨hm.guild.trans hx.1, hm.current hx.2⟩)
      (fun hm hx => hm.currentAnswer hx.1 hx.2) ?_
    rintro x task o (rfl | rfl) hx
    · exact ⟨hx.2.1, fun _ s hs => absurd hs (by simp)⟩
    · exact ⟨hx.2.1, fun _ s hs => absurd hs (by simp)⟩
  have hstart : c.task.guild = g := by
    rw [htask]
    exact hguild
  have hend := run_course carried untouched htidy (.pending call ⟨hstart, hfirst⟩) after
  have answer := h.answer
  rw [run_append] at answer kept ⊢
  exact (hend.of_outcome (run_tidy htidy after) answer).2 kept s rfl

/-! ## Which handshake registers -/

/-- No handshake of a guild completes between two coordinators, and no session of it is
registered. -/
structure Idle (g : Snowflake) (w w' : Coordinator σ) : Prop where
  notes : ∃ l, w'.notes = w.notes ++ l ∧ completed g l = [] ∧ beaten g l = []
  free : w.registry.get? g = none → w'.registry.get? g = none
  sessions : w'.registry.sessionsOf g = w.registry.sessionsOf g

theorem idle_trans {w₁ w₂ w₃ : Coordinator σ} (h₁ : Idle g w₁ w₂) (h₂ : Idle g w₂ w₃) :
    Idle g w₁ w₃ := by
  obtain ⟨l₁, hl₁, hc₁, hb₁⟩ := h₁.notes
  obtain ⟨l₂, hl₂, hc₂, hb₂⟩ := h₂.notes
  refine ⟨⟨l₁ ++ l₂, ?_, ?_, ?_⟩, fun h => h₂.free (h₁.free h), h₂.sessions.trans h₁.sessions⟩
  · rw [hl₂, hl₁, List.append_assoc]
  · rw [completed_append, hc₁, hc₂]
    rfl
  · rw [beaten_append, hb₁, hb₂]
    rfl

/-- What touches neither the registry nor the trace. -/
theorem idle_of_eq {w w' : Coordinator σ} (notes : w'.notes = w.notes)
    (registry : w'.registry = w.registry) : Idle g w w' := by
  refine ⟨⟨[], ?_, rfl, rfl⟩, fun h => ?_, ?_⟩
  · rw [notes, List.append_nil]
  · rw [registry]
    exact h
  · rw [registry]

/-- What notes one event of another kind, and leaves the registry. -/
theorem idle_of_note {w w' : Coordinator σ} {n : Note} (notes : w'.notes = w.notes ++ [n])
    (hc : n.event.completes g = false) (hb : n.event.loses g = false)
    (registry : w'.registry = w.registry) : Idle g w w' := by
  refine ⟨⟨[n], notes, ?_, ?_⟩, fun h => ?_, ?_⟩
  · unfold completed
    rw [List.filter_cons_of_neg (by simp [hc])]
    rfl
  · unfold beaten
    rw [List.filter_cons_of_neg (by simp [hb])]
    rfl
  · rw [registry]
    exact h
  · rw [registry]

theorem evict_idle (w : Coordinator σ) (t : Option Nat) (g' : Snowflake) :
    Idle g w (w.evict t g').2 := by
  have hr : Idle g w { w with registry := (w.registry.evict g').2 } := by
    refine ⟨⟨[], (List.append_nil _).symm, rfl, rfl⟩, fun h => ?_,
      Registry.sessionsOf_evict w.registry g g'⟩
    show (w.registry.evict g').2.get? g = none
    rw [Registry.get?_evict, h]
    split <;> rfl
  unfold evict
  dsimp only
  split
  · exact idle_trans hr (idle_of_note rfl rfl rfl rfl)
  · exact hr

theorem finishFailure_idle (w : Coordinator σ) (ticket : Nat) (g' : Snowflake)
    (cause : JoinError) (refusal : Option TransportError) :
    Idle g w (w.finishFailure ticket g' cause refusal).2 := by
  cases refusal with
  | none => exact evict_idle w _ g'
  | some e => exact idle_trans (evict_idle w _ g') (idle_of_note rfl rfl rfl rfl)

/-- A handshake of a guild completes between two coordinators and answers with a
session: with one that it registers if the guild has none, and else with the one that
the guild has, and it notes that it came too late. -/
structure Completes (g : Snowflake) (ticket : Nat) (w w' : Coordinator σ) (s : SessionRef) :
    Prop where
  notes : ∃ l, w'.notes = w.notes ++ l ∧ completed g l = [ticket] ∧
    beaten g l = if w.registry.get? g = none then [] else [ticket]
  found : ∀ s', w.registry.get? g = some s' → s' = s ∧
    w'.registry.sessionsOf g = w.registry.sessionsOf g
  registered : w.registry.get? g = none → ∃ x : Session,
    w'.registry.sessionsOf g = w.registry.sessionsOf g ++ [x] ∧
      w'.registry.record? s = some ⟨x, .connected⟩
  holds : w'.registry.get? g = some s

/-- The handshake of a guild that has no session registers its own. -/
theorem won_completes {w : Coordinator σ} {x : Session} (free : w.registry.get? x.guild = none) :
    Completes x.guild ticket w ((w.confirm ticket x).tryRegister x).2 w.registry.nextRef := by
  refine ⟨⟨_, rfl, ?_, ?_⟩, fun s' hs' => ?_, fun _ => ⟨x, ?_, ?_⟩, ?_⟩
  · simp [completed, TraceEvent.completes]
  · rw [if_pos free]
    rfl
  · exact absurd (free.symm.trans hs') (by simp)
  · exact Registry.sessionsOf_tryRegister_of_none free
  · show (w.registry.tryRegister x).2.record? w.registry.nextRef = _
    rw [Registry.tryRegister_of_none free]
    exact List.getElem?_concat_length
  · exact Registry.get?_tryRegister_of_none free

/-- The handshake of a guild that has a session loses to it. -/
theorem lost_completes {w : Coordinator σ} {x : Session} {s : SessionRef}
    (taken : w.registry.get? x.guild = some s) :
    Completes x.guild ticket w ((w.confirm ticket x).note (some ticket) (.raceLost x.guild)) s := by
  refine ⟨⟨[⟨some ticket, .handshakeCompleted x.guild x.shard x.server.endpoint 0⟩,
    ⟨some ticket, .raceLost x.guild⟩], ?_, ?_, ?_⟩, fun s' hs' => ⟨?_, rfl⟩, fun free => ?_, taken⟩
  · show w.notes ++ [_] ++ [_] = _
    rw [List.append_assoc]
    rfl
  · simp [completed, TraceEvent.completes]
  · rw [if_neg (by rw [taken]; simp)]
    simp [beaten, TraceEvent.loses]
  · exact Option.some.inj (hs'.symm.trans taken)
  · exact absurd (free.symm.trans taken) (by simp)

/-- A move completes a handshake of a guild only as the last one of a call. -/
theorem Move.idle_or {w w' : Coordinator σ} {task : Task} {p : Progress}
    (h : Move T ticket w task p w') :
    Idle g w w' ∨ ∃ s, p = .ended (.joined s) ∧ Completes g ticket w w' s := by
  cases h with
  | left => exact Or.inl (evict_idle w _ _)
  | anonymous hit missing => exact Or.inl (idle_of_note rfl rfl rfl rfl)
  | renew hit known => exact Or.inl (idle_of_note rfl rfl rfl rfl)
  | «open» miss => exact Or.inl (idle_of_note rfl rfl rfl rfl)
  | @won q r _ _ e v met free =>
    by_cases hg : q.guild = g
    · subst hg
      exact Or.inr ⟨_, rfl, won_completes (x := sessionOf T q r.selfId e v) free⟩
    · refine Or.inl ⟨⟨_, rfl, ?_, rfl⟩, fun h => ?_, ?_⟩
      · simp [completed, TraceEvent.completes, sessionOf, hg]
      · show (w.registry.tryRegister _).2.get? g = none
        rw [Registry.get?_tryRegister_of_ne (show (sessionOf T q r.selfId e v).guild ≠ g from hg)]
        exact h
      · exact Registry.sessionsOf_tryRegister_of_ne hg
  | @lost q r _ _ e v s met taken =>
    by_cases hg : q.guild = g
    · subst hg
      exact Or.inr ⟨s, rfl, lost_completes (x := sessionOf T q r.selfId e v) taken⟩
    · have hc : Idle g w (w.confirm ticket (sessionOf T q r.selfId e v)) :=
        idle_of_note rfl (by simp [TraceEvent.completes, sessionOf, hg]) rfl rfl
      exact Or.inl (idle_trans hc
        (idle_of_note rfl rfl (by simp [TraceEvent.loses, hg]) rfl))
  | fail fails => exact Or.inl (idle_of_note rfl rfl rfl rfl)
  | cleanedUp => exact Or.inl (finishFailure_idle w _ _ _ _)
  | _ => exact Or.inl (idle_of_eq rfl rfl)

/-- Without an eviction a guild has what it has had while nothing has happened to it. -/
theorem Idle.same {w w' : Coordinator σ} {By : Option Nat → Prop} (h : Idle g w w')
    (hg : Grows By w w') (kept : ¬ w.Evicted g w') :
    w'.registry.get? g = w.registry.get? g := by
  cases hs : w.registry.get? g with
  | none => exact h.free hs
  | some s => exact hg.stays List.prefix_rfl kept hs

theorem Completes.of_idle {w₁ w₂ w₃ : Coordinator σ} {s : SessionRef} (h₁ : Idle g w₁ w₂)
    (same : w₂.registry.get? g = w₁.registry.get? g) (h₂ : Completes g ticket w₂ w₃ s) :
    Completes g ticket w₁ w₃ s := by
  obtain ⟨l₁, hl₁, hc₁, hb₁⟩ := h₁.notes
  obtain ⟨l₂, hl₂, hc₂, hb₂⟩ := h₂.notes
  refine ⟨⟨l₁ ++ l₂, ?_, ?_, ?_⟩, fun s' hs' => ?_, fun free => ?_, h₂.holds⟩
  · rw [hl₂, hl₁, List.append_assoc]
  · rw [completed_append, hc₁, hc₂]
    rfl
  · rw [beaten_append, hb₁, hb₂, same]
    rfl
  · obtain ⟨hs, hsame⟩ := h₂.found s' (same.trans hs')
    exact ⟨hs, hsame.trans h₁.sessions⟩
  · obtain ⟨x, hx, hrec⟩ := h₂.registered (same.trans free)
    rw [h₁.sessions] at hx
    exact ⟨x, hx, hrec⟩

theorem Moves.idle_or {w w' : Coordinator σ} {task : Task} {p : Progress}
    (h : Moves T ticket w task p w') (kept : ¬ w.Evicted g w') :
    Idle g w w' ∨ ∃ s, p = .ended (.joined s) ∧ Completes g ticket w w' s := by
  induction h with
  | rest w task begun => exact Or.inl (idle_of_eq rfl rfl)
  | last move => exact move.idle_or
  | @next w₁ w₂ w₃ _ _ p move more ih =>
    have hg₁ : Grows (fun _ => True) w₁ w₂ := move.grows trivial
    have hg₂ : Grows (fun _ => True) w₂ w₃ := more.grows trivial
    rcases move.idle_or (g := g) with h₁ | ⟨s, hp, -⟩
    · have same := h₁.same hg₁ fun he => kept (he.later hg₂.notes_prefix)
      rcases ih fun he => kept (he.sooner hg₁.notes_prefix) with h₂ | ⟨s, hp, h₂⟩
      · exact Or.inl (idle_trans h₁ h₂)
      · exact Or.inr ⟨s, hp, h₂.of_idle h₁ same⟩
    · exact absurd hp (by simp)

theorem Completes.settle {w w' : Coordinator σ} {s : SessionRef}
    (h : Completes g ticket w w' s) (c : Call) (p : Progress) :
    Completes g ticket w (w'.settle c p) s := by
  cases p with
  | pending task => exact ⟨h.notes, h.found, h.registered, h.holds⟩
  | ended o => exact ⟨h.notes, h.found, h.registered, h.holds⟩

/-- A change completes at most one handshake of a guild, and then the call of that
handshake has ended with it. -/
theorem Change.idle_or {a : Act σ} {w w' : Coordinator σ} (h : Change T a w w')
    (tidy : w.Tidy) (inside : ∀ x, a = .register x → x.guild ≠ g) (kept : ¬ w.Evicted g w') :
    Idle g w w' ∨ ∃ t s, Completes g t w w' s ∧ w.outcome? t = none ∧
      w'.outcome? t = some (.joined s) := by
  cases h with
  | started unused => exact Or.inl (idle_of_eq rfl rfl)
  | @ran _ w₁ _ c limit p act found moves =>
    have hs : ∀ p, (w₁.settle { c with limit } p).notes = w₁.notes := by
      intro p
      cases p <;> rfl
    have hr : ∀ p, (w₁.settle { c with limit } p).registry = w₁.registry := by
      intro p
      cases p <;> rfl
    have kept₁ : ¬ w.Evicted g w₁ := by
      rintro ⟨n, hn, he⟩
      exact kept ⟨n, (hs p).symm ▸ hn, he⟩
    rcases moves.idle_or kept₁ with hi | ⟨s, rfl, hc⟩
    · exact Or.inl (idle_trans hi (idle_of_eq (hs p) (hr p)))
    · refine Or.inr ⟨c.ticket, s, hc.settle _ _, tidy.outcome?_eq_none found, ?_⟩
      show (w₁.finish c.ticket (.joined s)).outcome? c.ticket = _
      rw [outcome?_finish, outcome?_congr moves.calls.2, tidy.outcome?_eq_none found, if_pos rfl]
      rfl
  | @gaveUp _ _ c o act found outside =>
    refine Or.inl (idle_of_eq ?_ ?_)
    · rw [abandon_eq, withdraw_eq]
      rfl
    · rw [abandon_eq, withdraw_eq]
      rfl
  | @registered _ x =>
    have hne := inside x rfl
    refine Or.inl ⟨⟨[], (List.append_nil _).symm, rfl, rfl⟩, fun h => ?_,
      Registry.sessionsOf_tryRegister_of_ne hne⟩
    show (w.registry.tryRegister x).2.get? g = none
    rw [Registry.get?_tryRegister_of_ne hne]
    exact h
  | evicted => exact Or.inl (evict_idle w _ _)
  | surroundings => exact Or.inl (idle_of_eq rfl rfl)

/-- What has become of the handshakes of a guild in a stretch that began without a
session. -/
inductive Settled (g : Snowflake) (w₀ w : Coordinator σ) : Prop
  /-- None has completed and there is still no session. -/
  | unsettled (l : List Note) (notes : w.notes = w₀.notes ++ l) (nobody : completed g l = [])
      (unbeaten : beaten g l = []) (free : w.registry.get? g = none)
      (sessions : w.registry.sessionsOf g = w₀.registry.sessionsOf g)
  /-- The first to complete has registered the session that there is, the others have
  come too late, and all have ended with it. -/
  | settled (l : List Note) (first : Nat) (rest : List Nat) {s : SessionRef} {x : Session}
      (notes : w.notes = w₀.notes ++ l) (completions : completed g l = first :: rest)
      (distinct : (first :: rest).Nodup) (losers : beaten g l = rest)
      (holds : w.registry.get? g = some s)
      (sessions : w.registry.sessionsOf g = w₀.registry.sessionsOf g ++ [x])
      (record : ∃ state, w.registry.record? s = some ⟨x, state⟩)
      (answers : ∀ t ∈ first :: rest, w.outcome? t = some (.joined s))

theorem Settled.idle {a : Act σ} {w w' : Coordinator σ} (hw : Settled g w₀ w)
    (h : Change T a w w') (hi : Idle g w w') (kept : ¬ w₀.Evicted g w') : Settled g w₀ w' := by
  obtain ⟨l', hl', hc', hb'⟩ := hi.notes
  have hcl : ∀ l, completed g (l ++ l') = completed g l := by
    intro l
    rw [completed_append, hc', List.append_nil]
  have hbl : ∀ l, beaten g (l ++ l') = beaten g l := by
    intro l
    rw [beaten_append, hb', List.append_nil]
  cases hw with
  | @unsettled l notes nobody unbeaten free sessions =>
    refine .unsettled (l ++ l') ?_ ((hcl l).trans nobody) ((hbl l).trans unbeaten)
      (hi.free free) (hi.sessions.trans sessions)
    rw [hl', notes, List.append_assoc]
  | @settled l first rest s x notes completions distinct losers holds sessions record answers =>
    obtain ⟨state, hrec⟩ := record
    refine .settled (l ++ l') first rest (s := s) ?_ ((hcl l).trans completions) distinct
      ((hbl l).trans losers) (h.grows.stays ⟨l, notes.symm⟩ kept holds)
      (hi.sessions.trans sessions) (h.grows.registry.session hrec)
      fun t ht => h.grows.outcome? (answers t ht)
    rw [hl', notes, List.append_assoc]

theorem Settled.completes {a : Act σ} {w w' : Coordinator σ} (hw : Settled g w₀ w)
    (h : Change T a w w') {t : Nat} {s : SessionRef} (hc : Completes g t w w' s)
    (before : w.outcome? t = none) (after : w'.outcome? t = some (.joined s)) :
    Settled g w₀ w' := by
  obtain ⟨l', hl', hc', hb'⟩ := hc.notes
  cases hw with
  | @unsettled l notes nobody unbeaten free sessions =>
    obtain ⟨x, hx, hrec⟩ := hc.registered free
    refine .settled (l ++ l') t [] ?_ ?_ (List.pairwise_singleton _ t) ?_
      hc.holds ?_ ⟨_, hrec⟩ ?_
    · rw [hl', notes, List.append_assoc]
    · rw [completed_append, nobody, hc']
      rfl
    · rw [beaten_append, unbeaten, hb', if_pos free]
      rfl
    · rw [hx, sessions]
    · intro t' ht'
      rw [List.mem_singleton.mp ht']
      exact after
  | @settled l first rest s₀ x notes completions distinct losers holds sessions record answers =>
    obtain ⟨rfl, hsame⟩ := hc.found s₀ holds
    obtain ⟨state, hrec⟩ := record
    -- Whoever has completed before has an outcome by now.
    have hnew : t ∉ first :: rest := fun ht =>
      absurd (before.symm.trans (answers t ht)) (by simp)
    refine .settled (l ++ l') first (rest ++ [t]) ?_ ?_ ?_ ?_ hc.holds
      (hsame.trans sessions) (h.grows.registry.session hrec) ?_
    · rw [hl', notes, List.append_assoc]
    · rw [completed_append, completions, hc']
      rfl
    · rw [← List.cons_append, List.nodup_append]
      refine ⟨distinct, List.pairwise_singleton _ t, fun t₁ h₁ t₂ h₂ he => ?_⟩
      rw [he, List.mem_singleton.mp h₂] at h₁
      exact hnew h₁
    · rw [beaten_append, losers, hb', if_neg (by rw [holds]; simp)]
    · intro t' ht'
      rw [← List.cons_append] at ht'
      rcases List.mem_append.mp ht' with hold | hlast
      · exact h.grows.outcome? (answers t' hold)
      · rw [List.mem_singleton.mp hlast]
        exact after

theorem Change.settled {a : Act σ} {w w' : Coordinator σ} (h : Change T a w w') (tidy : w.Tidy)
    (inside : ∀ x, a = .register x → x.guild ≠ g) (kept : ¬ w₀.Evicted g w')
    (since : w₀.notes <+: w.notes) (hw : Settled g w₀ w) : Settled g w₀ w' := by
  rcases h.idle_or tidy inside fun he => kept (he.sooner since) with
    hi | ⟨t, s, hc, before, after⟩
  · exact hw.idle h hi kept
  · exact hw.completes h hc before after

/-- A stretch that begins without a session and sees no eviction of the guild, and no
registration from outside, is settled by the first handshake that completes in it. -/
theorem run_settled {acts : List (Act σ)} (tidy : w₀.Tidy) (free : w₀.registry.get? g = none)
    (inside : ∀ x, .register x ∈ acts → x.guild ≠ g) (kept : ¬ w₀.Evicted g (w₀.run T acts)) :
    Settled g w₀ (w₀.run T acts) := by
  have h : (w₀.run T acts).Tidy ∧ w₀.notes <+: (w₀.run T acts).notes ∧
      (¬ w₀.Evicted g (w₀.run T acts) → Settled g w₀ (w₀.run T acts)) := by
    refine run_preserves (P := fun w => w.Tidy ∧ w₀.notes <+: w.notes ∧
      (¬ w₀.Evicted g w → Settled g w₀ w)) ?_ ⟨tidy, List.prefix_rfl, fun _ => ?_⟩
    · intro a ha w w' hc ⟨ht, since, hw⟩
      have hn := hc.grows.notes_prefix
      refine ⟨hc.tidy ht, since.trans hn, fun kept => ?_⟩
      exact hc.settled ht (fun x hx => inside x (hx ▸ ha)) kept since
        (hw fun he => kept (he.later hn))
    · exact .unsettled [] (List.append_nil _).symm rfl rfl free rfl
  exact h.2.2 kept

/-- The joins of a guild between two evictions. All that return a session, having looked
the guild up in the stretch or found nothing before, return the one that the guild has
at its end. If the guild had none at the beginning, nobody registers one from outside
and some handshake completes, then exactly one session is registered, by the first
handshake that completes; the others, in order, report that they have lost, all of them
have ended with that session, and its facts are never altered. -/
theorem joins_converge {w : Coordinator σ} (hw : Reachable T w) {acts : List (Act σ)}
    (kept : ¬ w.Evicted g (w.run T acts)) :
    let z := w.run T acts
    let notes := z.notes.drop w.notes.length
    (∀ t s, Returned T w acts g t s → z.registry.get? g = some s) ∧
    (∀ t s t' s', Returned T w acts g t s → Returned T w acts g t' s' → s = s') ∧
    (w.registry.get? g = none → (∀ x, .register x ∈ acts → x.guild ≠ g) →
      ∀ first rest, completed g notes = first :: rest →
        ∃ s x, z.registry.get? g = some s ∧ z.registry.record? s = some ⟨x, .connected⟩ ∧
          z.registry.sessionsOf g = w.registry.sessionsOf g ++ [x] ∧
          (first :: rest).Nodup ∧ beaten g notes = rest ∧
          (∀ t ∈ first :: rest, z.outcome? t = some (.joined s)) ∧
          ∀ more, ∃ state, (z.run T more).registry.record? s = some ⟨x, state⟩) := by
  intro z notes
  have hz := hw.run acts
  refine ⟨fun t s h => h.registered hw.tidy kept, fun t s t' s' h h' => ?_, ?_⟩
  · have hs := h.registered hw.tidy kept
    rw [h'.registered hw.tidy kept] at hs
    exact (Option.some.inj hs).symm
  · intro free inside first rest hnotes
    have hdrop : ∀ l, z.notes = w.notes ++ l → notes = l := by
      intro l hl
      show z.notes.drop w.notes.length = l
      rw [hl, List.drop_left]
    cases run_settled hw.tidy free inside kept with
    | unsettled l eq nobody unbeaten free sessions =>
      rw [hdrop _ eq, nobody] at hnotes
      exact absurd hnotes (by simp)
    | @settled l first' rest' s x eq completions distinct losers holds sessions record answers =>
      rw [hdrop _ eq] at hnotes ⊢
      rw [completions] at hnotes
      injection hnotes with hfirst hrest
      subst hfirst hrest
      obtain ⟨state, hrec⟩ := record
      obtain ⟨y, hy, -, hconnected⟩ := hz.lawful.live g s holds
      rw [hrec] at hy
      injection hy with hy
      subst hy
      have hstate : state = .connected := hconnected
      subst hstate
      exact ⟨s, x, holds, hrec, sessions, distinct, losers, answers,
        fun more => (run_grows (T := T) z more).registry.session hrec⟩

/-- Two joins of a guild that are both past their lookups: the one that is run first
registers, and both return its session. -/
theorem joins_converge_of_two :
    let T := Transport.scripted 4
    let q : JoinRequest := ⟨⟨1⟩, ⟨2⟩, false, false, .ofSecs 5⟩
    let w : Coordinator LineMode := { line := .accepts, identity := .fixed (some ⟨7⟩) }
    let z := w.run T [.start 0 (.join q) none, .start 1 (.join q) none, .poll 0 statesFirst,
      .poll 1 statesFirst, .publish (.state ⟨⟨1⟩, ⟨7⟩, none, "s"⟩),
      .publish (.server ⟨⟨1⟩, some "e", "t"⟩), .poll 1 statesFirst, .poll 0 statesFirst]
    ∃ s, z.registry.get? ⟨1⟩ = some s ∧ z.outcome? 0 = some (.joined s) ∧
      z.outcome? 1 = some (.joined s) ∧ beaten ⟨1⟩ z.notes = [0] := by
  intro T q w z
  have hw : Reachable T w := ⟨_, _, _, [], rfl⟩
  have kept : ¬ w.Evicted ⟨1⟩ z := by
    unfold Evicted
    decide
  have h := (joins_converge hw kept).2.2 rfl (by simp) 1 [0] (by decide)
  obtain ⟨s, x, hs, -, -, -, hb, hall, -⟩ := h
  exact ⟨s, hs, hall 0 (by simp), hall 1 (by simp), hb⟩

end Coordinator

end VoiceGateway
