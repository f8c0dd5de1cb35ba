import Mathlib.Logic.Relation
import VoiceGateway.Handshake.Run
import VoiceGateway.Proofs.Handshake.Growth

/-!
# The changes in a run

Every act of a run comes to a few changes of six kinds: a call is started, makes
moves, or is given up; a session is registered or evicted from outside; or the
surroundings change (`Change`). To show that a run keeps something it is enough
to show it of one change (`run_preserves`).

A ticket stands for one call: it is pending, or has an outcome, and never both
(`Tidy`). A call and its outcome are out of reach of all acts but those that name
its ticket.

> `step_changes`: an act is a chain of changes.
> `Change.call?`, `Change.outcome?`: an act with another ticket touches neither the
> call nor the outcome.
> `Grows.outcome?`: an outcome is never revised.
-/

namespace VoiceGateway

/-- The ticket that an act names. -/
def Act.ticket? {σ : Type} : Act σ → Option Nat
  | .start ticket _ _ | .abort ticket | .poll ticket _ | .expire ticket _ => some ticket
  | _ => none

/-- Whether an act runs the call with a ticket. -/
def Act.runs {σ : Type} (ticket : Nat) : Act σ → Prop
  | .poll t _ | .expire t _ => t = ticket
  | _ => False

theorem Act.ticket?_of_runs {σ : Type} {ticket : Nat} {a : Act σ} (h : a.runs ticket) :
    a.ticket? = some ticket := by
  cases a with
  | poll t order => exact congrArg some h
  | expire t order => exact congrArg some h
  | _ => exact absurd h id

namespace Coordinator

variable {σ : Type} (T : Transport σ)

/-- One of the changes that an act comes to. -/
inductive Change : Act σ → Coordinator σ → Coordinator σ → Prop
  | started {w : Coordinator σ} {ticket : Nat} {job : Job} {patience : Option Duration}
      (unused : w.isFresh ticket = true) :
      Change (.start ticket job patience) w
        { w with calls := w.calls ++ [⟨ticket, job.task, patience, none⟩] }
  | ran {w w' : Coordinator σ} {a : Act σ} {c : Call} (limit : Option Nat) {p : Progress}
      (act : a.runs c.ticket) (found : w.call? c.ticket = some c)
      (moves : Moves T c.ticket w c.task p w') :
      Change a w (w'.settle { c with limit } p)
  | gaveUp {w : Coordinator σ} {a : Act σ} {c : Call} {o : Outcome}
      (act : a.ticket? = some c.ticket) (found : w.call? c.ticket = some c)
      (outside : o = .aborted ∨ o = .outOfPatience) : Change a w (w.abandon c o)
  | registered {w : Coordinator σ} {x : Session} : Change (.register x) w (w.tryRegister x).2
  | evicted {w : Coordinator σ} {g : Snowflake} : Change (.evict g) w (w.evict none g).2
  | surroundings {w : Coordinator σ} {a : Act σ} {line : σ} {identity : Identity}
      {bus : EventBus} {now releases : Nat} (act : a.ticket? = none) (grown : w.bus.Grows bus)
      (same : ∀ stream, bus.subscribers stream = w.bus.subscribers stream)
      (later : w.now ≤ now) (more : w.releases ≤ releases) :
      Change a w { w with line, identity, bus, now, releases }

variable {T}

/-! ## Acts are chains of changes -/

open Relation (ReflTransGen)

theorem call?_ticket {w : Coordinator σ} {ticket : Nat} {c : Call}
    (h : w.call? ticket = some c) : c.ticket = ticket := by
  have := List.find?_some h
  exact eq_of_beq this

/-- Running a pending call is to enter what becomes of it; the limit that its caller has
set counts from the first run. -/
theorem poll_limit {w : Coordinator σ} {ticket : Nat} {c : Call}
    (found : w.call? ticket = some c) (order : TurnOrder) :
    w.poll T order ticket = (w.runTask T ticket order c.task).2.settle
      { c with limit := (c.runAt w.now).limit } (w.runTask T ticket order c.task).1 := by
  have hr : c.runAt w.now = { c with limit := (c.runAt w.now).limit } := by
    unfold Call.runAt
    split <;> rfl
  unfold poll
  rw [found]
  exact congrArg (fun c' => settle _ c' _) hr

/-- Whatever the limit is. -/
theorem poll_eq {w : Coordinator σ} {ticket : Nat} {c : Call} (found : w.call? ticket = some c)
    (order : TurnOrder) : ∃ limit, w.poll T order ticket =
      (w.runTask T ticket order c.task).2.settle { c with limit }
        (w.runTask T ticket order c.task).1 :=
  ⟨_, poll_limit found order⟩

theorem poll_changes (w : Coordinator σ) (order : TurnOrder) {ticket : Nat} {a : Act σ}
    (ha : a.runs ticket) : ReflTransGen (Change T a) w (w.poll T order ticket) := by
  cases hc : w.call? ticket with
  | none =>
    unfold poll
    rw [hc]
  | some c =>
    obtain ⟨limit, he⟩ := poll_eq (T := T) hc order
    have ht := call?_ticket hc
    subst ht
    rw [he]
    exact .single (.ran limit ha hc (moves_runTask w c.ticket order c.task))

theorem expireHandshake_changes {w : Coordinator σ} {c : Call} {a : Act σ}
    (hc : w.call? c.ticket = some c) (ha : a.runs c.ticket) :
    ReflTransGen (Change T a) w (w.expireHandshake T c) := by
  unfold expireHandshake
  split
  · next q r deadline ht =>
    split
    · next late =>
      have hf : Fails w q (.gathering r deadline) (.timeout q.timeout) := .expired late
      have hm : Moves T c.ticket w c.task _ _ := ht ▸ moves_failHandshake hf
      exact .single (.ran c.limit ha hc hm)
    · exact .refl
  · exact .refl

theorem expirePatience_changes {w : Coordinator σ} {c : Call} {a : Act σ}
    (hc : w.call? c.ticket = some c) (ha : a.runs c.ticket) :
    ReflTransGen (Change T a) w (w.expirePatience c) := by
  unfold expirePatience
  split
  · split
    · exact .single (.gaveUp (Act.ticket?_of_runs ha) hc (Or.inr rfl))
    · exact .refl
  · exact .refl

/-- The caller's patience is looked at last. -/
theorem patience_changes (w : Coordinator σ) {ticket : Nat} {a : Act σ} (ha : a.runs ticket) :
    ReflTransGen (Change T a) w
      (match w.call? ticket with
        | some c => w.expirePatience c
        | none => w) := by
  split
  · next c hc =>
    have ht := call?_ticket hc
    subst ht
    exact expirePatience_changes hc ha
  · exact .refl

/-- The deadline of the call is looked at before that. -/
theorem handshake_changes (w : Coordinator σ) {ticket : Nat} {a : Act σ} (ha : a.runs ticket) :
    ReflTransGen (Change T a) w
      (match w.call? ticket with
        | some c => w.expireHandshake T c
        | none => w) := by
  split
  · next c hc =>
    have ht := call?_ticket hc
    subst ht
    exact expireHandshake_changes hc ha
  · exact .refl

/-- After an expiry has run the call, two steps are left to it. -/
theorem expire_of_poll (w : Coordinator σ) (order : TurnOrder) {ticket : Nat} {a : Act σ}
    (ha : a.runs ticket) :
    ReflTransGen (Change T a) (w.poll T order ticket) (w.expire T order ticket) :=
  .trans (handshake_changes _ ha) (patience_changes _ ha)

/-- An act that runs a call polls it first. -/
theorem step_of_poll (w : Coordinator σ) {ticket : Nat} {a : Act σ} (ha : a.runs ticket) :
    ∃ order, ReflTransGen (Change T a) (w.poll T order ticket) (w.step T a) := by
  cases a with
  | poll t order =>
    have ht : t = ticket := ha
    subst ht
    exact ⟨order, .refl⟩
  | expire t order =>
    have ht : t = ticket := ha
    subst ht
    exact ⟨order, expire_of_poll w order rfl⟩
  | _ => exact absurd ha id

/-- An act is a chain of changes. -/
theorem step_changes (w : Coordinator σ) (a : Act σ) :
    ReflTransGen (Change T a) w (w.step T a) := by
  cases a with
  | start ticket job patience =>
    simp only [step, start]
    split
    · next unused => exact .single (.started unused)
    · exact .refl
  | abort ticket =>
    simp only [step, abort]
    split
    · exact .refl
    · next c hc =>
      have ht := call?_ticket hc
      subst ht
      exact .single (.gaveUp rfl hc (Or.inl rfl))
  | publish event =>
    exact .single (.surroundings rfl (EventBus.publishAll_grows [event] w.bus)
      (fun stream => EventBus.publishAll_subscribers stream [event] w.bus)
      (Nat.le_refl _) (Nat.le_refl _))
  | close stream =>
    exact .single (.surroundings rfl (EventBus.close_grows _ _)
      (fun other => EventBus.close_subscribers _ stream other) (Nat.le_refl _) (Nat.le_refl _))
  | advance nanos =>
    exact .single (.surroundings rfl (EventBus.grows_refl _) (fun _ => rfl)
      (Nat.le_add_right ..) (Nat.le_refl _))
  | setLine line =>
    exact .single (.surroundings rfl (EventBus.grows_refl _) (fun _ => rfl)
      (Nat.le_refl _) (Nat.le_refl _))
  | release =>
    exact .single (.surroundings rfl (EventBus.grows_refl _) (fun _ => rfl)
      (Nat.le_refl _) (Nat.le_succ _))
  | announce selfId =>
    exact .single (.surroundings rfl (EventBus.grows_refl _) (fun _ => rfl)
      (Nat.le_refl _) (Nat.le_refl _))
  | register x => exact .single .registered
  | evict g => exact .single .evicted
  | poll ticket order => exact poll_changes w order rfl
  | expire ticket order =>
    have hp : ReflTransGen (Change T (.expire ticket order)) w (w.poll T order ticket) :=
      poll_changes w order rfl
    exact hp.trans (expire_of_poll w order rfl)

/-- What changes keep, a chain of them keeps. -/
theorem changes_preserve {P : Coordinator σ → Prop} {a : Act σ}
    (h : ∀ {w w'}, Change T a w w' → P w → P w') {w w' : Coordinator σ}
    (changes : ReflTransGen (Change T a) w w') (hw : P w) : P w' := by
  induction changes with
  | refl => exact hw
  | tail _ hc ih => exact h hc ih

/-- What the changes of an act keep, the act keeps. -/
theorem step_preserves {P : Coordinator σ → Prop} {a : Act σ}
    (h : ∀ {w w'}, Change T a w w' → P w → P w') {w : Coordinator σ} (hw : P w) :
    P (w.step T a) :=
  changes_preserve h (step_changes w a) hw

theorem run_cons (w : Coordinator σ) (a : Act σ) (acts : List (Act σ)) :
    w.run T (a :: acts) = (w.step T a).run T acts := rfl

theorem run_concat (w : Coordinator σ) (acts : List (Act σ)) (a : Act σ) :
    w.run T (acts ++ [a]) = (w.run T acts).step T a := run_append T w acts [a]

/-- What the changes of its acts keep, a run keeps. -/
theorem run_preserves {P : Coordinator σ → Prop} :
    ∀ {acts : List (Act σ)}, (∀ a ∈ acts, ∀ {w w'}, Change T a w w' → P w → P w') →
      ∀ {w : Coordinator σ}, P w → P (w.run T acts)
  | [], _, _, hw => hw
  | a :: acts, h, w, hw => by
    rw [run_cons]
    exact run_preserves (fun b hb => h b (List.mem_cons_of_mem _ hb))
      (step_preserves (h a (List.mem_cons_self ..)) hw)

/-! ## Growth -/

theorem settle_grows {By : Option Nat → Prop} (w : Coordinator σ) {c : Call}
    (ht : By (some c.ticket)) (p : Progress) : Grows By w (w.settle c p) := by
  cases p with
  | pending task => exact putCall_grows w _
  | ended o => exact finish_grows w ht o

/-- A change is entered under the ticket that its act names. -/
theorem Change.grows {a : Act σ} {w w' : Coordinator σ} (h : Change T a w w') :
    Grows (· = a.ticket?) w w' := by
  cases h with
  | started unused =>
    exact ⟨EventBus.grows_refl _, Registry.evolves_refl _, fun _ _ => Or.inl, Nat.le_refl _,
      Nat.le_refl _, appended_nil _, appended_nil _, appended_nil _⟩
  | ran limit act found moves =>
    have ht := (Act.ticket?_of_runs act).symm
    exact grows_trans (moves.grows ht) (settle_grows _ ht _)
  | gaveUp act found outside => exact abandon_grows w act.symm _
  | registered => exact tryRegister_grows w _
  | @evicted _ g =>
    exact @evict_grows _ (· = none) w none rfl g
  | surroundings act grown same later more =>
    exact ⟨grown, Registry.evolves_refl _, fun _ _ => Or.inl, later, more, appended_nil _,
      appended_nil _, appended_nil _⟩

theorem step_grows (w : Coordinator σ) (a : Act σ) : Grows (· = a.ticket?) w (w.step T a) :=
  step_preserves (P := Grows (· = a.ticket?) w) (fun hc hw => grows_trans hw hc.grows)
    (grows_refl w)

theorem run_grows (w : Coordinator σ) (acts : List (Act σ)) :
    Grows (fun _ => True) w (w.run T acts) :=
  run_preserves (P := Grows (fun _ => True) w)
    (fun _ _ _ _ hc hw => grows_trans hw (hc.grows.mono fun _ _ => trivial)) (grows_refl w)

/-! ## Pending calls and outcomes -/

theorem call?_putCall (w : Coordinator σ) (c : Call) (ticket : Nat) :
    (w.putCall c).call? ticket =
      (w.call? ticket).map fun x => if x.ticket = c.ticket then c else x := by
  have hp : ((fun x : Call => x.ticket == ticket) ∘ fun x => if x.ticket = c.ticket then c else x)
      = fun x => x.ticket == ticket := by
    funext x
    by_cases hx : x.ticket = c.ticket
    · simp [hx]
    · simp [hx]
  unfold call? putCall
  rw [List.find?_map, hp]

theorem call?_finish (w : Coordinator σ) (ticket other : Nat) (o : Outcome) :
    (w.finish ticket o).call? other = if other = ticket then none else w.call? other := by
  unfold call? finish
  dsimp only
  rw [List.find?_filter]
  split
  · next he =>
    subst he
    simp
  · next hne =>
    congr 1
    funext c
    by_cases hc : c.ticket = other
    · simp [hc, hne]
    · simp [hc]

theorem outcome?_finish (w : Coordinator σ) (ticket other : Nat) (o : Outcome) :
    (w.finish ticket o).outcome? other =
      (w.outcome? other).or (if ticket = other then some o else none) := by
  unfold outcome? finish
  dsimp only
  rw [List.find?_append]
  by_cases ht : ticket = other
  · cases w.outcomes.find? fun e => e.1 == other <;> simp [ht]
  · cases w.outcomes.find? fun e => e.1 == other <;> simp [ht]

theorem call?_abandon (w : Coordinator σ) (c : Call) (o : Outcome) (ticket : Nat) :
    (w.abandon c o).call? ticket = if ticket = c.ticket then none else w.call? ticket := by
  rw [abandon_eq, call?_finish, withdraw_eq]
  rfl

theorem outcome?_abandon (w : Coordinator σ) (c : Call) (o : Outcome) (ticket : Nat) :
    (w.abandon c o).outcome? ticket =
      (w.outcome? ticket).or (if c.ticket = ticket then some o else none) := by
  rw [abandon_eq, outcome?_finish, withdraw_eq]
  rfl

/-- A ticket has one pending call or an outcome, and not both. -/
structure Tidy (w : Coordinator σ) : Prop where
  nodup : (w.calls.map (·.ticket)).Nodup
  unanswered : ∀ c ∈ w.calls, w.outcome? c.ticket = none

theorem mem_calls_of_call? {w : Coordinator σ} {ticket : Nat} {c : Call}
    (h : w.call? ticket = some c) : c ∈ w.calls := List.mem_of_find?_eq_some h

theorem Tidy.outcome?_eq_none {w : Coordinator σ} (h : w.Tidy) {ticket : Nat} {c : Call}
    (hc : w.call? ticket = some c) : w.outcome? ticket = none := by
  rw [← call?_ticket hc]
  exact h.unanswered c (mem_calls_of_call? hc)

/-- A ticket that has not been used has neither call nor outcome. -/
theorem isFresh_iff (w : Coordinator σ) (ticket : Nat) :
    w.isFresh ticket = true ↔ w.call? ticket = none ∧ w.outcome? ticket = none := by
  unfold isFresh call? outcome?
  rw [Bool.and_eq_true, List.all_eq_true, List.all_eq_true, List.find?_eq_none,
    Option.map_eq_none_iff, List.find?_eq_none]
  simp

theorem start_eq {w : Coordinator σ} {ticket : Nat} (unused : w.isFresh ticket = true)
    (task : Task) (patience : Option Duration) : w.start ticket task patience =
      { w with calls := w.calls ++ [⟨ticket, task, patience, none⟩] } := by
  unfold start
  rw [if_pos unused]

theorem call?_start {w : Coordinator σ} {ticket : Nat} (unused : w.isFresh ticket = true)
    (task : Task) (patience : Option Duration) (t : Nat) :
    (w.start ticket task patience).call? t =
      if ticket = t then some ⟨ticket, task, patience, none⟩ else w.call? t := by
  have hnone := ((isFresh_iff w ticket).mp unused).1
  rw [start_eq unused]
  show (w.calls ++ [_]).find? _ = _
  rw [List.find?_append]
  split
  · next ht =>
    subst ht
    rw [show w.calls.find? _ = none from hnone]
    simp
  · next ht => simp [ht, call?]

theorem Tidy.finish {w : Coordinator σ} (h : w.Tidy) (ticket : Nat) (o : Outcome) :
    (w.finish ticket o).Tidy := by
  constructor
  · exact h.nodup.sublist (List.filter_sublist.map Call.ticket)
  · intro c hc
    obtain ⟨hmem, hne⟩ := List.mem_filter.mp hc
    rw [outcome?_finish, h.unanswered c hmem, if_neg (fun he => of_decide_eq_true hne he.symm)]
    rfl

theorem Tidy.putCall {w : Coordinator σ} (h : w.Tidy) (c : Call) : (w.putCall c).Tidy := by
  have ht : ∀ x : Call, (if x.ticket = c.ticket then c else x).ticket = x.ticket := by
    intro x
    split
    · next hx => exact hx.symm
    · rfl
  constructor
  · have hm : (w.putCall c).calls.map (·.ticket) = w.calls.map (·.ticket) := by
      unfold Coordinator.putCall
      rw [List.map_map]
      exact List.map_congr_left fun x _ => ht x
    rw [hm]
    exact h.nodup
  · intro x hx
    obtain ⟨y, hy, rfl⟩ := List.mem_map.mp hx
    rw [ht y]
    exact h.unanswered y hy

theorem tidy_init (line : σ) (identity : Identity) (bus : EventBus) :
    Tidy ({ line, identity, bus } : Coordinator σ) :=
  ⟨List.nodup_nil, fun _ hc => absurd hc List.not_mem_nil⟩

/-- What is beside calls and outcomes has no part in being tidy. -/
theorem Tidy.congr {w w' : Coordinator σ} (h : w.Tidy) (hc : w'.calls = w.calls)
    (ho : w'.outcomes = w.outcomes) : w'.Tidy := by
  constructor
  · rw [hc]
    exact h.nodup
  · intro c hmem
    rw [hc] at hmem
    unfold outcome?
    rw [ho]
    exact h.unanswered c hmem

theorem Change.tidy {a : Act σ} {w w' : Coordinator σ} (h : Change T a w w') (hw : w.Tidy) :
    w'.Tidy := by
  cases h with
  | @started _ ticket job patience unused =>
    obtain ⟨hc, ho⟩ := (isFresh_iff w ticket).mp unused
    constructor
    · show ((w.calls ++ [(⟨ticket, job.task, patience, none⟩ : Call)]).map Call.ticket).Nodup
      rw [List.map_append, List.nodup_append]
      refine ⟨hw.nodup, List.pairwise_singleton _ _, ?_⟩
      intro t ht t' ht' he
      obtain ⟨c, hmem, rfl⟩ := List.mem_map.mp ht
      have hnone := (List.find?_eq_none.mp hc) c hmem
      rw [List.map_singleton, List.mem_singleton] at ht'
      exact hnone (beq_iff_eq.mpr (he.trans ht'))
    · intro c hmem
      rcases List.mem_append.mp hmem with hold | hnew
      · exact hw.unanswered c hold
      · rw [List.mem_singleton.mp hnew]
        exact ho
  | @ran _ w₁ _ c limit p act found moves =>
    have h₁ := hw.congr moves.calls.1 moves.calls.2
    cases p with
    | pending task => exact h₁.putCall _
    | ended o => exact h₁.finish _ o
  | @gaveUp _ _ c o act found outside =>
    rw [abandon_eq, withdraw_eq]
    exact (hw.congr rfl rfl : Tidy { w with bus := (w.withdraw c.task).bus }).finish _ o
  | registered => exact hw.congr rfl rfl
  | evicted => exact hw.congr (evict_calls w _ _).1 (evict_calls w _ _).2
  | surroundings => exact hw.congr rfl rfl

theorem step_tidy {w : Coordinator σ} (h : w.Tidy) (a : Act σ) : (w.step T a).Tidy :=
  step_preserves (fun hc hw => hc.tidy hw) h

theorem run_tidy {w : Coordinator σ} (h : w.Tidy) (acts : List (Act σ)) : (w.run T acts).Tidy :=
  run_preserves (fun _ _ _ _ hc hw => hc.tidy hw) h

/-! ## Out of reach -/

theorem call?_congr {w w' : Coordinator σ} (hc : w'.calls = w.calls) (ticket : Nat) :
    w'.call? ticket = w.call? ticket := by
  unfold call?
  rw [hc]

theorem outcome?_congr {w w' : Coordinator σ} (ho : w'.outcomes = w.outcomes) (ticket : Nat) :
    w'.outcome? ticket = w.outcome? ticket := by
  unfold outcome?
  rw [ho]

theorem call?_settle_of_ne {w : Coordinator σ} {c : Call} {p : Progress} {ticket : Nat}
    (h : c.ticket ≠ ticket) : (w.settle c p).call? ticket = w.call? ticket := by
  cases p with
  | pending task =>
    show (w.putCall { c with task }).call? ticket = w.call? ticket
    rw [call?_putCall]
    cases hx : w.call? ticket with
    | none => rfl
    | some x =>
      rw [Option.map_some, if_neg (fun he => h (he.symm.trans (call?_ticket hx)))]
  | ended o =>
    show (w.finish c.ticket o).call? ticket = w.call? ticket
    rw [call?_finish, if_neg (Ne.symm h)]

theorem outcome?_settle_of_ne {w : Coordinator σ} {c : Call} {p : Progress} {ticket : Nat}
    (h : c.ticket ≠ ticket) : (w.settle c p).outcome? ticket = w.outcome? ticket := by
  cases p with
  | pending task => rfl
  | ended o =>
    show (w.finish c.ticket o).outcome? ticket = w.outcome? ticket
    rw [outcome?_finish, if_neg h, Option.or_none]

theorem call?_settle_pending {w : Coordinator σ} {c x : Call} (found : w.call? c.ticket = some x)
    (task : Task) : (w.settle c (.pending task)).call? c.ticket = some { c with task } := by
  show (w.putCall { c with task }).call? c.ticket = _
  rw [call?_putCall, found, Option.map_some, if_pos (call?_ticket found)]

theorem outcome?_settle_ended {w : Coordinator σ} {c : Call}
    (unanswered : w.outcome? c.ticket = none) (o : Outcome) :
    (w.settle c (.ended o)).outcome? c.ticket = some o := by
  show (w.finish c.ticket o).outcome? c.ticket = some o
  rw [outcome?_finish, unanswered, if_pos rfl]
  rfl

/-- An act with another ticket does not touch a call. -/
theorem Change.call? {a : Act σ} {w w' : Coordinator σ} (h : Change T a w w') {ticket : Nat}
    (hne : a.ticket? ≠ some ticket) : w'.call? ticket = w.call? ticket := by
  cases h with
  | @started _ t job patience unused =>
    show (w.calls ++ [_]).find? _ = _
    rw [List.find?_append]
    have ht : t ≠ ticket := fun he => hne (congrArg some he)
    simp [ht, Coordinator.call?]
  | @ran _ w₁ _ c limit p act found moves =>
    have ht : ({ c with limit } : Call).ticket ≠ ticket :=
      fun he => hne ((Act.ticket?_of_runs act).trans (congrArg some he))
    rw [call?_settle_of_ne ht, call?_congr moves.calls.1]
  | @gaveUp _ _ c o act found outside =>
    rw [call?_abandon, if_neg (fun he => hne (act.trans (congrArg some he.symm)))]
  | registered => rfl
  | evicted => exact call?_congr (evict_calls w _ _).1 ticket
  | surroundings => rfl

/-- An act with another ticket does not touch an outcome. -/
theorem Change.outcome? {a : Act σ} {w w' : Coordinator σ} (h : Change T a w w') {ticket : Nat}
    (hne : a.ticket? ≠ some ticket) : w'.outcome? ticket = w.outcome? ticket := by
  cases h with
  | started => rfl
  | @ran _ w₁ _ c limit p act found moves =>
    have ht : ({ c with limit } : Call).ticket ≠ ticket :=
      fun he => hne ((Act.ticket?_of_runs act).trans (congrArg some he))
    rw [outcome?_settle_of_ne ht, outcome?_congr moves.calls.2]
  | @gaveUp _ _ c o act found outside =>
    rw [outcome?_abandon, if_neg (fun he => hne (act.trans (congrArg some he))), Option.or_none]
  | registered => rfl
  | evicted => exact outcome?_congr (evict_calls w _ _).2 ticket
  | surroundings => rfl

/-- An outcome is never revised. -/
theorem Grows.outcome? {By : Option Nat → Prop} {w w' : Coordinator σ} (h : Grows By w w')
    {ticket : Nat} {o : Outcome} (ho : w.outcome? ticket = some o) :
    w'.outcome? ticket = some o := by
  obtain ⟨l, hl, -⟩ := h.outcomes
  obtain ⟨e, he, rfl⟩ := Option.map_eq_some_iff.mp ho
  unfold Coordinator.outcome?
  rw [hl, List.find?_append, he]
  rfl

/-! ## Reachable coordinators -/

/-- A coordinator that a run leads to from one that has done nothing yet. -/
def Reachable (T : Transport σ) (w : Coordinator σ) : Prop :=
  ∃ (line : σ) (identity : Identity) (bus : EventBus) (acts : List (Act σ)),
    w = run T { line, identity, bus } acts

theorem Reachable.run {w : Coordinator σ} (h : Reachable T w) (acts : List (Act σ)) :
    Reachable T (w.run T acts) := by
  obtain ⟨line, identity, bus, before, rfl⟩ := h
  exact ⟨line, identity, bus, before ++ acts, (run_append T _ before acts).symm⟩

/-- What holds at the beginning and is kept by every change holds always. -/
theorem Reachable.induct {P : Coordinator σ → Prop}
    (init : ∀ line identity bus, P { line, identity, bus })
    (change : ∀ {a w w'}, Change T a w w' → P w → P w') {w : Coordinator σ}
    (h : Reachable T w) : P w := by
  obtain ⟨line, identity, bus, acts, rfl⟩ := h
  exact run_preserves (fun _ _ _ _ hc => change hc) (init line identity bus)

theorem Reachable.tidy {w : Coordinator σ} (h : Reachable T w) : w.Tidy :=
  h.induct tidy_init fun hc hw => hc.tidy hw

end Coordinator

end VoiceGateway
