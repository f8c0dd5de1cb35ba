import VoiceGateway.Proofs.Handshake.Change

/-!
# The course of one call

To follow one call through a run of many, two things have to be said of it: what
is known of it while it is pending, and what is known of how it has ended
(`Course`). Acts that name its ticket carry this on if every move does
(`Carried`). Acts that name another ticket, or none, have to leave it alone
(`Untouched`); all they do to the coordinator is to make it grow without sending or
noting anything for the ticket (`Aside`).

> `run_course`: what moves carry on and others leave alone, a run carries on.
-/

namespace VoiceGateway.Coordinator

variable {σ : Type} {T : Transport σ} {ticket : Nat}

/-- A coordinator later on, nothing having been sent or noted in between in the name
of a ticket. -/
structure Aside (ticket : Nat) (w w' : Coordinator σ) : Prop where
  grows : Grows (fun _ => True) w w'
  dispatches : w'.dispatchesOf ticket = w.dispatchesOf ticket
  notes : w'.notesOf ticket = w.notesOf ticket

theorem settle_aside (w : Coordinator σ) (c : Call) (p : Progress) :
    Aside ticket w (w.settle c p) := by
  cases p with
  | pending task => exact ⟨settle_grows w trivial _, rfl, rfl⟩
  | ended o => exact ⟨settle_grows w trivial _, rfl, rfl⟩

theorem abandon_aside (w : Coordinator σ) (c : Call) (o : Outcome) :
    Aside ticket w (w.abandon c o) := by
  refine ⟨abandon_grows w trivial o, ?_, ?_⟩
  · rw [abandon_eq, withdraw_eq]
    rfl
  · rw [abandon_eq, withdraw_eq]
    rfl

/-- Whatever an act with another ticket does is done aside. -/
theorem Change.aside {a : Act σ} {w w' : Coordinator σ} (h : Change T a w w')
    (other : a.ticket? ≠ some ticket) : Aside ticket w w' :=
  ⟨h.grows.mono fun _ _ => trivial, h.grows.dispatchesOf (Ne.symm other),
    h.grows.notesOf (Ne.symm other)⟩

/-- What an act may do that names a ticket: to start a call under it, or to make the
call under it move or give it up. -/
inductive Own (T : Transport σ) (ticket : Nat) (w : Coordinator σ) :
    Act σ → Coordinator σ → Prop
  | started {job : Job} {patience : Option Duration} (unused : w.isFresh ticket = true) :
      Own T ticket w (.start ticket job patience)
        { w with calls := w.calls ++ [⟨ticket, job.task, patience, none⟩] }
  | ran {a : Act σ} {w₁ : Coordinator σ} {c : Call} {p : Progress} (limit : Option Nat)
      (same : c.ticket = ticket) (act : a.runs ticket) (found : w.call? ticket = some c)
      (moves : Moves T ticket w c.task p w₁) : Own T ticket w a (w₁.settle { c with limit } p)
  | gaveUp {a : Act σ} {c : Call} {o : Outcome} (same : c.ticket = ticket)
      (found : w.call? ticket = some c) (outside : o = .aborted ∨ o = .outOfPatience) :
      Own T ticket w a (w.abandon c o)

theorem Change.own {a : Act σ} {w w' : Coordinator σ} (h : Change T a w w')
    (own : a.ticket? = some ticket) : Own T ticket w a w' := by
  cases h with
  | started unused =>
    injection own with ht
    subst ht
    exact .started unused
  | @ran _ _ _ c limit p act found moves =>
    have ht : c.ticket = ticket := Option.some.inj ((Act.ticket?_of_runs act).symm.trans own)
    subst ht
    exact .ran limit rfl act found moves
  | @gaveUp _ _ c o act found outside =>
    have ht : c.ticket = ticket := Option.some.inj (act.symm.trans own)
    subst ht
    exact .gaveUp rfl found outside
  | registered => exact absurd own (by simp [Act.ticket?])
  | evicted => exact absurd own (by simp [Act.ticket?])
  | surroundings act => exact absurd (act.symm.trans own) (by simp)

/-- Where a call is: pending and known to satisfy `P`, or over and known to have
ended as `Q` says. -/
inductive Course (ticket : Nat) (P : Coordinator σ → Task → Prop)
    (Q : Coordinator σ → Outcome → Prop) (w : Coordinator σ) : Prop
  | pending {c : Call} (found : w.call? ticket = some c) (holds : P w c.task)
  | finished {o : Outcome} (ended : w.outcome? ticket = some o) (holds : Q w o)

/-- What the acts that name a ticket carry on: every move of the call does, and
so does giving it up. What else is entered besides does not matter. -/
structure Carried (T : Transport σ) (ticket : Nat) (P : Coordinator σ → Task → Prop)
    (Q : Coordinator σ → Outcome → Prop) : Prop where
  keeps : ∀ {w w' : Coordinator σ} {task task' : Task},
    Move T ticket w task (.pending task') w' → P w task → P w' task'
  leaves : ∀ {w w' : Coordinator σ} {task : Task} {o : Outcome},
    Move T ticket w task (.ended o) w' → P w task → Q w' o
  quits : ∀ {w : Coordinator σ} {c : Call} {o : Outcome},
    o = .aborted ∨ o = .outOfPatience → P w c.task → Q (w.abandon c o) o
  settled : ∀ {w : Coordinator σ} {c : Call} {task : Task},
    P w task → P (w.settle c (.pending task)) task
  answered : ∀ {w : Coordinator σ} {c : Call} {o : Outcome},
    Q w o → Q (w.settle c (.ended o)) o

/-- What acts that do not name a ticket leave alone, and what is entered besides. -/
structure Untouched (ticket : Nat) (P : Coordinator σ → Task → Prop)
    (Q : Coordinator σ → Outcome → Prop) : Prop where
  pending : ∀ {w w' : Coordinator σ} {task : Task}, Aside ticket w w' → P w task → P w' task
  finished : ∀ {w w' : Coordinator σ} {o : Outcome}, Aside ticket w w' → Q w o → Q w' o

variable {P R : Coordinator σ → Task → Prop} {Q : Coordinator σ → Outcome → Prop}

/-- Of what nobody else touches only the moves have to be looked at. -/
theorem Untouched.carried (h : Untouched ticket P Q)
    (keeps : ∀ {w w' : Coordinator σ} {task task' : Task},
      Move T ticket w task (.pending task') w' → P w task → P w' task')
    (leaves : ∀ {w w' : Coordinator σ} {task : Task} {o : Outcome},
      Move T ticket w task (.ended o) w' → P w task → Q w' o)
    (quits : ∀ {w : Coordinator σ} {task : Task} {o : Outcome},
      o = .aborted ∨ o = .outOfPatience → P w task → Q w o) : Carried T ticket P Q where
  keeps := keeps
  leaves := leaves
  quits outside hP := h.finished (abandon_aside _ _ _) (quits outside hP)
  settled hP := h.pending (settle_aside _ _ _) hP
  answered hQ := h.finished (settle_aside _ _ _) hQ

/-- A ticket with a course is not free to be taken. -/
theorem Course.not_fresh {w : Coordinator σ} (h : Course ticket P Q w) :
    w.isFresh ticket ≠ true := by
  intro hf
  obtain ⟨hc, ho⟩ := (isFresh_iff w ticket).mp hf
  cases h with
  | pending found holds => exact absurd (hc.symm.trans found) (by simp)
  | finished ended holds => exact absurd (ho.symm.trans ended) (by simp)

/-- A call that is over has no course other than its end. -/
theorem Course.of_call {w : Coordinator σ} (hw : w.Tidy) (h : Course ticket P Q w) {c : Call}
    (hc : w.call? ticket = some c) : P w c.task := by
  cases h with
  | pending found holds =>
    rw [hc] at found
    injection found with he
    exact he ▸ holds
  | finished ended holds => exact absurd ((hw.outcome?_eq_none hc).symm.trans ended) (by simp)

theorem Course.of_outcome {w : Coordinator σ} (hw : w.Tidy) (h : Course ticket P Q w)
    {o : Outcome} (ho : w.outcome? ticket = some o) : Q w o := by
  cases h with
  | pending found holds => exact absurd ((hw.outcome?_eq_none found).symm.trans ho) (by simp)
  | finished ended holds =>
    rw [ho] at ended
    injection ended with he
    exact he ▸ holds

/-- What has become of a call is entered. -/
theorem course_settle {w w₁ : Coordinator σ} (tidy : w.Tidy) {c : Call}
    (found : w.call? ticket = some c) (calls : w₁.calls = w.calls)
    (outcomes : w₁.outcomes = w.outcomes) (limit : Option Nat) {p : Progress}
    (hp : p.Meets (P (w₁.settle { c with limit } p)) (Q (w₁.settle { c with limit } p))) :
    Course ticket P Q (w₁.settle { c with limit } p) := by
  have ht := call?_ticket found
  subst ht
  cases p with
  | pending task =>
    have hfound : w₁.call? c.ticket = some c := (call?_congr calls _).trans found
    exact .pending (call?_settle_pending (c := { c with limit }) hfound task) hp
  | ended o =>
    have hnone : w₁.outcome? c.ticket = none :=
      (outcome?_congr outcomes _).trans (tidy.outcome?_eq_none found)
    exact .finished (outcome?_settle_ended (c := { c with limit }) hnone o) hp

/-- That a call was given up is entered. -/
theorem course_abandon {w : Coordinator σ} (tidy : w.Tidy) {c : Call}
    (found : w.call? ticket = some c) {o : Outcome} (hQ : Q (w.abandon c o) o) :
    Course ticket P Q (w.abandon c o) := by
  refine .finished (o := o) ?_ hQ
  rw [outcome?_abandon, tidy.outcome?_eq_none found, if_pos (call?_ticket found)]
  rfl

theorem Carried.settle {w : Coordinator σ} (carried : Carried T ticket P Q) {c : Call}
    {p : Progress} (hp : p.Meets (P w) (Q w)) :
    p.Meets (P (w.settle c p)) (Q (w.settle c p)) := by
  cases p with
  | pending task => exact carried.settled hp
  | ended o => exact carried.answered hp

/-- The changes of an act that names the ticket carry its course on. -/
theorem Change.course_own {a : Act σ} {w w' : Coordinator σ} (h : Change T a w w')
    (carried : Carried T ticket P Q) (own : a.ticket? = some ticket) (tidy : w.Tidy)
    (hw : Course ticket P Q w) : Course ticket P Q w' := by
  cases h.own own with
  | started unused => exact absurd unused hw.not_fresh
  | ran limit same act found moves =>
    have hp := moves.preserves carried.keeps carried.leaves (hw.of_call tidy found)
    exact course_settle tidy found moves.calls.1 moves.calls.2 limit (carried.settle hp)
  | gaveUp same found outside =>
    exact course_abandon tidy found (carried.quits outside (hw.of_call tidy found))

/-- The changes of other acts leave it alone. -/
theorem Change.course_aside {a : Act σ} {w w' : Coordinator σ} (h : Change T a w w')
    (untouched : Untouched ticket P Q) (other : a.ticket? ≠ some ticket)
    (hw : Course ticket P Q w) : Course ticket P Q w' := by
  cases hw with
  | pending found holds =>
    exact .pending ((h.call? other).trans found) (untouched.pending (h.aside other) holds)
  | finished ended holds =>
    exact .finished ((h.outcome? other).trans ended) (untouched.finished (h.aside other) holds)

/-- The changes of all acts carry on what moves carry on and others leave alone. -/
theorem Change.course {a : Act σ} {w w' : Coordinator σ} (h : Change T a w w')
    (carried : Carried T ticket P Q) (untouched : Untouched ticket P Q) (tidy : w.Tidy)
    (hw : Course ticket P Q w) : Course ticket P Q w' := by
  by_cases own : a.ticket? = some ticket
  · exact h.course_own carried own tidy hw
  · exact h.course_aside untouched own hw

/-- A run carries the course of a call on. -/
theorem run_course (carried : Carried T ticket P Q) (untouched : Untouched ticket P Q)
    {w : Coordinator σ} (tidy : w.Tidy) (hw : Course ticket P Q w) (acts : List (Act σ)) :
    Course ticket P Q (w.run T acts) := by
  have h : (w.run T acts).Tidy ∧ Course ticket P Q (w.run T acts) := by
    refine run_preserves (P := fun w => w.Tidy ∧ Course ticket P Q w) ?_ ⟨tidy, hw⟩
    intro a _ w w' hc ⟨ht, hw⟩
    exact ⟨hc.tidy ht, hc.course carried untouched ht hw⟩
  exact h.2

/-- What is left to do of an act that names the ticket carries its course on. -/
theorem changes_course (carried : Carried T ticket P Q) {a : Act σ}
    (own : a.ticket? = some ticket) {w w' : Coordinator σ}
    (h : Relation.ReflTransGen (Change T a) w w') (tidy : w.Tidy) (hw : Course ticket P Q w) :
    Course ticket P Q w' := by
  have hboth : w'.Tidy ∧ Course ticket P Q w' :=
    changes_preserve (P := fun w => w.Tidy ∧ Course ticket P Q w)
      (fun hc hw => ⟨hc.tidy hw.1, hc.course_own carried own hw.1 hw.2⟩) h ⟨tidy, hw⟩
  exact hboth.2

/-- The act that names the ticket carries its course on, all by itself. -/
theorem step_course (carried : Carried T ticket P Q) {a : Act σ} (own : a.ticket? = some ticket)
    {w : Coordinator σ} (tidy : w.Tidy) (hw : Course ticket P Q w) :
    Course ticket P Q (w.step T a) :=
  changes_course carried own (step_changes w a) tidy hw

/-- An act that does not name the ticket leaves its course alone. -/
theorem step_course_aside (untouched : Untouched ticket P Q) {a : Act σ}
    (other : a.ticket? ≠ some ticket) {w : Coordinator σ} (hw : Course ticket P Q w) :
    Course ticket P Q (w.step T a) :=
  step_preserves (fun hc hw => hc.course_aside untouched other hw) hw

/-- A run carries the course of a call on if moves do so as long as something is kept
to along the run. -/
theorem run_course_along {L : Coordinator σ → Prop}
    (carried : Carried T ticket (fun w task => P w task ∧ R w task) Q)
    (untouched : Untouched ticket P Q)
    (holds : ∀ {w : Coordinator σ} {c : Call}, L w → w.call? ticket = some c → R w c.task) :
    ∀ (acts : List (Act σ)) {w : Coordinator σ}, w.Tidy →
      (∀ l, l <+: acts → L (w.run T l)) → Course ticket P Q w → Course ticket P Q (w.run T acts)
  | [], _, _, _, hw => hw
  | a :: acts, w, tidy, along, hw => by
    rw [run_cons]
    refine run_course_along carried untouched holds acts (step_tidy tidy a)
      (fun l hl => along (a :: l) (List.cons_prefix_cons.mpr ⟨rfl, hl⟩)) ?_
    by_cases own : a.ticket? = some ticket
    · have hboth : Course ticket (fun w task => P w task ∧ R w task) Q w := by
        cases hw with
        | pending found hP => exact .pending found ⟨hP, holds (along [] (List.nil_prefix)) found⟩
        | finished ended hQ => exact .finished ended hQ
      have hstep := step_course carried own tidy hboth
      cases hstep with
      | pending found hP => exact .pending found hP.1
      | finished ended hQ => exact .finished ended hQ
    · exact step_course_aside untouched own hw

/-- A ticket that is free stays free or is taken by a call that is yet to run. -/
theorem Change.begin {a : Act σ} {w w' : Coordinator σ} (h : Change T a w w')
    (hf : w.isFresh ticket = true) :
    w'.isFresh ticket = true ∨ ∃ job patience, a = .start ticket job patience ∧
      w'.call? ticket = some ⟨ticket, job.task, patience, none⟩ := by
  obtain ⟨hcall, hout⟩ := (isFresh_iff w ticket).mp hf
  by_cases own : a.ticket? = some ticket
  · cases h.own own with
    | @started job patience unused =>
      refine Or.inr ⟨job, patience, rfl, ?_⟩
      show (w.calls ++ [_]).find? _ = _
      rw [List.find?_append, show w.calls.find? _ = none from hcall]
      simp
    | ran limit same act found moves => exact absurd (hcall.symm.trans found) (by simp)
    | gaveUp same found outside => exact absurd (hcall.symm.trans found) (by simp)
  · refine Or.inl ((isFresh_iff w' ticket).mpr ⟨?_, ?_⟩)
    · exact (h.call? own).trans hcall
    · exact (h.outcome? own).trans hout

/-- A ticket is free, and as free tickets are, or its call is on its course. -/
def Followed (ticket : Nat) (F : Coordinator σ → Prop) (P : Coordinator σ → Task → Prop)
    (Q : Coordinator σ → Outcome → Prop) (w : Coordinator σ) : Prop :=
  (w.isFresh ticket = true ∧ F w) ∨ Course ticket P Q w

/-- A run carries on what is known of a ticket, also if its call starts in the run. -/
theorem run_followed {F : Coordinator σ → Prop} (carried : Carried T ticket P Q)
    (untouched : Untouched ticket P Q)
    (free : ∀ {a w w'}, Change T a w w' → w.isFresh ticket = true → F w → F w')
    (starts : ∀ {w} (job : Job), F w → P w job.task) {w : Coordinator σ} (tidy : w.Tidy)
    (hw : Followed ticket F P Q w) (acts : List (Act σ)) :
    Followed ticket F P Q (w.run T acts) := by
  have h : (w.run T acts).Tidy ∧ Followed ticket F P Q (w.run T acts) := by
    refine run_preserves (P := fun w => w.Tidy ∧ Followed ticket F P Q w) ?_ ⟨tidy, hw⟩
    intro a _ w w' hc ⟨ht, hw⟩
    refine ⟨hc.tidy ht, ?_⟩
    rcases hw with ⟨hf, hF⟩ | hcourse
    · have hF' := free hc hf hF
      rcases hc.begin hf with hf' | ⟨job, patience, -, hcall⟩
      · exact Or.inl ⟨hf', hF'⟩
      · exact Or.inr (.pending hcall (starts job hF'))
    · exact Or.inr (hc.course carried untouched ht hcourse)
  exact h.2

theorem Followed.of_call {F : Coordinator σ → Prop} {w : Coordinator σ} (hw : w.Tidy)
    (h : Followed ticket F P Q w) {c : Call} (hc : w.call? ticket = some c) : P w c.task := by
  rcases h with ⟨hf, -⟩ | hcourse
  · exact absurd (((isFresh_iff w ticket).mp hf).1.symm.trans hc) (by simp)
  · exact hcourse.of_call hw hc

theorem Followed.of_outcome {F : Coordinator σ → Prop} {w : Coordinator σ} (hw : w.Tidy)
    (h : Followed ticket F P Q w) {o : Outcome} (ho : w.outcome? ticket = some o) : Q w o := by
  rcases h with ⟨hf, -⟩ | hcourse
  · exact absurd (((isFresh_iff w ticket).mp hf).2.symm.trans ho) (by simp)
  · exact hcourse.of_outcome hw ho

/-! ## Calls that are over -/

/-- Nothing more is sent or noted for a call that is over. -/
theorem run_of_outcome {w : Coordinator σ} (tidy : w.Tidy) {o : Outcome}
    (ho : w.outcome? ticket = some o) (acts : List (Act σ)) :
    (w.run T acts).outcome? ticket = some o ∧
      (w.run T acts).dispatchesOf ticket = w.dispatchesOf ticket ∧
      (w.run T acts).notesOf ticket = w.notesOf ticket := by
  have same : Untouched ticket (fun (_ : Coordinator σ) _ => False) fun w' _ =>
      w'.dispatchesOf ticket = w.dispatchesOf ticket ∧ w'.notesOf ticket = w.notesOf ticket :=
    ⟨fun _ h => h, fun h hw => ⟨h.dispatches.trans hw.1, h.notes.trans hw.2⟩⟩
  have hend := (run_grows (T := T) w acts).outcome? ho
  have hcourse := run_course (T := T) (same.carried (fun _ h => h) (fun _ h => absurd h id)
    fun _ h => absurd h id) same tidy (.finished ho ⟨rfl, rfl⟩) acts
  exact ⟨hend, hcourse.of_outcome (run_tidy tidy acts) hend⟩

/-! ## Calls that have not been run -/

/-- Nothing has been sent or noted for a ticket. -/
def Silent (ticket : Nat) (w : Coordinator σ) : Prop :=
  w.dispatchesOf ticket = [] ∧ w.notesOf ticket = []

theorem Silent.aside {w w' : Coordinator σ} (h : Aside ticket w w') (hw : w.Silent ticket) :
    w'.Silent ticket :=
  ⟨h.dispatches.trans hw.1, h.notes.trans hw.2⟩

/-- Nothing is sent or noted for a call before it is run. -/
def Waits (ticket : Nat) (w : Coordinator σ) (task : Task) : Prop :=
  task.begun = false → w.Silent ticket

theorem waits_untouched :
    Untouched ticket (Waits (σ := σ) ticket) (fun _ _ => True) where
  pending h hw hb := (hw hb).aside h
  finished _ _ := trivial

theorem waits_carried : Carried T ticket (Waits ticket) (fun _ _ => True) :=
  waits_untouched.carried (fun h _ hb => absurd (h.begun.symm.trans hb) (by simp))
    (fun _ _ => trivial) fun _ _ => trivial

/-- A change touches a free ticket only to start a call under it. -/
theorem Change.silent {a : Act σ} {w w' : Coordinator σ} (h : Change T a w w')
    (hf : w.isFresh ticket = true) (hw : w.Silent ticket) : w'.Silent ticket := by
  by_cases own : a.ticket? = some ticket
  · obtain ⟨hcall, -⟩ := (isFresh_iff w ticket).mp hf
    cases h.own own with
    | started unused => exact hw
    | ran limit same act found moves => exact absurd (hcall.symm.trans found) (by simp)
    | gaveUp same found outside => exact absurd (hcall.symm.trans found) (by simp)
  · exact hw.aside (h.aside own)

/-- Nothing has been sent or noted for a pending call that has not been run. -/
theorem Reachable.silent {w : Coordinator σ} (h : Reachable T w) {c : Call}
    (hc : w.call? ticket = some c) (hb : c.task.begun = false) : w.Silent ticket := by
  have ht := h.tidy
  obtain ⟨line, identity, bus, acts, rfl⟩ := h
  have hw : Followed ticket (Silent ticket) (Waits ticket) (fun _ _ => True)
      (Coordinator.run T { line, identity, bus } acts) :=
    run_followed waits_carried waits_untouched Change.silent (fun _ hs _ => hs)
      (tidy_init line identity bus) (Or.inl ⟨rfl, rfl, rfl⟩) acts
  exact hw.of_call ht hc hb

theorem begun_of_settle {w : Coordinator σ} {c c' : Call} {p : Progress}
    (hp : p.Meets (·.begun = true) fun _ => True) (hc : c.ticket = ticket)
    (h : (w.settle c p).call? ticket = some c') : c'.task.begun = true := by
  subst hc
  cases p with
  | pending task =>
    have h' : (w.putCall { c with task }).call? c.ticket = some c' := h
    rw [call?_putCall] at h'
    obtain ⟨x, hx, he⟩ := Option.map_eq_some_iff.mp h'
    rw [if_pos (call?_ticket hx)] at he
    rw [← he]
    exact hp
  | ended o => exact absurd ((call?_settle_ended w c o).symm.trans h) (by simp)

theorem Moves.meets_begun {w w' : Coordinator σ} {task : Task} {p : Progress}
    (h : Moves T ticket w task p w') : p.Meets (·.begun = true) fun _ => True := by
  cases p with
  | pending task' => exact h.begun
  | ended o => exact trivial

/-- What an act that runs a call does to it, it does to a call that has begun. -/
theorem Change.begun {a : Act σ} {w w' : Coordinator σ} (h : Change T a w w')
    (ha : a.runs ticket) {c : Call} (hc : w'.call? ticket = some c) : c.task.begun = true := by
  cases h.own (Act.ticket?_of_runs ha) with
  | started => exact absurd ha id
  | @ran _ _ c p limit same act found moves =>
    have ht : ({ c with limit } : Call).ticket = ticket := same
    exact begun_of_settle moves.meets_begun ht hc
  | gaveUp same found outside =>
    rw [call?_abandon, if_pos same.symm] at hc
    exact absurd hc (by simp)

/-- A call that an act has run and that is still pending has begun. -/
theorem step_begun {a : Act σ} (ha : a.runs ticket) (w : Coordinator σ) {c : Call}
    (hc : (w.step T a).call? ticket = some c) : c.task.begun = true := by
  obtain ⟨order, hrest⟩ := step_of_poll (T := T) w ha
  rcases Relation.ReflTransGen.cases_tail hrest with he | ⟨w', -, hlast⟩
  · -- The act has only polled the call.
    rw [he] at hc
    cases hx : w.call? ticket with
    | none =>
      unfold poll at hc
      rw [hx] at hc
      exact absurd (hx.symm.trans hc) (by simp)
    | some x =>
      obtain ⟨limit, hp⟩ := poll_eq (T := T) hx order
      have hxt := call?_ticket hx
      have ht : ({ x with limit } : Call).ticket = ticket := hxt
      rw [hp] at hc
      exact begun_of_settle (moves_runTask w ticket order x.task).meets_begun ht hc
  · exact hlast.begun ha hc

/-- From the first run of a call on: what moves carry on and others leave alone of calls
that have begun. -/
theorem run_course_begun (carried : Carried T ticket P Q)
    (untouched : Untouched ticket (fun w task => task.begun = true ∧ P w task) (fun _ _ => True))
    {first : Act σ} (looksUp : first.runs ticket) {w : Coordinator σ} (tidy : w.Tidy)
    (hw : Course ticket P Q w) (acts : List (Act σ)) :
    Course ticket (fun w task => task.begun = true ∧ P w task) (fun _ _ => True)
      (w.run T (first :: acts)) := by
  rw [run_cons]
  refine run_course (untouched.carried (fun h hP => ⟨h.begun, carried.keeps h hP.2⟩)
    (fun _ _ => trivial) fun _ _ => trivial) untouched (step_tidy tidy first) ?_ acts
  have hstep := step_course carried (Act.ticket?_of_runs looksUp) tidy hw
  cases hstep with
  | pending found holds => exact .pending found ⟨step_begun looksUp w found, holds⟩
  | finished ended holds => exact .finished ended trivial

/-- Only an act that names its ticket can end a pending call. -/
theorem own_of_returns {w : Coordinator σ} {c : Call} (tidy : w.Tidy)
    (call : w.call? ticket = some c) {a : Act σ} {o : Outcome}
    (returns : (w.step T a).outcome? ticket = some o) : a.ticket? = some ticket := by
  by_contra other
  have hsame : (w.step T a).outcome? ticket = none :=
    step_preserves (P := fun x => x.outcome? ticket = none)
      (fun hc hx => (hc.outcome? other).trans hx) (tidy.outcome?_eq_none call)
  exact absurd (hsame.symm.trans returns) (by simp)

/-- From the first run of a call on, as long as it has not returned: what moves carry on,
and others leave alone of calls that have begun, holds of the call. -/
theorem course_of_waiting (carried : Carried T ticket P Q)
    (untouched : Untouched ticket (fun w task => task.begun = true ∧ P w task) (fun _ _ => True))
    {w : Coordinator σ} (tidy : w.Tidy) (hw : Course ticket P Q w) {acts : List (Act σ)}
    {first last : Act σ} (head : (acts ++ [last]).head? = some first)
    (looksUp : first.runs ticket) (waiting : (w.run T acts).outcome? ticket = none) :
    ∃ c, (w.run T acts).call? ticket = some c ∧ P (w.run T acts) c.task := by
  cases acts with
  | nil =>
    cases hw with
    | pending found holds => exact ⟨_, found, holds⟩
    | finished ended holds => exact absurd (waiting.symm.trans ended) (by simp)
  | cons a acts =>
    have he : a = first := Option.some.inj head
    subst he
    cases run_course_begun carried untouched looksUp tidy hw acts with
    | pending found holds => exact ⟨_, found, holds.2⟩
    | finished ended holds => exact absurd (waiting.symm.trans ended) (by simp)

/-- From the first run of a call to its return: such a fact holds of the outcome. -/
theorem course_of_return (carried : Carried T ticket P Q)
    (untouched : Untouched ticket (fun w task => task.begun = true ∧ P w task) (fun _ _ => True))
    {w : Coordinator σ} (tidy : w.Tidy) (hw : Course ticket P Q w) {acts : List (Act σ)}
    {first last : Act σ} (head : (acts ++ [last]).head? = some first)
    (looksUp : first.runs ticket) (waiting : (w.run T acts).outcome? ticket = none) {o : Outcome}
    (returns : (w.run T (acts ++ [last])).outcome? ticket = some o) :
    Q (w.run T (acts ++ [last])) o := by
  obtain ⟨c, found, holds⟩ := course_of_waiting carried untouched tidy hw head looksUp waiting
  have htidy := run_tidy (T := T) tidy (acts ++ [last])
  have hty := run_tidy (T := T) tidy acts
  rw [run_concat] at returns htidy ⊢
  have own := own_of_returns hty found returns
  exact (step_course carried own hty (.pending found holds)).of_outcome htidy returns

/-! ## Calls that are not run -/

/-- Where a call is that is not run: where it was, or given up. -/
abbrev Stays (ticket : Nat) (task : Task) (w : Coordinator σ) : Prop :=
  Course ticket (fun _ t => t = task) (fun _ o => o = .aborted ∨ o = .outOfPatience) w

theorem Change.stays {a : Act σ} {w w' : Coordinator σ} (h : Change T a w w')
    (idle : ¬ a.runs ticket) (tidy : w.Tidy) {task : Task} (hw : w.Stays ticket task) :
    w'.Stays ticket task := by
  by_cases own : a.ticket? = some ticket
  · cases h.own own with
    | started unused => exact absurd unused hw.not_fresh
    | ran limit same act found moves => exact absurd act idle
    | gaveUp same found outside => exact course_abandon tidy found outside
  · exact h.course_aside ⟨fun _ h => h, fun _ h => h⟩ own hw

/-- A call that is not run stays where it is, unless its caller gives it up. -/
theorem run_stays {w : Coordinator σ} (tidy : w.Tidy) {c : Call} (call : w.call? ticket = some c)
    {acts : List (Act σ)} (idle : ∀ a ∈ acts, ¬ a.runs ticket) :
    (w.run T acts).Stays ticket c.task := by
  have h : (w.run T acts).Tidy ∧ (w.run T acts).Stays ticket c.task :=
    run_preserves (P := fun w => w.Tidy ∧ w.Stays ticket c.task)
      (fun a ha _ _ hc hw => ⟨hc.tidy hw.1, hc.stays (idle a ha) hw.1 hw.2⟩)
      ⟨tidy, .pending call rfl⟩
  exact h.2

/-- Of acts some of which run a call one is the first to do so. -/
theorem exists_first_run {acts : List (Act σ)} (h : ∃ a ∈ acts, a.runs ticket) :
    ∃ before a after, acts = before ++ a :: after ∧ a.runs ticket ∧
      ∀ b ∈ before, ¬ b.runs ticket := by
  induction acts with
  | nil =>
    obtain ⟨a, ha, -⟩ := h
    exact absurd ha List.not_mem_nil
  | cons a acts ih =>
    by_cases hr : a.runs ticket
    · exact ⟨[], a, acts, rfl, hr, fun b hb => absurd hb List.not_mem_nil⟩
    · obtain ⟨b, hb, hbr⟩ := h
      have hmem : b ∈ acts := (List.mem_cons.mp hb).resolve_left fun he => hr (he ▸ hbr)
      obtain ⟨before, x, after, rfl, hx, hbefore⟩ := ih ⟨b, hmem, hbr⟩
      refine ⟨a :: before, x, after, rfl, hx, fun y hy => ?_⟩
      rcases List.mem_cons.mp hy with rfl | hy
      · exact hr
      · exact hbefore y hy

end VoiceGateway.Coordinator
