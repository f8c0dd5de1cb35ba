import VoiceGateway.Proofs.Handshake.Ledger
import VoiceGateway.Proofs.Handshake.Lifecycle

/-!
# How sessions end

A session stays with its guild until the guild is evicted, and three things do that:
a disconnect, an eviction from outside, and the cleanup of a join of the guild that
has found no session and fails although its command was accepted. The cleanup asks
nobody whose session it ends, so it may be one that another join has registered in the
meantime (`cleanup_ends_foreign_session`). A join that has found a session does not
clean up.

Likewise a join answers with the session that it has found, whatever has become of it
since (`renewal_answers_with_ended_session`), while a handshake that completes answers
with the session that its guild has at that moment.

> `session_endings`: what ends a session, and what a failing join does to it.
> `joined_session`: which session a join is answered with, and whether it is live.
-/

namespace VoiceGateway

/-- Whether a join has looked its guild up and found no session. -/
def JoinStage.missed : JoinStage → Bool
  | .opening .. | .gathering .. | .leaving .. => true
  | .fresh | .renewing .. | .awaitingEcho .. => false

/-- What a call is to do, whatever stage it is at. -/
def Task.job : Task → Job
  | .join q _ => .join q
  | .disconnect g _ => .disconnect g
  | .watch g _ => .watch g

/-- Whether the task is a join that has found no session. -/
def Task.missed : Task → Bool
  | .join _ stage => stage.missed
  | _ => false

theorem Task.job_eq_join {task : Task} {q : JoinRequest} (h : task.job = .join q) :
    ∃ stage, task = .join q stage := by
  cases task with
  | join q' stage =>
    injection h with h
    exact ⟨stage, h ▸ rfl⟩
  | disconnect => exact absurd h (by simp [Task.job])
  | watch => exact absurd h (by simp [Task.job])

namespace Coordinator

variable {σ : Type} {T : Transport σ} {ticket : Nat} {g : Snowflake} {s : SessionRef}

/-! ## Sessions that have ended -/

/-- The session is what the guild has, and its record says so. -/
def Live (g : Snowflake) (s : SessionRef) (w : Coordinator σ) : Prop :=
  w.registry.get? g = some s ∧ ∃ x, w.registry.record? s = some ⟨x, .connected⟩

/-- The session is what no guild has, and its record says so. -/
def Dead (s : SessionRef) (w : Coordinator σ) : Prop :=
  (∀ g, w.registry.get? g ≠ some s) ∧ ∃ x, w.registry.record? s = some ⟨x, .disconnected⟩

theorem Reachable.live {w : Coordinator σ} (h : Reachable T w)
    (holds : w.registry.get? g = some s) : w.Live g s := by
  obtain ⟨⟨x, state⟩, hx, -, hc⟩ := h.lawful.live g s holds
  have hstate : state = .connected := hc
  subst hstate
  exact ⟨holds, x, hx⟩

/-- A session that its guild does not have any more has ended. -/
theorem Reachable.dead_of_lost {w w' : Coordinator σ} {By : Option Nat → Prop}
    (h : Reachable T w) (h' : Reachable T w') (hg : Grows By w w')
    (holds : w.registry.get? g = some s) (lost : w'.registry.get? g ≠ some s) : w'.Dead s := by
  obtain ⟨⟨x, state⟩, hx, hxg, -⟩ := h.lawful.live g s holds
  obtain ⟨state', hx'⟩ := hg.registry.session hx
  have hxg' : x.guild = g := hxg
  cases state' with
  | connected => exact absurd (hxg' ▸ h'.lawful.held s _ hx' rfl) lost
  | disconnected => exact ⟨h'.lawful.not_registered hx' rfl, x, hx'⟩

theorem dead_of_grows {w w' : Coordinator σ} {By : Option Nat → Prop} (h : Grows By w w')
    (lawful : w'.registry.Lawful) (hd : w.Dead s) : w'.Dead s := by
  obtain ⟨x, hx⟩ := hd.2
  have hx' := h.registry.disconnected hx
  exact ⟨lawful.not_registered hx' rfl, x, hx'⟩

/-! ## One call and the session of a guild -/

/-- How a call ends by which the session of a guild ends. A join must have found no
session (`missed`) and have failed after its command was accepted. -/
inductive Closes (g : Snowflake) (missed : Prop) : Job → Outcome → Prop
  | left (refusal : Option TransportError) :
      Closes g missed (.disconnect g) (leaveOutcome refusal true)
  | cleanedUp {q : JoinRequest} {cause : JoinError} (guild : q.guild = g) (found : missed)
      (own : CleanupCause q cause) : Closes g missed (.join q) (.joinFailed cause)

/-- What is known of a join by the stage it is at: one of the guild has missed the
session if it goes by that, and one that leaves has failed after its command was accepted. -/
def Warranted (g : Snowflake) (missed : Prop) : Task → Prop
  | .join q (.opening ..) | .join q (.gathering ..) => q.guild = g → missed
  | .join q (.leaving cause _) => (q.guild = g → missed) ∧ CleanupCause q cause
  | _ => True

/-- What is known of a pending call while the guild has its session. -/
structure Minds (g : Snowflake) (s : SessionRef) (job : Job) (missed : Prop)
    (w : Coordinator σ) (task : Task) : Prop where
  holds : w.registry.get? g = some s
  job : task.job = job
  warranted : Warranted g missed task

/-- How a call may have ended: the guild still has its session, or the call is one of
those that end it. -/
def Spared (g : Snowflake) (s : SessionRef) (job : Job) (missed : Prop) (w : Coordinator σ)
    (o : Outcome) : Prop :=
  w.registry.get? g = some s ∨ Closes g missed job o

variable {job : Job} {missed : Prop}

/-- A join that fails has missed the session that its guild has by now. -/
theorem Warranted.of_fails {w : Coordinator σ} {q : JoinRequest} {stage : JoinStage}
    {cause : JoinError} (h : Warranted g missed (.join q stage)) (fails : Fails w q stage cause) :
    q.guild = g → missed := by
  cases fails with
  | selfIdMissing accepted missing => exact h
  | streamClosed closed => exact h
  | expired late => exact h

theorem Move.minds {w w' : Coordinator σ} {task task' : Task}
    (h : Move T ticket w task (.pending task') w') (hw : Minds g s job missed w task) :
    Minds g s job missed w' task' := by
  obtain ⟨holds, hjob, hwarr⟩ := hw
  cases h with
  | «open» miss =>
    -- A join of the guild itself would have found its session.
    refine ⟨holds, hjob, fun hq => ?_⟩
    rw [hq, holds] at miss
    exact absurd miss (by simp)
  | openingAccepted accepted known => exact ⟨holds, hjob, hwarr⟩
  | gather waits => exact ⟨holds, hjob, hwarr⟩
  | fail fails => exact ⟨holds, hjob, hwarr.of_fails fails, fails.cleanupCause⟩
  | _ => exact ⟨holds, hjob, trivial⟩

theorem Move.spared {w w' : Coordinator σ} {task : Task} {o : Outcome}
    (h : Move T ticket w task (.ended o) w') (hw : Minds g s job missed w task) :
    Spared g s job missed w' o := by
  obtain ⟨holds, rfl, hwarr⟩ := hw
  cases h with
  | @left g' f =>
    by_cases hg : g' = g
    · subst hg
      have he : (w.evict (some ticket) g').1 = true := by
        unfold evict
        rw [Registry.evict_of_some holds]
      rw [he]
      exact Or.inr (.left f.refusal)
    · refine Or.inl ?_
      rw [evict_registry, Registry.get?_evict_of_ne hg]
      exact holds
  | @cleanedUp q cause f =>
    by_cases hg : q.guild = g
    · exact Or.inr (.cleanedUp hg (hwarr.1 hg) hwarr.2)
    · refine Or.inl ?_
      rw [finishFailure_registry, Registry.get?_evict_of_ne hg]
      exact holds
  | won met free => exact Or.inl (Registry.get?_tryRegister_of_some holds)
  | _ => exact Or.inl holds

theorem minds_carried : Carried T ticket (Minds g s job missed) (Spared g s job missed) where
  keeps := Move.minds
  leaves := Move.spared
  quits := by
    intro w c o _ hP
    refine Or.inl ?_
    rw [abandon_eq, withdraw_eq]
    exact hP.holds
  settled hP := ⟨hP.holds, hP.job, hP.warranted⟩
  answered := by
    intro w c o hQ
    exact hQ.imp_left id

/-- A pending join that leaves has failed after its command was accepted. -/
theorem Reachable.warranted {w : Coordinator σ} (h : Reachable T w) {c : Call}
    (call : w.call? ticket = some c) (g : Snowflake) : Warranted g True c.task := by
  have htidy := h.tidy
  obtain ⟨line, identity, bus, acts, rfl⟩ := h
  have untouched : Untouched ticket (fun (_ : Coordinator σ) task => Warranted g True task)
      (fun _ _ => True) := ⟨fun _ h => h, fun _ _ => trivial⟩
  have keeps : ∀ {w w' : Coordinator σ} {task task' : Task},
      Move T ticket w task (.pending task') w' → Warranted g True task →
        Warranted g True task' := by
    intro w w' task task' h hw
    cases h with
    | fail fails => exact ⟨fun _ => trivial, fails.cleanupCause⟩
    | _ => simp [Warranted]
  have hw : Followed ticket (fun _ => True) (fun (_ : Coordinator σ) task => Warranted g True task)
      (fun _ _ => True) (Coordinator.run T { line, identity, bus } acts) :=
    run_followed (untouched.carried keeps (fun _ _ => trivial) fun _ _ => trivial) untouched
      (fun _ _ _ => trivial) (fun job _ => by cases job <;> trivial)
      (tidy_init line identity bus) (Or.inl ⟨rfl, trivial⟩) acts
  exact hw.of_call htidy call

theorem Reachable.minds {w : Coordinator σ} (h : Reachable T w)
    (holds : w.registry.get? g = some s) {c : Call} (call : w.call? ticket = some c) :
    Minds g s c.task.job (c.task.missed = true) w c.task := by
  have hwarr := h.warranted call g
  refine ⟨holds, rfl, ?_⟩
  unfold Warranted at hwarr ⊢
  split at hwarr
  · next heq => exact fun _ => heq ▸ rfl
  · next heq => exact fun _ => heq ▸ rfl
  · next heq => exact ⟨fun _ => heq ▸ rfl, hwarr.2⟩
  · trivial

/-! ## One act and the session of a guild -/

/-- The acts that end the session of a guild, at the coordinator before them: an eviction
from outside, the last run of a disconnect, and the last run of a join that has found no
session and fails after its command was accepted. -/
inductive Ends (T : Transport σ) (g : Snowflake) (w : Coordinator σ) : Act σ → Prop
  | evicted : Ends T g w (.evict g)
  | disconnected {a : Act σ} {t : Nat} {c : Call} {refusal : Option TransportError}
      (runs : a.runs t) (call : w.call? t = some c) (job : c.task.job = .disconnect g)
      (returns : (w.step T a).outcome? t = some (leaveOutcome refusal true)) : Ends T g w a
  | cleanedUp {a : Act σ} {t : Nat} {c : Call} {q : JoinRequest} {stage : JoinStage}
      {cause : JoinError} (runs : a.runs t) (call : w.call? t = some c)
      (task : c.task = .join q stage) (guild : q.guild = g) (missed : stage.missed = true)
      (own : CleanupCause q cause)
      (returns : (w.step T a).outcome? t = some (.joinFailed cause)) : Ends T g w a

/-- To run a pending call leaves the session of a guild or is what ends it. -/
theorem Reachable.run_ends {w : Coordinator σ} (h : Reachable T w)
    (holds : w.registry.get? g = some s) {a : Act σ} (runs : a.runs ticket) {c : Call}
    (call : w.call? ticket = some c) :
    (w.step T a).registry.get? g = some s ∨ Ends T g w a := by
  have hstep := step_course (T := T) minds_carried (Act.ticket?_of_runs runs) h.tidy
    (.pending call (h.minds holds call))
  cases hstep with
  | pending found hP => exact Or.inl hP.holds
  | finished ended hQ =>
    refine hQ.imp id fun hcloses => ?_
    generalize hjob : c.task.job = job at hcloses
    cases hcloses with
    | left refusal => exact .disconnected runs call hjob ended
    | cleanedUp guild missed own =>
      obtain ⟨stage, htask⟩ := Task.job_eq_join hjob
      rw [htask] at missed
      exact .cleanedUp runs call htask guild missed own ended

/-- An act leaves the session of a guild or is what ends it. -/
theorem Reachable.step_ends {w : Coordinator σ} (h : Reachable T w)
    (holds : w.registry.get? g = some s) (a : Act σ) :
    (w.step T a).registry.get? g = some s ∨ Ends T g w a := by
  cases a with
  | start ticket job patience =>
    simp only [step, start]
    split <;> exact Or.inl holds
  | abort ticket =>
    refine Or.inl ?_
    simp only [step, abort]
    split
    · exact holds
    · rw [abandon_eq, withdraw_eq]
      exact holds
  | register x => exact Or.inl (Registry.get?_tryRegister_of_some holds)
  | evict g' =>
    by_cases hg : g' = g
    · exact Or.inr (hg ▸ .evicted)
    · refine Or.inl ?_
      simp only [step]
      rw [evict_registry, Registry.get?_evict_of_ne hg]
      exact holds
  | poll ticket order =>
    cases hc : w.call? ticket with
    | none =>
      simp only [step, poll, hc]
      exact Or.inl holds
    | some c => exact h.run_ends holds rfl hc
  | expire ticket order =>
    cases hc : w.call? ticket with
    | none =>
      simp only [step, expire, poll, hc]
      exact Or.inl holds
    | some c => exact h.run_ends holds rfl hc
  | _ => exact Or.inl holds

/-- An act leaves the session of a guild, or is one that ends it and leaves it dead. -/
theorem Reachable.live_or_dead {w : Coordinator σ} (h : Reachable T w)
    (holds : w.registry.get? g = some s) (a : Act σ) :
    (w.step T a).Live g s ∨ Ends T g w a ∧ (w.step T a).Dead s := by
  by_cases kept : (w.step T a).registry.get? g = some s
  · exact Or.inl ((h.run [a]).live kept)
  · have hends := (h.step_ends holds a).resolve_left kept
    exact Or.inr ⟨hends, h.dead_of_lost (h.run [a]) (step_grows w a) holds kept⟩

/-! ## Runs and the session of a guild -/

/-- One of the acts of a run ends the session of a guild. -/
def EndedIn (T : Transport σ) (g : Snowflake) (s : SessionRef) (w : Coordinator σ)
    (acts : List (Act σ)) : Prop :=
  ∃ before a after, acts = before ++ a :: after ∧ (w.run T before).Live g s ∧
    Ends T g (w.run T before) a ∧ (w.run T (before ++ [a])).Dead s

/-- A guild keeps its session in a run, or one of the acts ends it for good. -/
theorem Reachable.live_or_ended {w : Coordinator σ} (h : Reachable T w)
    (holds : w.registry.get? g = some s) (acts : List (Act σ)) :
    (w.run T acts).Live g s ∨ (w.run T acts).Dead s ∧ EndedIn T g s w acts := by
  induction acts generalizing w with
  | nil => exact Or.inl (h.live holds)
  | cons a acts ih =>
    have hstep := h.run [a]
    rcases h.live_or_dead holds a with hlive | ⟨hends, hdead⟩
    · rcases ih hstep hlive.1 with hlive | ⟨hdead, before, b, after, rfl, hlive, hends, hthen⟩
      · exact Or.inl hlive
      · exact Or.inr ⟨hdead, a :: before, b, after, rfl, hlive, hends, hthen⟩
    · refine Or.inr ⟨?_, [], a, acts, rfl, h.live holds, hends, hdead⟩
      exact dead_of_grows (run_grows (w.step T a) acts) (hstep.run acts).lawful hdead

/-! ## A join that fails -/

variable {q : JoinRequest}

/-- What a join that has found no session owes says so. -/
theorem Owes.miss {w : Coordinator σ} {found : Option SessionRef} {me : Option Snowflake}
    {stage : JoinStage} (h : Owes T ticket q found me w stage) (missed : stage.missed = true) :
    found = none := by
  cases stage with
  | opening => exact h.1
  | gathering => exact h.1
  | leaving => exact h.1
  | _ => exact absurd missed (by simp [JoinStage.missed])

/-- The failure of a handshake is not that of a refused command. -/
theorem Paid.accepted {w : Coordinator σ} {found : Option SessionRef} {me : Option Snowflake}
    {cause : JoinError} (h : Paid T ticket q found me w (.joinFailed cause)) (miss : found = none)
    (own : CleanupCause q cause) : w.refusalOf ticket = none := by
  cases h with
  | anonymous hit missing silent noted => exact absurd miss hit
  | refused known sent noted => exact absurd own (by simp [CleanupCause])
  | unechoed hit known sent noted => exact absurd miss hit
  | cleanedUp _ _ sent noted free => exact sent.refusalOf
  | givenUp outside => exact absurd outside (by simp)

/-- A join that fails with the act that ends a session had found none, and its command
was accepted. -/
theorem Ends.of_join {w : Coordinator σ} {a : Act σ} (h : Ends T g w a)
    (own : a.ticket? = some ticket) {c : Call} (call : w.call? ticket = some c)
    {stage : JoinStage} (task : c.task = .join q stage) {cause : JoinError}
    (returns : (w.step T a).outcome? ticket = some (.joinFailed cause)) :
    stage.missed = true ∧ CleanupCause q cause := by
  cases h with
  | evicted => exact absurd own (by simp [Act.ticket?])
  | disconnected runs call' job returns' =>
    obtain rfl := Option.some.inj ((Act.ticket?_of_runs runs).symm.trans own)
    obtain rfl := Option.some.inj (call'.symm.trans call)
    rw [task] at job
    exact absurd job (by simp [Task.job])
  | cleanedUp runs call' task' guild missed ownCause returns' =>
    obtain rfl := Option.some.inj ((Act.ticket?_of_runs runs).symm.trans own)
    obtain rfl := Option.some.inj (call'.symm.trans call)
    have ho := Option.some.inj (returns'.symm.trans returns)
    injection ho with ho
    have ht := task'.symm.trans task
    injection ht with hq hstage
    exact ⟨hstage ▸ missed, hq ▸ ho ▸ ownCause⟩

/-- A session that a guild has stays with it, live, or one of the acts ends it: an
eviction from outside, a disconnect of the guild, or a join of it that has found no
session and fails although its command was accepted. What a join does, from its first
run on, that fails while its guild has a session: if it has found none and its command
was accepted, then that session has ended when the join returns, and the guild has
none; else the session is the guild's, and live. -/
theorem session_endings {w : Coordinator σ} (hw : Reachable T w) (acts : List (Act σ)) :
    let z := w.run T acts
    (∀ g s, w.registry.get? g = some s →
      z.Live g s ∨ z.Dead s ∧ EndedIn T g s w acts) ∧
    ∀ ticket c q first last cause s, w.call? ticket = some c → c.task = .join q .fresh →
      (acts ++ [last]).head? = some first → first.runs ticket → z.outcome? ticket = none →
      z.registry.get? q.guild = some s →
      (z.step T last).outcome? ticket = some (.joinFailed cause) →
      let y := z.step T last
      (w.registry.get? q.guild = none ∧ y.refusalOf ticket = none →
        y.Dead s ∧ y.registry.get? q.guild = none) ∧
      (¬ (w.registry.get? q.guild = none ∧ y.refusalOf ticket = none) → y.Live q.guild s) := by
  intro z
  refine ⟨fun g s holds => hw.live_or_ended holds acts, ?_⟩
  intro ticket c q first last cause s call fresh head looksUp waiting holds returns y
  have hz : Reachable T z := hw.run acts
  have hpaid : Paid T ticket q (w.registry.get? q.guild) w.identity.selfId y
      (.joinFailed cause) := by
    have h := paid_of_return hw call fresh head looksUp waiting (by rw [run_concat]; exact returns)
    rw [run_concat] at h
    exact h
  constructor
  · rintro ⟨miss, accepted⟩
    have free := (hpaid.of_failed miss accepted).2.2
    have lost : y.registry.get? q.guild ≠ some s := by
      rw [free]
      simp
    exact ⟨hz.dead_of_lost (hz.run [last]) (step_grows z last) holds lost, free⟩
  · intro other
    refine (hz.live_or_dead holds last).resolve_right ?_
    rintro ⟨hends, -⟩
    obtain ⟨c', found, stage, htask, howes⟩ :=
      course_of_waiting owes_carried begun_untouched hw.tidy (hw.owes call fresh) head looksUp
        waiting
    have own := own_of_returns hz.tidy found returns
    obtain ⟨missed, ownCause⟩ := hends.of_join own found htask returns
    have miss := howes.miss missed
    exact other ⟨miss, hpaid.accepted miss ownCause⟩

/-- A join that has found the session fails for the end of the stream, and leaves it. -/
theorem session_endings_of_failed_renewal :
    let T := Transport.scripted 4
    let q : JoinRequest := ⟨⟨1⟩, ⟨2⟩, false, false, .ofSecs 5⟩
    let w : Coordinator LineMode :=
      run T { line := .accepts, identity := .fixed (some ⟨7⟩) }
        [.start 0 (.join q) none, .poll 0 statesFirst, .publish (.state ⟨⟨1⟩, ⟨7⟩, none, "s"⟩),
          .publish (.server ⟨⟨1⟩, some "e", "t"⟩), .poll 0 statesFirst, .start 1 (.join q) none]
    let y := (w.run T [.poll 1 statesFirst, .close .state]).step T (.poll 1 statesFirst)
    w.outcome? 0 = some (.joined ⟨0⟩) ∧
      y.outcome? 1 = some (.joinFailed (.streamClosed .state)) ∧ y.Live ⟨1⟩ ⟨0⟩ := by
  intro T q w y
  have hw : Reachable T w := ⟨_, _, _, _, rfl⟩
  have call : w.call? 1 = some ⟨1, .join q .fresh, none, none⟩ := by decide
  have looksUp : (Act.poll 1 statesFirst : Act LineMode).runs 1 := rfl
  have returns : y.outcome? 1 = some (.joinFailed (.streamClosed .state)) := by decide
  have h := (session_endings hw [.poll 1 statesFirst, .close .state]).2 1 _ q _
    (.poll 1 statesFirst) _ ⟨0⟩ call rfl rfl looksUp (by decide) (by decide) returns
  exact ⟨by decide, returns, h.2 (by decide)⟩

/-- A join times out that has found no session, and with its cleanup ends the session
that another join has been answered with in the meantime. -/
theorem cleanup_ends_foreign_session :
    let T := Transport.scripted 4
    let q : JoinRequest := ⟨⟨1⟩, ⟨2⟩, false, false, .ofSecs 5⟩
    let w : Coordinator LineMode :=
      run T { line := .accepts, identity := .fixed (some ⟨7⟩) }
        [.start 0 (.join q) none, .poll 0 statesFirst, .publish (.state ⟨⟨1⟩, ⟨7⟩, none, "s"⟩),
          .start 1 (.join q) none, .poll 1 statesFirst,
          .publish (.server ⟨⟨1⟩, some "e", "t"⟩), .poll 0 statesFirst,
          .advance q.timeout.nanos]
    let y := w.step T (.expire 1 statesFirst)
    w.outcome? 0 = some (.joined ⟨0⟩) ∧ w.registry.get? ⟨1⟩ = some ⟨0⟩ ∧
      (w.registry.record? ⟨0⟩).map (·.state) = some .connected ∧
      y.outcome? 1 = some (.joinFailed (.timeout q.timeout)) ∧ y.registry.get? ⟨1⟩ = none ∧
      (y.registry.record? ⟨0⟩).map (·.state) = some .disconnected := by
  decide

/-! ## The session that a join answers with -/

/-- A join that has found no session, or finds none if it looks now. -/
def Misses (q : JoinRequest) (w : Coordinator σ) (task : Task) : Prop :=
  task.job = .join q ∧ (task.missed = true ∨ task.begun = false ∧ w.registry.get? q.guild = none)

/-- The session that the call has ended with is what the guild has. -/
def Holds (q : JoinRequest) (w : Coordinator σ) (o : Outcome) : Prop :=
  ∀ s, o = .joined s → w.registry.get? q.guild = some s

theorem Move.misses {w w' : Coordinator σ} {task task' : Task}
    (h : Move T ticket w task (.pending task') w') (hw : Misses q w task) : Misses q w' task' := by
  obtain ⟨hjob, hmiss⟩ := hw
  cases h with
  | «open» miss => exact ⟨hjob, Or.inl rfl⟩
  | openingAccepted accepted known => exact ⟨hjob, Or.inl rfl⟩
  | gather waits => exact ⟨hjob, Or.inl rfl⟩
  | fail fails => exact ⟨hjob, Or.inl rfl⟩
  | renew hit known =>
    -- Such a join does not find a session.
    injection hjob with hq
    subst hq
    rcases hmiss with missed | ⟨-, miss⟩
    · exact absurd missed (by simp [Task.missed, JoinStage.missed])
    · exact absurd (miss.symm.trans hit) (by simp)
  | renewalAccepted => exact absurd hmiss (by simp [Task.missed, JoinStage.missed, Task.begun])
  | unechoed => exact absurd hmiss (by simp [Task.missed, JoinStage.missed, Task.begun])
  | leave => exact absurd hjob (by simp [Task.job])
  | watch => exact absurd hjob (by simp [Task.job])
  | unassigned => exact absurd hjob (by simp [Task.job])

theorem Move.holds {w w' : Coordinator σ} {task : Task} {o : Outcome}
    (h : Move T ticket w task (.ended o) w') (hw : Misses q w task) : Holds q w' o := by
  obtain ⟨hjob, hmiss⟩ := hw
  intro s hs
  cases h with
  | @won q' r _ _ e v met free =>
    injection hjob with hq
    subst hq
    injection hs with hs
    rw [← hs]
    exact Registry.get?_tryRegister_of_none (x := sessionOf T q' r.selfId e v) free
  | @lost q' _ _ _ _ _ _ met taken =>
    injection hjob with hq
    subst hq
    injection hs with hs
    rw [← hs]
    exact taken
  | echoed => exact absurd hmiss (by simp [Task.missed, JoinStage.missed, Task.begun])
  | @left _ f =>
    unfold leaveOutcome at hs
    split at hs <;> exact absurd hs (by simp)
  | _ => exact absurd hs (by simp)

theorem misses_carried : Carried T ticket (Misses q) (Holds q) where
  keeps := Move.misses
  leaves := Move.holds
  quits := by
    rintro w c o (rfl | rfl) - s hs
    · exact absurd hs (by simp)
    · exact absurd hs (by simp)
  settled hP := hP
  answered hQ := hQ

theorem misses_untouched :
    Untouched ticket (fun w task => task.begun = true ∧ Misses q w task)
      (fun (_ : Coordinator σ) _ => True) where
  pending := by
    rintro w w' task - ⟨begun, hjob, hmiss⟩
    refine ⟨begun, hjob, Or.inl (hmiss.resolve_right ?_)⟩
    rintro ⟨fresh, -⟩
    exact absurd (begun.symm.trans fresh) (by simp)
  finished _ _ := trivial

/-- A join is answered, from its first run on, with a session that its guild has, live,
if it has found none; and else with the one that it has found, which its guild has,
live, unless one of the acts since then has ended it. -/
theorem joined_session {u : Coordinator σ} (hu : Reachable T u) {c : Call}
    (call : u.call? ticket = some c) (fresh : c.task = .join q .fresh) {acts : List (Act σ)}
    {first last : Act σ} (head : (acts ++ [last]).head? = some first)
    (looksUp : first.runs ticket) (waiting : (u.run T acts).outcome? ticket = none)
    (returns : (u.run T (acts ++ [last])).outcome? ticket = some (.joined s)) :
    let z := u.run T (acts ++ [last])
    (u.registry.get? q.guild = none → z.Live q.guild s) ∧
    ∀ s', u.registry.get? q.guild = some s' → s = s' ∧
      (z.Live q.guild s ∨ z.Dead s ∧ EndedIn T q.guild s u (acts ++ [last])) := by
  intro z
  constructor
  · intro miss
    have hcourse : Course ticket (Misses q) (Holds q) u :=
      .pending call (by rw [fresh]; exact ⟨rfl, Or.inr ⟨rfl, miss⟩⟩)
    have holds := course_of_return misses_carried misses_untouched hu.tidy hcourse head looksUp
      waiting returns
    exact (hu.run _).live (holds s rfl)
  · intro s' hit
    have hpaid := paid_of_return hu call fresh head looksUp waiting returns
    have found := (hpaid.of_hit (by simp) (by simp [hit])).2.2.1 s rfl
    have hs := Option.some.inj (found.symm.trans hit)
    exact ⟨hs, hu.live_or_ended found _⟩

/-- A join that loses the race is answered with the session of the other, which is live. -/
theorem joined_session_of_race :
    let T := Transport.scripted 4
    let q : JoinRequest := ⟨⟨1⟩, ⟨2⟩, false, false, .ofSecs 5⟩
    let u : Coordinator LineMode :=
      run T { line := .accepts, identity := .fixed (some ⟨7⟩) }
        [.start 0 (.join q) none, .start 1 (.join q) none, .poll 0 statesFirst]
    let z := u.run T ([.poll 1 statesFirst, .publish (.state ⟨⟨1⟩, ⟨7⟩, none, "s"⟩),
      .publish (.server ⟨⟨1⟩, some "e", "t"⟩), .poll 0 statesFirst] ++ [.poll 1 statesFirst])
    z.outcome? 0 = some (.joined ⟨0⟩) ∧ z.outcome? 1 = some (.joined ⟨0⟩) ∧
      z.Live ⟨1⟩ ⟨0⟩ := by
  intro T q u z
  have hu : Reachable T u := ⟨_, _, _, _, rfl⟩
  have call : u.call? 1 = some ⟨1, .join q .fresh, none, none⟩ := by decide
  have looksUp : (Act.poll 1 statesFirst : Act LineMode).runs 1 := rfl
  have returns : z.outcome? 1 = some (.joined ⟨0⟩) := by decide
  have h := joined_session hu call rfl rfl looksUp (by decide) returns
  exact ⟨by decide, returns, h.1 (by decide)⟩

/-- A join has found a session, a disconnect ends it, and the echo of the leave is what
the join has waited for: it answers with a session that no guild has. -/
theorem renewal_answers_with_ended_session :
    let T := Transport.scripted 4
    let q : JoinRequest := ⟨⟨1⟩, ⟨2⟩, false, false, .ofSecs 5⟩
    let w : Coordinator LineMode :=
      run T { line := .accepts, identity := .fixed (some ⟨7⟩) }
        [.start 0 (.join q) none, .poll 0 statesFirst, .publish (.state ⟨⟨1⟩, ⟨7⟩, none, "s"⟩),
          .publish (.server ⟨⟨1⟩, some "e", "t"⟩), .poll 0 statesFirst,
          .start 1 (.join q) none, .poll 1 statesFirst, .start 2 (.disconnect ⟨1⟩) none,
          .poll 2 statesFirst, .publish (.state ⟨⟨1⟩, ⟨7⟩, none, "s"⟩)]
    let z := w.step T (.poll 1 statesFirst)
    w.outcome? 1 = none ∧ w.outcome? 2 = some (.left true) ∧
      z.outcome? 1 = some (.joined ⟨0⟩) ∧ z.registry.get? ⟨1⟩ = none ∧
      (z.registry.record? ⟨0⟩).map (·.state) = some .disconnected := by
  decide

end Coordinator

end VoiceGateway
