import Mathlib.Data.List.Induction
import VoiceGateway.Proofs.Handshake.Isolation
import VoiceGateway.Proofs.Handshake.Routing
import VoiceGateway.Transport.Scripted

/-!
# The acts of other guilds may be deleted

A transport without a state answers by the command alone, and if it publishes nothing
either, nothing gets through it from one guild to another. What is left for one guild
(`Coordinator.alone`) is then the list of acts with those deleted that are about other
guilds. Whom an act is about that names a ticket is known from the guild that the ticket is
used for.

> `started_of_used`, `used_of_started`: the tickets that are not free are those that calls
> were started with.
> `run_filter`: deleting the acts about others is to leave the guild alone.
> `deletion_unnoticed`: the guild does not notice, after any part of a run.
-/

namespace VoiceGateway

/-- A transport that has no state, so that it answers by the command alone, and publishes
nothing. -/
def Transport.Quiet (T : Transport Unit) : Prop := ∀ c, (T.send () c).2.1 = []

/-- The scripted transport is quiet as long as it stays in one mode. -/
example (shardCount : UInt32) (mode : LineMode) :
    Transport.Quiet ⟨shardCount, fun _ c => (mode.reply c, [], ())⟩ := fun _ => rfl

/-- Whether an act is about a guild, where each ticket is used for its `owner`. What is about
no guild concerns all of them. -/
def Act.isAbout {σ : Type} (owner : Nat → Snowflake) (g : Snowflake) : Act σ → Bool
  | .start ticket _ _ | .abort ticket | .poll ticket _ | .expire ticket _ => owner ticket = g
  | .publish e => e.guild = g
  | .register x => x.guild = g
  | .evict g' => g' = g
  | _ => true

theorem Act.isAbout_of_ticket {σ : Type} {owner : Nat → Snowflake} {g : Snowflake} {a : Act σ}
    {ticket : Nat} (named : a.ticket? = some ticket) :
    a.isAbout owner g = decide (owner ticket = g) := by
  cases a with
  | start t job patience => exact Option.some.inj named ▸ rfl
  | abort t => exact Option.some.inj named ▸ rfl
  | poll t order => exact Option.some.inj named ▸ rfl
  | expire t order => exact Option.some.inj named ▸ rfl
  | _ => exact absurd named (by simp [Act.ticket?])

namespace Transport

variable {T : Transport Unit}

/-- A guild is left alone with the transport itself. -/
theorem Quiet.about (h : T.Quiet) (g : Snowflake) :
    T.about g (fun c => (T.send () c).1.refusal) = T := by
  have hsend : (T.about g fun c => (T.send () c).1.refusal).send = T.send := by
    funext line c
    have hreply : ((T.about g fun c => (T.send () c).1.refusal).send line c).1 =
        (T.send line c).1 := about_reply (fun _ _ => rfl) line c
    refine Prod.ext hreply (Prod.ext ?_ rfl)
    show (T.send () c).2.1.filter _ = (T.send () c).2.1
    rw [h c]
    rfl
  exact congrArg (Transport.mk T.shardCount) hsend

theorem Quiet.published (h : T.Quiet) (line : Unit) (cs : List ShardCommand) :
    T.published line cs = [] := by
  induction cs generalizing line with
  | nil => rfl
  | cons c cs ih =>
    rw [Transport.published, ih, h c]
    rfl

end Transport

namespace Coordinator

/-! ## Tickets -/

section

variable {σ : Type} {T : Transport σ} {w : Coordinator σ} {ticket : Nat}

theorem step_begins (unused : w.isFresh ticket = true) (a : Act σ) :
    (w.step T a).isFresh ticket = true ∨ ∃ job patience, a = .start ticket job patience := by
  refine step_preserves (P := fun x => x.isFresh ticket = true ∨
    ∃ job patience, a = .start ticket job patience) (fun h hx => ?_) (Or.inl unused)
  rcases hx with hf | starting
  · exact (h.begin hf).imp id fun ⟨job, patience, he, _⟩ => ⟨job, patience, he⟩
  · exact Or.inr starting

/-- A ticket that is not free any more is that of a call that was started. -/
theorem started_of_used (unused : w.isFresh ticket = true) {acts : List (Act σ)}
    (used : (w.run T acts).isFresh ticket ≠ true) :
    ∃ before job patience, before ++ [.start ticket job patience] <+: acts ∧
      (w.run T before).isFresh ticket = true := by
  induction acts using List.reverseRecOn with
  | nil => exact absurd unused used
  | append_singleton acts a ih =>
    rw [run_concat] at used
    by_cases hf : (w.run T acts).isFresh ticket = true
    · obtain ⟨job, patience, rfl⟩ := (step_begins hf a).resolve_left used
      exact ⟨acts, job, patience, List.prefix_rfl, hf⟩
    · obtain ⟨before, job, patience, hpre, hfresh⟩ := ih hf
      exact ⟨before, job, patience, hpre.trans (List.prefix_append acts [a]), hfresh⟩

theorem used_later (tidy : w.Tidy) (used : w.isFresh ticket ≠ true) (acts : List (Act σ)) :
    (w.run T acts).isFresh ticket ≠ true := by
  intro hf
  obtain ⟨-, hout⟩ := (isFresh_iff _ ticket).mp hf
  cases hc : w.call? ticket with
  | some c => exact used_of_call tidy hc acts hf
  | none =>
    cases ho : w.outcome? ticket with
    | some o => exact absurd (((run_grows w acts).outcome? ho).symm.trans hout) (by simp)
    | none => exact used ((isFresh_iff w ticket).mpr ⟨hc, ho⟩)

theorem used_of_started (tidy : w.Tidy) {acts : List (Act σ)} {job : Job}
    {patience : Option Duration} (started : .start ticket job patience ∈ acts) :
    (w.run T acts).isFresh ticket ≠ true := by
  obtain ⟨before, after, rfl⟩ := List.append_of_mem started
  rw [run_append, run_cons]
  have htidy := run_tidy (T := T) tidy before
  refine used_later (step_tidy htidy _) ?_ after
  show (Coordinator.start _ _ _ _).isFresh ticket ≠ true
  by_cases hf : (w.run T before).isFresh ticket = true
  · intro hf'
    have found := (call?_start hf job.task patience ticket).trans (if_pos rfl)
    exact absurd (((isFresh_iff _ ticket).mp hf').1.symm.trans found) (by simp)
  · rw [start_of_not_isFresh _ _ _ _ (Bool.eq_false_iff.mpr hf)]
    exact hf

/-- Pending calls are about the guilds that their tickets are used for. -/
theorem guild_of_call {line : σ} {identity : Identity} {bus : EventBus} {acts : List (Act σ)}
    {owner : Nat → Snowflake} (owned : ∀ ticket job patience, .start ticket job patience ∈ acts →
      job.task.guild = owner ticket) {c : Call}
    (found : (run T { line, identity, bus } acts).call? ticket = some c) :
    c.task.guild = owner ticket := by
  obtain ⟨patience, started⟩ :=
    (run_routed T line identity bus acts).asked c (mem_calls_of_call? found)
  rw [← job_task, owned _ _ _ started, call?_ticket found]

end

/-! ## Deletion -/

variable {T : Transport Unit} {ρ : SessionRef → SessionRef} {g : Snowflake}
  {w v : Coordinator Unit} {owner : Nat → Snowflake}

theorem filter_isAbout (a : Act Unit) :
    [a].filter (·.isAbout owner g) = if a.isAbout owner g = true then [a] else [] := by
  cases h : a.isAbout owner g <;> simp [h]

/-- An act that runs, or gives up, a call is the same for a guild that it is about, whether
or not the call is pending; and of another one nothing is left. -/
theorem run_filter_of_ticket (m : Mirrored ρ g w v) {a : Act Unit} {ticket : Nat}
    (named : a.ticket? = some ticket) (running : ∀ job patience, a ≠ .start ticket job patience)
    (owned : ∀ c, w.call? ticket = some c → c.task.guild = owner ticket) :
    v.run T (if w.concerns g ticket then [a] else []) =
      v.run T ([a].filter (·.isAbout owner g)) := by
  rw [filter_isAbout, Act.isAbout_of_ticket named]
  cases hc : w.call? ticket with
  | some c =>
    have hconcerns : w.concerns g ticket = decide (owner ticket = g) := by
      rw [← owned c hc]
      unfold concerns
      rw [hc]
      rfl
    rw [hconcerns]
  | none =>
    -- Nothing is pending for the guild on the other side either.
    have hnone : v.call? ticket = none := by
      cases hv : v.call? ticket with
      | none => rfl
      | some c' =>
        obtain ⟨c, found, -⟩ := m.only trivial hv
        exact absurd (hc.symm.trans found) (by simp)
    have hidle : v.run T [a] = v := step_of_unused named running hnone
    have hconcerns : w.concerns g ticket = false := by
      unfold concerns
      rw [hc]
      rfl
    rw [hconcerns, if_neg Bool.false_ne_true]
    split
    · exact hidle.symm
    · rfl

/-- What is left of an act that runs a call is that act, or nothing. -/
theorem run_shareOfRun (quiet : T.Quiet) (w v : Coordinator Unit) (a : Act Unit) (ticket : Nat) :
    v.run T (w.shareOfRun T g a ticket) =
      v.run T (if w.concerns g ticket then [a] else []) := by
  unfold shareOfRun
  split
  · rfl
  · have hnone : w.publishedIn T a = [] := quiet.published w.line _
    rw [hnone]
    rfl

/-- What is left of an act is that act if it is about the guild, and else nothing. -/
theorem run_share (quiet : T.Quiet) (m : Mirrored ρ g w v) (a : Act Unit)
    (owned : ∀ ticket c, w.call? ticket = some c → c.task.guild = owner ticket)
    (starts : ∀ ticket job patience, a = .start ticket job patience →
      job.task.guild = owner ticket)
    (used : ∀ ticket, owner ticket = g → w.isFresh ticket ≠ true → v.isFresh ticket ≠ true) :
    v.run T (w.share T g a) = v.run T ([a].filter (·.isAbout owner g)) := by
  cases a with
  | start ticket job patience =>
    have own := starts ticket job patience rfl
    have named : (Act.start ticket job patience : Act Unit).ticket? = some ticket := rfl
    rw [share, filter_isAbout, Act.isAbout_of_ticket named, own]
    by_cases hg : owner ticket = g
    · by_cases hf : w.isFresh ticket = true
      · simp [hg, hf]
      · have hidle : v.start ticket job.task patience = v :=
          start_of_not_isFresh v ticket _ _ (Bool.eq_false_iff.mpr (used ticket hg hf))
        rw [if_neg (fun h => hf h.2), if_pos (decide_eq_true hg)]
        exact hidle.symm
    · simp [hg]
  | abort ticket =>
    exact run_filter_of_ticket m rfl (by simp) (owned ticket)
  | poll ticket order =>
    rw [share, run_shareOfRun quiet]
    exact run_filter_of_ticket m rfl (by simp) (owned ticket)
  | expire ticket order =>
    rw [share, run_shareOfRun quiet]
    exact run_filter_of_ticket m rfl (by simp) (owned ticket)
  | publish e =>
    rw [filter_isAbout]
    simp [share, Act.isAbout]
  | register x =>
    rw [filter_isAbout]
    simp [share, Act.isAbout]
  | evict g' =>
    rw [filter_isAbout]
    simp [share, Act.isAbout]
  | _ => rfl

/-- Deleting the acts about others is to leave the guild alone. -/
theorem run_filter (quiet : T.Quiet) {identity : Identity} {bus : EventBus}
    {acts : List (Act Unit)} (owned : ∀ ticket job patience,
      .start ticket job patience ∈ acts → job.task.guild = owner ticket)
    (mirrored : ∀ pre, pre <+: acts → Mirrored ρ g (run T { line := (), identity, bus } pre)
      (run T { line := (), identity, bus } (alone T g { line := (), identity, bus } pre))) :
    run T { line := (), identity, bus } (acts.filter (·.isAbout owner g)) =
      run T { line := (), identity, bus } (alone T g { line := (), identity, bus } acts) := by
  let w₀ : Coordinator Unit := { line := (), identity, bus }
  induction acts using List.reverseRecOn with
  | nil => rfl
  | append_singleton acts a ih =>
    have hacts : acts <+: acts ++ [a] := List.prefix_append acts [a]
    have owned' : ∀ ticket job patience, .start ticket job patience ∈ acts →
        job.task.guild = owner ticket := fun t job patience hm =>
      owned t job patience (List.mem_append_left [a] hm)
    have same : w₀.run T (acts.filter (·.isAbout owner g)) = w₀.run T (w₀.alone T g acts) :=
      ih owned' fun pre hpre => mirrored pre (hpre.trans hacts)
    -- What was started for the guild on the one side was not deleted on the other.
    have used : ∀ ticket, owner ticket = g → (w₀.run T acts).isFresh ticket ≠ true →
        (w₀.run T (w₀.alone T g acts)).isFresh ticket ≠ true := by
      intro ticket hg hused
      obtain ⟨before, job, patience, hpre, -⟩ := started_of_used (w := w₀) rfl hused
      have named : (Act.start ticket job patience : Act Unit).ticket? = some ticket := rfl
      have kept : .start ticket job patience ∈ acts.filter (·.isAbout owner g) :=
        List.mem_filter.mpr ⟨hpre.subset (List.mem_concat_self ..),
          (Act.isAbout_of_ticket named).trans (decide_eq_true hg)⟩
      rw [← same]
      exact used_of_started (tidy_init () identity bus) kept
    have hshare := run_share quiet (mirrored acts hacts) a
      (fun ticket c found => guild_of_call owned' found)
      (fun ticket job patience he => owned ticket job patience (by simp [he])) used
    show w₀.run T ((acts ++ [a]).filter _) = w₀.run T (w₀.alone T g (acts ++ [a]))
    rw [List.filter_append, run_append, same, alone_append, run_append, alone, alone,
      List.append_nil, hshare]

/-- Consider a run on a new bus that does not end its streams, over a transport that has no
state and publishes nothing, in which each ticket is used for one guild and no call for the
guild `g` falls behind. Delete from its acts those that are about other guilds. Then, up to
names `ρ` for its sessions, everything is the same for this guild after every part of the
run: the calls with its tickets have the same outcomes, or none yet, its sessions have the
same facts and states and are told apart in the same way, it has the same one of them, and
the commands for it and the trace events about it are the same, in the same order. -/
theorem deletion_unnoticed (quiet : T.Quiet) {capacity : Nat} {bus : EventBus}
    (created : EventBus.create? capacity = some bus) (identity : Identity)
    {acts : List (Act Unit)} (lasting : ∀ stream, .close stream ∉ acts)
    (owned : ∀ ticket job patience, .start ticket job patience ∈ acts →
      job.task.guild = owner ticket) (g : Snowflake)
    (timely : Timely T g { line := (), identity, bus } acts) :
    let w₀ : Coordinator Unit := { line := (), identity, bus }
    ∃ ρ : SessionRef → SessionRef, ∀ pre, pre <+: acts →
      let w := w₀.run T pre
      let v := w₀.run T (pre.filter (·.isAbout owner g))
      (∀ ticket, owner ticket = g →
        v.outcome? ticket = (w.outcome? ticket).map (·.rename ρ) ∧
          ∀ s, w.outcome? ticket = some (.joined s) → w.registry.Knows g s) ∧
      (∀ s s', w.registry.Knows g s → w.registry.Knows g s' → ρ s = ρ s' → s = s') ∧
      (∀ s, w.registry.Knows g s → v.registry.record? (ρ s) = w.registry.record? s) ∧
      v.registry.get? g = (w.registry.get? g).map ρ ∧
      v.dispatches = w.dispatches.filter (fun d => d.command.update.guild = g) ∧
      v.notes = w.notes.filter (fun n => n.event.guild? = some g) := by
  intro w₀
  let rule := fun c => (T.send () c).1.refusal
  let ρ := Registry.rank g (w₀.run T acts).registry.sessions
  have sound : w₀.Sound := sound_init created () identity
  have mirrored : ∀ pre, pre <+: acts →
      Mirrored ρ g (w₀.run T pre) (w₀.run (T.about g rule) (w₀.alone T g pre)) :=
    (mirrored_init created () identity ρ g).run (fun _ _ => rfl) sound sound lasting timely
      List.prefix_rfl
  have about : T.about g rule = T := quiet.about g
  refine ⟨ρ, fun pre hpre => ?_⟩
  intro w v
  have owned' : ∀ ticket job patience, .start ticket job patience ∈ pre →
      job.task.guild = owner ticket := fun t job patience hm =>
    owned t job patience (hpre.subset hm)
  have hv : v = w₀.run (T.about g rule) (w₀.alone T g pre) := by
    rw [about] at mirrored ⊢
    exact run_filter quiet owned' fun l hl => mirrored l (hl.trans hpre)
  have m := mirrored pre hpre
  have later : w.registry.Evolves (w₀.run T acts).registry := evolves_of_prefix w₀ hpre
  rw [hv]
  refine ⟨fun ticket hg => ?_, m.shows later⟩
  by_cases hf : w.isFresh ticket = true
  · have hout := ((isFresh_iff w ticket).mp hf).2
    have hout' := ((isFresh_iff _ ticket).mp (m.isFresh hf)).2
    rw [hout, hout']
    exact ⟨rfl, fun s hs => absurd hs (by simp)⟩
  · obtain ⟨before, job, patience, hstart, unused⟩ := started_of_used (w := w₀) rfl hf
    have own : job.task.guild = g :=
      (owned' ticket job patience (hstart.subset (List.mem_concat_self ..))).trans hg
    exact outcome_of_started sound sound.tidy (fun l hl => mirrored l (hl.trans hpre))
      ⟨before, job, patience, hstart, own, unused⟩

end Coordinator

end VoiceGateway
