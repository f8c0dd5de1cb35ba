import VoiceGateway.Proofs.Reconnect.Perseverance

/-!
# Shutting a reconnect loop down

A loop that is told to shut down finds out when it gets to run: before an attempt, while
it waits for the outcome of one, or while it sleeps. It then ends without another attempt
and without touching its counter, and an attempt that was under way is not counted at
all. So all that a later loop for the shard needs is in the counter, and where the first
one was told while it slept, the two of them do what a single one would have done.

A loop may get to run and find both the order and an outcome, or the end of its sleep,
and then it may take either. There is no act for this. A loop that takes the order does
what one does that has been told (`LoopState.halting`). One that takes the other does not
look at the order in that turn, and meets it in the next one: it does what a loop does
that is told right after the turn, and its run is the one with the `stop` there.

> `StoppableRun.loop_of_told`: what is left of a loop that has been told.
> `StoppableRun.run_following`: a loop goes on as if an earlier one had been its beginning.
> `shutdown_keeps_account`: a shutdown at any moment, and what comes after it.
-/

namespace VoiceGateway

/-- One thing that happens while a loop runs that can be shut down: it is told to, or
what can happen to any loop. -/
inductive StopAct where
  | stop
  | act (act : LoopAct)
deriving DecidableEq, Repr

/-- What comes next for a loop that has been told to shut down. The order is there before
the outcome of its attempt and before the end of its sleep. -/
def LoopState.halting {α : Type} : LoopState α → LoopInput α
  | .ready | .finished _ => .run true
  | .connecting _ | .backingOff _ _ => .shutdown

/-- Whether a loop has ended. -/
def LoopState.isFinished {α : Type} : LoopState α → Bool
  | .finished _ => true
  | _ => false

/-- A loop that can be shut down. -/
structure StoppableRun (α : Type) where
  loop : LoopRun α
  /-- Whether it has been told to. -/
  told : Bool := false

/-- What others do with an accountant, one after the other. -/
def Accountant.usedBy (a : Accountant) (acts : List LoopAct) : Accountant := acts.foldl use a

namespace LoopRun

variable {α : Type}

/-- Lets a loop take its turn that has been told to shut down. -/
def halt (shard : UInt32) (r : LoopRun α) : LoopRun α :=
  let (a, s) := r.state.step shard r.accountant r.state.halting
  { r with accountant := a, state := s, deeds := r.deeds ++ s.deed?.toList }

/-- A run that has an earlier one before it, as if a single loop had made both. -/
def following (earlier r : LoopRun α) : LoopRun α :=
  { r with answered := earlier.answered + r.answered, deeds := earlier.deeds ++ r.deeds }

end LoopRun

namespace StoppableRun

variable {α : Type} (shard : UInt32) (outcomes : Nat → Option α)

/-- Lets one thing happen. -/
def act (r : StoppableRun α) : StopAct → StoppableRun α
  | .stop => { r with told := true }
  | .act .turn =>
    { r with loop := if r.told then r.loop.halt shard else r.loop.turn shard outcomes }
  | .act act => { r with loop := r.loop.act shard outcomes act }

/-- Lets things happen one after the other. -/
def run (r : StoppableRun α) (acts : List StopAct) : StoppableRun α :=
  acts.foldl (act shard outcomes) r

end StoppableRun

namespace Accountant

variable {shard : UInt32} {acts : List LoopAct}

theorem usedBy_aside (a : Accountant) (alone : ∀ act ∈ acts, act.shard? ≠ some shard) :
    Aside shard a (a.usedBy acts) := by
  induction acts generalizing a with
  | nil => exact .refl shard a
  | cons act acts ih =>
    obtain ⟨hact, alone'⟩ := List.forall_mem_cons.mp alone
    exact (a.use_aside hact).trans (ih (a.use act) alone')

/-- The turns of a loop are no use of the accountant by others. -/
theorem usedBy_filter (a : Accountant) (acts : List LoopAct) :
    a.usedBy (acts.filter (· ≠ .turn)) = a.usedBy acts := by
  induction acts generalizing a with
  | nil => rfl
  | cons act acts ih =>
    by_cases ht : act = .turn
    · subst ht
      rw [List.filter_cons_of_neg (by simp)]
      exact ih a
    · rw [List.filter_cons_of_pos (by simpa using ht)]
      exact ih (a.use act)

theorem heard_usedBy {a a' : Accountant} (h : LoopRun.Heard shard a a')
    (stay : .unsubscribe ∉ acts) : LoopRun.Heard shard a (a'.usedBy acts) := by
  induction acts generalizing a' with
  | nil => exact h
  | cons act acts ih =>
    obtain ⟨hact, stay'⟩ := List.ne_and_not_mem_of_not_mem_cons stay
    exact ih (h.use (Ne.symm hact)) stay'

/-- The counter is what it was and as much more as failures were counted. -/
theorem Counts.current {a a' : Accountant} {n : Nat} (h : a.Counts shard n a') :
    a'.current shard = a.current shard + .ofNat n := by
  rw [h.count, UInt32.ofNat_add, UInt32.ofNat_toNat]

end Accountant

namespace LoopRun

variable {α : Type} {shard : UInt32} {outcomes : Nat → Option α} {a : Accountant}
  {r : LoopRun α}

/-! ## A loop that goes on -/

/-- As long as a loop has not ended, all the outcomes it has had are failures, and they
are counted. -/
theorem turn_counts
    (counts : r.state.isFinished = false → a.Counts shard r.answered r.accountant)
    (running : (r.turn shard outcomes).state.isFinished = false) :
    a.Counts shard (r.turn shard outcomes).answered (r.turn shard outcomes).accountant := by
  cases hs : r.state with
  | ready =>
    rw [turn_ready hs]
    exact counts (by rw [hs]; rfl)
  | connecting attempt =>
    cases ho : outcomes r.answered with
    | some value =>
      rw [turn_succeeded hs ho] at running
      exact absurd running (by simp [LoopState.isFinished])
    | none =>
      rw [turn_failed hs ho]
      exact (counts (by rw [hs]; rfl)).recordFailure
  | backingOff f delay =>
    rw [turn_elapsed hs]
    exact counts (by rw [hs]; rfl)
  | finished e =>
    rw [turn_finished hs, hs] at running
    exact absurd running (by simp [LoopState.isFinished])

theorem run_counts (counts : r.state.isFinished = false → a.Counts shard r.answered r.accountant)
    {acts : List LoopAct} (alone : ∀ act ∈ acts, act.shard? ≠ some shard)
    (running : (r.run shard outcomes acts).state.isFinished = false) :
    a.Counts shard (r.run shard outcomes acts).answered
      (r.run shard outcomes acts).accountant := by
  induction acts generalizing r with
  | nil => exact counts running
  | cons act acts ih =>
    obtain ⟨hact, alone'⟩ := List.forall_mem_cons.mp alone
    -- A success puts the counter back, so the counts are claimed only of a loop that goes on.
    refine ih (r := r.act shard outcomes act) ?_ alone' running
    intro going
    by_cases ht : act = .turn
    · subst ht
      exact turn_counts counts going
    · rw [act_of_ne_turn ht] at going ⊢
      exact (counts going).aside (r.accountant.use_aside hact)

/-- A loop that takes no turn only sees what others do. -/
theorem run_of_idle {acts : List LoopAct} (idle : .turn ∉ acts) :
    r.run shard outcomes acts = { r with accountant := r.accountant.usedBy acts } := by
  induction acts generalizing r with
  | nil => rfl
  | cons act acts ih =>
    obtain ⟨hact, idle'⟩ := List.ne_and_not_mem_of_not_mem_cons idle
    show (r.act shard outcomes act).run shard outcomes acts = _
    rw [act_of_ne_turn (Ne.symm hact)]
    exact ih (r := { r with accountant := r.accountant.use act }) idle'

/-- What a loop has done stays done. -/
theorem turn_deeds (shard : UInt32) (outcomes : Nat → Option α) (r : LoopRun α) :
    r.deeds <+: (r.turn shard outcomes).deeds := List.prefix_append _ _

theorem run_deeds (shard : UInt32) (outcomes : Nat → Option α) (r : LoopRun α)
    (acts : List LoopAct) : r.deeds <+: (r.run shard outcomes acts).deeds := by
  induction acts generalizing r with
  | nil => exact List.prefix_refl _
  | cons act acts ih =>
    have hact : r.deeds <+: (r.act shard outcomes act).deeds := by
      by_cases ht : act = .turn
      · subst ht
        exact turn_deeds shard outcomes r
      · have hdeeds : (r.act shard outcomes act).deeds = r.deeds := by rw [act_of_ne_turn ht]
        exact hdeeds.symm ▸ List.prefix_refl r.deeds
    exact hact.trans (ih (r.act shard outcomes act))

/-- The first thing that a loop does is the attempt with the next number. -/
theorem first_deed {acts : List LoopAct} (alone : ∀ act ∈ acts, act.shard? ≠ some shard)
    (turns : .turn ∈ acts) :
    (run shard outcomes { accountant := a } acts).deeds.head? =
      some (.call (a.current shard + 1)) := by
  induction acts generalizing a with
  | nil => exact absurd turns List.not_mem_nil
  | cons act acts ih =>
    obtain ⟨hact, alone'⟩ := List.forall_mem_cons.mp alone
    by_cases ht : act = .turn
    · subst ht
      -- What comes after the first turn only adds to what is done.
      obtain ⟨l, hl⟩ := run_deeds shard outcomes (turn shard outcomes { accountant := a }) acts
      show (run shard outcomes (turn shard outcomes { accountant := a }) acts).deeds.head? = _
      rw [← hl, turn_ready rfl]
      rfl
    · have hm : .turn ∈ acts := (List.mem_cons.mp turns).resolve_left (Ne.symm ht)
      show (run shard outcomes (LoopRun.act shard outcomes { accountant := a } act)
        acts).deeds.head? = _
      rw [act_of_ne_turn ht, ih alone' hm, (a.use_aside hact).count]

/-! ## A loop that is told -/

theorem halt_running (running : r.state.isFinished = false) :
    r.halt shard = { r with state := .finished .shutdown } := by
  unfold halt
  cases hs : r.state with
  | ready | connecting | backingOff =>
    show LoopRun.mk _ _ _ (r.deeds ++ []) = _
    rw [List.append_nil]
  | finished e =>
    rw [hs] at running
    exact absurd running (by simp [LoopState.isFinished])

theorem halt_finished {e : LoopEnding α} (state : r.state = .finished e) : r.halt shard = r := by
  unfold halt
  rw [state, LoopState.step_finished]
  show { r with state := _, deeds := r.deeds ++ [] } = r
  rw [List.append_nil, ← state]

/-! ## A loop after another one -/

theorem turn_following (earlier s : LoopRun α) :
    earlier.following (s.turn shard fun i => outcomes (earlier.answered + i)) =
      (earlier.following s).turn shard outcomes := by
  have hanswered : (earlier.answered +
      if s.state.isConnecting then s.answered + 1 else s.answered) =
      if s.state.isConnecting then earlier.answered + s.answered + 1
      else earlier.answered + s.answered := by
    by_cases hc : s.state.isConnecting = true
    · rw [if_pos hc, if_pos hc, Nat.add_assoc]
    · rw [if_neg hc, if_neg hc]
  -- The step itself reads neither the answers nor the deeds.
  show LoopRun.mk _ _ _ _ = LoopRun.mk _ _ _ _
  exact congr (congrArg (LoopRun.mk _ _) hanswered) (List.append_assoc _ _ _).symm

theorem halt_following (earlier s : LoopRun α) :
    earlier.following (s.halt shard) = (earlier.following s).halt shard := by
  exact congrArg (LoopRun.mk _ _ _) (List.append_assoc _ _ _).symm

end LoopRun

namespace StoppableRun

variable {α : Type} {shard : UInt32} {outcomes : Nat → Option α} {a : Accountant}
  {r : StoppableRun α}

theorem run_append (r : StoppableRun α) (acts acts' : List StopAct) :
    r.run shard outcomes (acts ++ acts') =
      (r.run shard outcomes acts).run shard outcomes acts' := List.foldl_append

theorem act_of_ne_turn {act : LoopAct} (h : act ≠ .turn) :
    r.act shard outcomes (.act act) =
      { r with loop := { r.loop with accountant := r.loop.accountant.use act } } := by
  cases act with
  | turn => exact absurd rfl h
  | fail | succeed | subscribe | unsubscribe => rfl

/-- A loop that has not been told goes on. -/
theorem run_of_untold (untold : r.told = false) (acts : List LoopAct) :
    r.run shard outcomes (acts.map .act) = { r with loop := r.loop.run shard outcomes acts } := by
  induction acts generalizing r with
  | nil => rfl
  | cons act acts ih =>
    show (r.act shard outcomes (.act act)).run shard outcomes (acts.map .act) = _
    by_cases ht : act = .turn
    · subst ht
      show run shard outcomes { r with loop := if r.told then _ else _ } _ = _
      rw [if_neg (by simp [untold])]
      exact ih (r := { r with loop := r.loop.turn shard outcomes }) untold
    · have hact : r.act shard outcomes (.act act) =
          { r with loop := r.loop.act shard outcomes act } := by
        rw [act_of_ne_turn ht, LoopRun.act_of_ne_turn ht]
      rw [hact]
      exact ih (r := { r with loop := r.loop.act shard outcomes act }) untold

/-- A loop that has been told and has ended only sees what others do. -/
theorem loop_of_ended (told : r.told = true) {e : LoopEnding α}
    (state : r.loop.state = .finished e) (acts : List LoopAct) :
    (r.run shard outcomes (acts.map .act)).loop =
      { r.loop with accountant := r.loop.accountant.usedBy acts } := by
  induction acts generalizing r with
  | nil => rfl
  | cons act acts ih =>
    show ((r.act shard outcomes (.act act)).run shard outcomes (acts.map .act)).loop = _
    by_cases ht : act = .turn
    · subst ht
      have hact : r.act shard outcomes (.act .turn) = r := by
        show { r with loop := if r.told then _ else _ } = r
        rw [if_pos told, LoopRun.halt_finished state]
      rw [hact]
      exact ih told state
    · rw [act_of_ne_turn ht]
      exact ih (r := { r with loop := { r.loop with accountant := r.loop.accountant.use act } })
        told state

/-- A loop that has been told ends when it gets to run. From then on, as before, it leaves
the accountant to others. -/
theorem loop_of_told (told : r.told = true) (running : r.loop.state.isFinished = false)
    {acts : List LoopAct} (polled : .turn ∈ acts) :
    (r.run shard outcomes (acts.map .act)).loop =
      { r.loop with
        accountant := r.loop.accountant.usedBy acts
        state := .finished .shutdown } := by
  induction acts generalizing r with
  | nil => exact absurd polled List.not_mem_nil
  | cons act acts ih =>
    show ((r.act shard outcomes (.act act)).run shard outcomes (acts.map .act)).loop = _
    by_cases ht : act = .turn
    · subst ht
      have hact : r.act shard outcomes (.act .turn) =
          { r with loop := { r.loop with state := .finished .shutdown } } := by
        show { r with loop := if r.told then _ else _ } = _
        rw [if_pos told, LoopRun.halt_running running]
      rw [hact]
      exact loop_of_ended (r := { r with loop := { r.loop with state := .finished .shutdown } })
        told rfl acts
    · have hm : .turn ∈ acts := (List.mem_cons.mp polled).resolve_left (Ne.symm ht)
      rw [act_of_ne_turn ht]
      exact ih (r := { r with loop := { r.loop with accountant := r.loop.accountant.use act } })
        told running hm

/-! ## A loop after another one -/

/-- A run that has an earlier one before it. -/
def following (earlier : LoopRun α) (s : StoppableRun α) : StoppableRun α :=
  { s with loop := earlier.following s.loop }

theorem act_following (earlier : LoopRun α) (s : StoppableRun α) (act : StopAct) :
    following earlier (s.act shard (fun i => outcomes (earlier.answered + i)) act) =
      (following earlier s).act shard outcomes act := by
  cases act with
  | stop => rfl
  | act act =>
    by_cases ht : act = .turn
    · subst ht
      show { s with loop := earlier.following (if s.told then _ else _) } =
        { s with loop := if s.told then _ else _ }
      by_cases told : s.told = true
      · rw [if_pos told, if_pos told, LoopRun.halt_following]
        rfl
      · rw [if_neg told, if_neg told, LoopRun.turn_following]
        rfl
    · rw [act_of_ne_turn ht, act_of_ne_turn ht]
      rfl

/-- A loop whose attempts have the outcomes that were left goes on as if the earlier one
had been its beginning. -/
theorem run_following (earlier : LoopRun α) (s : StoppableRun α) (acts : List StopAct) :
    following earlier (s.run shard (fun i => outcomes (earlier.answered + i)) acts) =
      (following earlier s).run shard outcomes acts := by
  induction acts generalizing s with
  | nil => rfl
  | cons act acts ih =>
    show following earlier ((s.act shard _ act).run shard _ acts) =
      ((following earlier s).act shard outcomes act).run shard outcomes acts
    rw [ih, act_following]

/-- A loop that is not told while it sleeps wakes up and is about to try again, as a new
one is. -/
theorem run_awake {r : LoopRun α} {f : ReconnectFailure} {delay : Duration}
    (state : r.state = .backingOff f delay) {acts : List LoopAct} (idle : .turn ∉ acts) :
    run shard outcomes { loop := r } (acts.map .act ++ [.act .turn]) =
      following r { loop := { accountant := r.accountant.usedBy acts } } := by
  rw [run_append, run_of_untold rfl, LoopRun.run_of_idle idle]
  show StoppableRun.mk (LoopRun.turn shard outcomes _) false = _
  rw [LoopRun.turn_elapsed (r := { r with accountant := r.accountant.usedBy acts }) state]
  show StoppableRun.mk _ false = StoppableRun.mk (LoopRun.mk _ _ _ (r.deeds ++ [])) false
  rw [List.append_nil]
  rfl

/-! ## Shutdown -/

/-- The failures of a loop that goes on are within the limit, so they do not take its
counter beyond 32 bits. -/
theorem room_of_running {r : LoopRun α} {t : Nat} (h : LoopRun.Phase a shard outcomes t r)
    (count_lt : (a.current shard).toNat + 1 < UInt32.size)
    (limit_lt : a.maxAttempts.toNat + 1 < UInt32.size) (running : r.state.isFinished = false) :
    (a.current shard).toNat + r.answered < UInt32.size := by
  cases h with
  | ready state answered gone | connecting state answered gone
  | backingOff state answered gone =>
    have := LoopRun.room_of_gone count_lt limit_lt gone
    omega
  | finished state =>
    rw [state] at running
    exact absurd running (by simp [LoopState.isFinished])

/-- A loop that is told to shut down before it has ended, at whatever moment, while others
use the accountant but not for its shard. When it gets to run, it ends with the shutdown
and without another attempt. No outcome is taken any more, and from the order on only
others use the accountant: an attempt that was under way counts neither as a failure nor
as a success. All the outcomes that the loop has had were failures, it has recorded each
of them, those who are subscribed were told, and its counter has grown by their number. A
later loop starts with the attempt that has the next number. And if the loop was told while
it slept, then a later one, whatever happens to it, and whether it is told in turn or not,
makes the attempts, records the failures and comes to the end that the loop itself would
have without the order. -/
theorem shutdown_keeps_account (shard : UInt32) (a : Accountant) (outcomes : Nat → Option α)
    (before after : List LoopAct) (alone : ∀ act ∈ before ++ after, act.shard? ≠ some shard)
    (running : (LoopRun.run shard outcomes { accountant := a } before).state.isFinished = false)
    (polled : .turn ∈ after) :
    let start : StoppableRun α := { loop := { accountant := a } }
    let r := LoopRun.run shard outcomes { accountant := a } before
    let z := (run shard outcomes start (before.map .act ++ .stop :: after.map .act)).loop
    z.state = .finished .shutdown ∧ z.deeds = r.deeds ∧ z.answered = r.answered ∧
    z.accountant = r.accountant.usedBy after ∧
    (∃ recorded, recorded.length = r.answered ∧
      z.accountant.failuresOf shard = a.failuresOf shard ++ recorded ∧
      (a.failures.closed = false → a.failures.subscribers ≠ 0 → .unsubscribe ∉ before ++ after →
        z.accountant.publishedOf shard = a.publishedOf shard ++ recorded) ∧
      z.accountant.current shard = a.current shard + .ofNat recorded.length ∧
      ((a.current shard).toNat + 1 < UInt32.size → a.maxAttempts.toNat + 1 < UInt32.size →
        (z.accountant.current shard).toNat = (a.current shard).toNat + recorded.length)) ∧
    (∀ (outcomes' : Nat → Option α) (acts : List LoopAct),
      (∀ act ∈ acts, act.shard? ≠ some shard) → .turn ∈ acts →
        (LoopRun.run shard outcomes' { accountant := z.accountant } acts).deeds.head? =
          some (.call (z.accountant.current shard + 1))) ∧
    ∀ (f : ReconnectFailure) (delay : Duration), r.state = .backingOff f delay →
      ∀ rest : List StopAct,
        let later := (run shard (fun i => outcomes (r.answered + i))
          { loop := { accountant := z.accountant } } rest).loop
        let unsplit := (run shard outcomes start
          (before.map .act ++ (after.filter (· ≠ .turn)).map .act ++ .act .turn :: rest)).loop
        later.state = unsplit.state ∧ later.accountant = unsplit.accountant ∧
          z.deeds ++ later.deeds = unsplit.deeds := by
  intro start r z
  obtain ⟨alone₁, alone₂⟩ := List.forall_mem_append.mp alone
  have hstart : start.run shard outcomes (before.map .act) = { loop := r } :=
    run_of_untold rfl before
  have hz : z = { r with
      accountant := r.accountant.usedBy after
      state := .finished .shutdown } := by
    show (start.run shard outcomes (before.map .act ++ .stop :: after.map .act)).loop = _
    rw [run_append, hstart]
    exact loop_of_told (r := ⟨r, true⟩) rfl running polled
  have hcounts : a.Counts shard r.answered r.accountant :=
    LoopRun.run_counts (fun _ => a.counts_zero shard) alone₁ running
  have hafter : Accountant.Aside shard r.accountant z.accountant := by
    rw [hz]
    exact r.accountant.usedBy_aside alone₂
  have hzc : a.Counts shard r.answered z.accountant := hcounts.aside hafter
  refine ⟨by rw [hz], by rw [hz], by rw [hz], by rw [hz], ?_, ?_, ?_⟩
  · refine ⟨(List.range r.answered).map (a.failureAfter shard), ?_, hzc.failures, ?_, ?_, ?_⟩
    · rw [List.length_map, List.length_range]
    · intro opened subscribed stay
      obtain ⟨stay₁, stay₂⟩ : .unsubscribe ∉ before ∧ .unsubscribe ∉ after := by
        simpa [List.mem_append] using stay
      have heard : LoopRun.Heard shard a r.accountant :=
        LoopRun.Heard.run (r := { accountant := a }) (LoopRun.heard_start opened subscribed) stay₁
      have heard' : LoopRun.Heard shard a z.accountant := by
        rw [hz]
        exact Accountant.heard_usedBy heard stay₂
      exact heard'.published hzc.failures
    · rw [List.length_map, List.length_range]
      exact hzc.current
    · intro count_lt limit_lt
      have phase := (LoopRun.phase_start a shard outcomes).run count_lt limit_lt alone₁
      rw [hzc.count, List.length_map, List.length_range]
      exact UInt32.toNat_ofNat_of_lt' (room_of_running phase count_lt limit_lt running)
  · intro outcomes' acts halone hturns
    exact LoopRun.first_deed halone hturns
  · intro f delay state rest later unsplit
    have idle : .turn ∉ after.filter (· ≠ .turn) := by simp
    have hawake : unsplit = (run shard outcomes
        (following r { loop := { accountant := z.accountant } }) rest).loop := by
      show (start.run shard outcomes (_ ++ _ ++ ([.act .turn] ++ rest))).loop = _
      rw [← List.append_assoc, run_append, List.append_assoc, run_append, hstart,
        run_awake state idle, Accountant.usedBy_filter, hz]
    have hdeeds : z.deeds = r.deeds := by rw [hz]
    rw [hawake, ← run_following, hdeeds]
    exact ⟨rfl, rfl, rfl⟩

/-- A shard that has failed once before fails again and its loop is shut down while it
sleeps, when another shard has been connected. A later loop makes the third attempt, which
succeeds. -/
theorem shutdown_keeps_account_of_sleep :
    let a : Accountant := (Accountant.recordFailure { maxAttempts := 4 } 3).2
    let outcomes : Nat → Option String := fun i => if i = 0 then none else some "up"
    let z := (run 3 outcomes { loop := { accountant := a } }
      [.act .turn, .act (.fail 5), .act .turn, .stop, .act (.succeed 5), .act .turn]).loop
    let later := (run 3 (fun i => outcomes (1 + i)) { loop := { accountant := z.accountant } }
      [.act .turn, .act .turn]).loop
    let unsplit := (run 3 outcomes { loop := { accountant := a } }
      [.act .turn, .act (.fail 5), .act .turn, .act (.succeed 5), .act .turn, .act .turn,
        .act .turn]).loop
    ∃ delay, a.delayFor ⟨3, 2, 4⟩ = some delay ∧
      z.state = .finished .shutdown ∧ z.deeds = [.call 2, .sleep delay] ∧
      (z.accountant.current 3).toNat = 2 ∧
      later.deeds.head? = some (.call (z.accountant.current 3 + 1)) ∧
      later.state = unsplit.state ∧ z.deeds ++ later.deeds = unsplit.deeds := by
  intro a outcomes z later unsplit
  have h := shutdown_keeps_account 3 a outcomes [.turn, .fail 5, .turn] [.succeed 5, .turn]
    (by decide) (by decide +kernel) (by decide)
  obtain ⟨state, deeds, -, -, ⟨recorded, hlength, -, -, -, hcount⟩, hnext, hsplit⟩ := h
  have waits : (a.delayFor ⟨3, 2, 4⟩).isSome := by decide +kernel
  obtain ⟨delay, hdelay⟩ := Option.isSome_iff_exists.mp waits
  let r := LoopRun.run 3 outcomes { accountant := a } [.turn, .fail 5, .turn]
  have hr : r.state = .backingOff ⟨3, 2, 4⟩ delay ∧ r.deeds = [.call 2, .sleep delay] := by
    have hs : LoopState.afterFailure (α := String) a ⟨3, 2, 4⟩ = .backingOff ⟨3, 2, 4⟩ delay := by
      unfold LoopState.afterFailure
      rw [if_neg (by decide), hdelay]
    refine ⟨hs, ?_⟩
    show [LoopDeed.call 2] ++ (LoopState.afterFailure (α := String) a ⟨3, 2, 4⟩).deed?.toList = _
    rw [hs]
    rfl
  have hanswers : r.answered = 1 := rfl
  have hgrown : (z.accountant.current 3).toNat = 2 := by
    refine (hcount (by decide) (by decide)).trans ?_
    rw [hlength, hanswers]
    rfl
  obtain ⟨hstate, -, hdeeds⟩ := hsplit _ _ hr.1 [.act .turn, .act .turn]
  exact ⟨delay, hdelay, state, deeds.trans hr.2, hgrown,
    hnext (fun i => outcomes (1 + i)) [.turn, .turn] (by decide) (by decide), hstate, hdeeds⟩

end StoppableRun

end VoiceGateway
