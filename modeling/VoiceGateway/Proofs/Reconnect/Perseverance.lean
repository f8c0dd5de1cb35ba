import VoiceGateway.Proofs.Reconnect.Delays
import VoiceGateway.Proofs.Reconnect.Rounds
import VoiceGateway.Proofs.Stream

/-!
# How reconnect loops end

A loop that nobody shuts down makes attempts with consecutive numbers until one of
them succeeds or one fails whose number is beyond the limit. It sleeps between two
attempts and not after the last one, and each failure is recorded once, with the
number of the attempt. A shard that is beyond the limit already gets one attempt each
time its loop is run, until one succeeds.

A loop would also end if there were no duration to sleep for after a failure. Settings
always give one, so over settings there are the two endings only.

> `reconnect_loop`: how a loop ends, from every count, limit and sequence of outcomes.
> `connected_or_abandoned`: how it ends over settings.
-/

namespace VoiceGateway

/-- What a loop meets with in one run: the outcomes of its attempts, and what happens. -/
structure LoopTrial (α : Type) where
  outcomes : Nat → Option α
  acts : List LoopAct

namespace LoopRun

variable {α : Type} {shard : UInt32} {outcomes : Nat → Option α} {a : Accountant}
  {r : LoopRun α} {n t : Nat}

/-! ## What subscribers hear -/

/-- What is recorded of a shard is delivered as well, while somebody is subscribed. -/
structure Heard (shard : UInt32) (a a' : Accountant) : Prop where
  opened : a'.failures.closed = false
  subscribed : a'.failures.subscribers ≠ 0
  delivered : ∃ l, a'.failuresOf shard = a.failuresOf shard ++ l ∧
    a'.publishedOf shard = a.publishedOf shard ++ l

theorem heard_start (opened : a.failures.closed = false)
    (subscribed : a.failures.subscribers ≠ 0) : Heard shard a a :=
  ⟨opened, subscribed, [], (List.append_nil _).symm, (List.append_nil _).symm⟩

/-- The failures that were recorded are those that were delivered. -/
theorem Heard.published {a' : Accountant} (h : Heard shard a a') {l : List ReconnectFailure}
    (recorded : a'.failuresOf shard = a.failuresOf shard ++ l) :
    a'.publishedOf shard = a.publishedOf shard ++ l := by
  obtain ⟨l', hrecorded, hpublished⟩ := h.delivered
  rw [List.append_cancel_left (hrecorded.symm.trans recorded)] at hpublished
  exact hpublished

theorem Heard.recordFailure {a' : Accountant} (h : Heard shard a a') (other : UInt32) :
    Heard shard a (a'.recordFailure other).2 := by
  obtain ⟨l, hr, hp⟩ := h.delivered
  have hfail : (a'.recordFailure other).2.failures = _ :=
    Stream.publish_delivered h.opened h.subscribed _
  refine ⟨by rw [hfail]; exact h.opened, by rw [hfail]; exact h.subscribed, ?_⟩
  refine ⟨l ++ if other = shard then [a'.nextFailure shard] else [], ?_, ?_⟩
  · rw [Accountant.failuresOf_recordFailure, hr, List.append_assoc]
  · unfold Accountant.publishedOf at hp ⊢
    rw [hfail]
    show List.filter _ (_ ++ [_]) = _
    rw [List.filter_append, hp, List.append_assoc]
    by_cases ho : other = shard
    · subst ho
      simp [Accountant.nextFailure]
    · simp [Accountant.nextFailure, ho]

theorem Heard.recordSuccess {a' : Accountant} (h : Heard shard a a') (other : UInt32) :
    Heard shard a (a'.recordSuccess other) := by
  obtain ⟨l, hr, hp⟩ := h.delivered
  refine ⟨h.opened, h.subscribed, l, ?_, hp⟩
  rw [Accountant.failuresOf_recordSuccess]
  exact hr

theorem Heard.subscribe {a' : Accountant} (h : Heard shard a a') :
    Heard shard a a'.subscribe.2 :=
  ⟨h.opened, Nat.succ_ne_zero _, h.delivered⟩

theorem Heard.use {a' : Accountant} (h : Heard shard a a') {act : LoopAct}
    (stay : act ≠ .unsubscribe) : Heard shard a (a'.use act) := by
  cases act with
  | turn => exact h
  | fail other => exact h.recordFailure other
  | succeed other => exact h.recordSuccess other
  | subscribe => exact h.subscribe
  | unsubscribe => exact absurd rfl stay

/-- A turn uses the accountant as anybody may. -/
theorem turn_accountant (shard : UInt32) (outcomes : Nat → Option α) (r : LoopRun α) :
    (r.turn shard outcomes).accountant = r.accountant ∨
      (r.turn shard outcomes).accountant = r.accountant.recordSuccess shard ∨
      (r.turn shard outcomes).accountant = (r.accountant.recordFailure shard).2 := by
  cases hs : r.state with
  | ready => exact Or.inl (by rw [turn_ready hs])
  | connecting attempt =>
    cases ho : outcomes r.answered with
    | some value => exact Or.inr (Or.inl (by rw [turn_succeeded hs ho]))
    | none => exact Or.inr (Or.inr (by rw [turn_failed hs ho]))
  | backingOff f delay => exact Or.inl (by rw [turn_elapsed hs])
  | finished e => exact Or.inl (by rw [turn_finished hs])

theorem Heard.run (h : Heard shard a r.accountant) {acts : List LoopAct}
    (stay : .unsubscribe ∉ acts) : Heard shard a (r.run shard outcomes acts).accountant := by
  induction acts generalizing r with
  | nil => exact h
  | cons act acts ih =>
    have hact : .unsubscribe ≠ act := fun he => stay (he ▸ List.mem_cons_self)
    have stay' : .unsubscribe ∉ acts := fun hm => stay (List.mem_cons_of_mem _ hm)
    show Heard shard a ((r.act shard outcomes act).run shard outcomes acts).accountant
    by_cases ht : act = .turn
    · subst ht
      refine ih (r := r.turn shard outcomes) ?_ stay'
      rcases turn_accountant shard outcomes r with he | he | he
      · exact he ▸ h
      · exact he ▸ h.recordSuccess shard
      · exact he ▸ h.recordFailure shard
    · rw [act_of_ne_turn ht]
      exact ih (r := { r with accountant := r.accountant.use act }) (h.use (Ne.symm hact)) stay'

/-! ## Run after run -/

/-- Runs the loop of a shard once for every trial. -/
def runs (shard : UInt32) : Accountant → List (LoopTrial α) → List (LoopRun α)
  | _, [] => []
  | a, trial :: more =>
    let z := run shard trial.outcomes { accountant := a } trial.acts
    z :: runs shard z.accountant more

theorem Leaves.current_of_success {a' : Accountant} (h : Leaves a shard outcomes n a')
    {value : α} (succeeded : outcomes n = some value) : a'.current shard = 0 :=
  h.count.trans (if_neg (by simp [succeeded]))

theorem Leaves.current_of_failure {a' : Accountant} (h : Leaves a shard outcomes n a')
    (failed : outcomes n = none) : a'.current shard = (a.failureAfter shard n).attempt := by
  rw [h.count, if_pos failed, Nat.add_comm n 1, ← Nat.add_assoc]
  rfl

/-- A loop has ended when it has had the turns for the rounds that the limit leaves. -/
theorem run_over (outcomes : Nat → Option α)
    (count_lt : (a.current shard).toNat + 1 < UInt32.size)
    (limit_lt : a.maxAttempts.toNat + 1 < UInt32.size) {acts : List LoopAct}
    (alone : ∀ act ∈ acts, act.shard? ≠ some shard)
    (turns : 3 * (a.maxAttempts.toNat - (a.current shard).toNat) + 2 ≤ acts.count .turn) :
    let z := run shard outcomes { accountant := a } acts
    ∃ n e, (∀ i < n, GoesOn a shard outcomes i) ∧ z.state = .finished e ∧
      Stops a shard outcomes n e ∧ Leaves a shard outcomes n z.accountant ∧
      z.deeds = a.rounds shard n ++ [.call (a.failureAfter shard n).attempt] := by
  have hz := (phase_start a shard outcomes).run count_lt limit_lt alone
  exact hz.over (by rw [Nat.zero_add]; exact turns)

/-- A shard that has no attempts left gets one when its loop is run. -/
theorem run_of_exhausted (outcomes : Nat → Option α)
    (exhausted : a.maxAttempts.toNat ≤ (a.current shard).toNat)
    (count_lt : (a.current shard).toNat + 1 < UInt32.size)
    (limit_lt : a.maxAttempts.toNat + 1 < UInt32.size) {acts : List LoopAct}
    (alone : ∀ act ∈ acts, act.shard? ≠ some shard) (turns : 2 ≤ acts.count .turn) :
    let z := run shard outcomes { accountant := a } acts
    z.deeds = [.call (a.failureAfter shard 0).attempt] ∧
      z.state = .finished (match outcomes 0 with
        | some value => .connected value
        | none => .abandoned (a.failureAfter shard 0)) ∧
      Leaves a shard outcomes 0 z.accountant := by
  intro z
  obtain ⟨n, e, gone, state, stops, leaves, deeds⟩ :=
    run_over outcomes count_lt limit_lt alone (by omega)
  have hn : n = 0 := by
    have := le_of_gone gone
    omega
  subst hn
  refine ⟨deeds, state.trans ?_, leaves⟩
  cases stops with
  | connected succeeded => rw [succeeded]
  | abandoned failed beyond => rw [failed]
  | endless failed within sleepless => omega

theorem runs_of_exhausted {trials : List (LoopTrial α)}
    (exhausted : a.maxAttempts.toNat ≤ (a.current shard).toNat)
    (count_lt : (a.current shard).toNat + trials.length < UInt32.size)
    (limit_lt : a.maxAttempts.toNat + 1 < UInt32.size)
    (alone : ∀ x ∈ trials, ∀ act ∈ x.acts, act.shard? ≠ some shard)
    (turns : ∀ x ∈ trials, 2 ≤ x.acts.count .turn) {i : Nat}
    {x : LoopTrial α} (found : trials[i]? = some x)
    (failed : ∀ j < i, ∀ y, trials[j]? = some y → y.outcomes 0 = none) :
    ∃ z, (runs shard a trials)[i]? = some z ∧
      z.deeds = [.call (a.failureAfter shard i).attempt] ∧
      z.state = .finished (match x.outcomes 0 with
        | some value => .connected value
        | none => .abandoned (a.failureAfter shard i)) := by
  induction trials generalizing a i with
  | nil => exact absurd found (by simp)
  | cons trial trials ih =>
    rw [List.length_cons] at count_lt
    have hfirst := run_of_exhausted trial.outcomes exhausted (by omega) limit_lt
      (alone _ List.mem_cons_self) (turns _ List.mem_cons_self)
    cases i with
    | zero =>
      have hx : trial = x := Option.some.inj found
      subst hx
      exact ⟨_, rfl, hfirst.1, hfirst.2.1⟩
    | succ i =>
      obtain ⟨-, -, leaves⟩ := hfirst
      generalize hz : run shard trial.outcomes { accountant := a } trial.acts = z at leaves
      have h0 : trial.outcomes 0 = none := failed 0 (Nat.succ_pos i) _ rfl
      have hcount : (z.accountant.current shard).toNat = (a.current shard).toNat + 1 := by
        rw [leaves.count, if_pos h0, UInt32.toNat_ofNat_of_lt' (by omega)]
      have hlimit : z.accountant.maxAttempts = a.maxAttempts := leaves.limit
      have hfailure : z.accountant.failureAfter shard i = a.failureAfter shard (i + 1) := by
        unfold Accountant.failureAfter
        rw [hcount, hlimit, Nat.add_assoc _ 1 i, Nat.add_comm 1 i]
      have h := ih (a := z.accountant) (by rw [hcount, hlimit]; omega) (by rw [hcount]; omega)
        (by rw [hlimit]; exact limit_lt) (fun x hx => alone x (List.mem_cons_of_mem _ hx))
        (fun x hx => turns x (List.mem_cons_of_mem _ hx)) (i := i) found
        (fun j hj y hy => failed (j + 1) (Nat.succ_lt_succ hj) y hy)
      rw [hfailure] at h
      obtain ⟨z', hz', hdeeds, hstate⟩ := h
      refine ⟨z', ?_, hdeeds, hstate⟩
      unfold runs
      rw [hz]
      exact hz'

/-- How the loop of a shard ends that has had `k` failures since it was last connected,
whatever its attempts come to, while others use the accountant but not for this shard.
It has ended when it has had the turns for the rounds that the limit leaves, after at
most so many attempts and one more. All attempts but the last one, with the numbers from
`k + 1` on, have failed within the limit, and after each of them the loop has slept for
as long as the accountant says. The last one has succeeded: then the loop hands over
its value, and the counter is zero. Or its failure is beyond the limit: then the shard
is given up with that failure. (Or there is no duration to sleep for after a failure,
which ends the loop too.) A failure is recorded for each attempt that has failed, with
the number of the attempt, and those who are subscribed are told. And a shard that has no
attempts left gets one each time its loop is run, until one succeeds. -/
theorem reconnect_loop (shard : UInt32) (a : Accountant)
    (count_lt : (a.current shard).toNat + 1 < UInt32.size)
    (limit_lt : a.maxAttempts.toNat + 1 < UInt32.size) :
    let k := (a.current shard).toNat
    let limit := a.maxAttempts.toNat
    let failure (i : Nat) : ReconnectFailure := ⟨shard, .ofNat (k + 1 + i), a.maxAttempts⟩
    (∀ (outcomes : Nat → Option α) (acts : List LoopAct),
      (∀ act ∈ acts, act.shard? ≠ some shard) → 3 * (limit - k) + 2 ≤ acts.count .turn →
      let z := run shard outcomes { accountant := a } acts
      ∃ (n : Nat) (ending : LoopEnding α) (delay : Nat → Duration),
        z.state = .finished ending ∧ n ≤ limit - k ∧
        (∀ i < n, outcomes i = none ∧ k + 1 + i ≤ limit ∧
          a.delayFor (failure i) = some (delay i)) ∧
        (match outcomes n with
          | some value => ending = .connected value ∧ z.accountant.current shard = 0
          | none => z.accountant.current shard = (failure n).attempt ∧
            (limit < k + 1 + n ∧ ending = .abandoned (failure n) ∨
              k + 1 + n ≤ limit ∧ a.delayFor (failure n) = none ∧
                ending = .endlessDelay (failure n))) ∧
        z.deeds = ((List.range n).flatMap fun i =>
          [.call (failure i).attempt, .sleep (delay i)]) ++ [.call (failure n).attempt] ∧
        ∃ recorded, recorded =
            ((List.range (n + 1)).filter fun i => outcomes i = none).map failure ∧
          z.accountant.failuresOf shard = a.failuresOf shard ++ recorded ∧
          (a.failures.closed = false → a.failures.subscribers ≠ 0 → .unsubscribe ∉ acts →
            z.accountant.publishedOf shard = a.publishedOf shard ++ recorded)) ∧
    (limit ≤ k → ∀ trials : List (LoopTrial α), k + trials.length < UInt32.size →
      (∀ x ∈ trials, ∀ act ∈ x.acts, act.shard? ≠ some shard) →
      (∀ x ∈ trials, 2 ≤ x.acts.count .turn) →
      ∀ (i : Nat) (x : LoopTrial α), trials[i]? = some x →
        (∀ j < i, ∀ y, trials[j]? = some y → y.outcomes 0 = none) →
        ∃ z, (runs shard a trials)[i]? = some z ∧ z.deeds = [.call (failure i).attempt] ∧
          z.state = .finished (match x.outcomes 0 with
            | some value => .connected value
            | none => .abandoned (failure i))) := by
  intro k limit failure
  refine ⟨?_, fun exhausted trials short alone turns i x found failed =>
    runs_of_exhausted exhausted short limit_lt alone turns found failed⟩
  intro outcomes acts alone turns z
  obtain ⟨n, e, gone, state, stops, leaves, deeds⟩ :=
    run_over outcomes count_lt limit_lt alone turns
  refine ⟨n, e, a.sleepAfter shard, state, le_of_gone gone, ?_, ?_, deeds, _, rfl,
    leaves.failures, ?_⟩
  · intro i hi
    obtain ⟨failed, within, sleeps⟩ := gone i hi
    refine ⟨failed, within, ?_⟩
    obtain ⟨delay, hd⟩ := Option.isSome_iff_exists.mp sleeps
    unfold Accountant.sleepAfter
    rw [hd]
    exact hd
  · cases stops with
    | connected succeeded =>
      rw [succeeded]
      exact ⟨rfl, leaves.current_of_success succeeded⟩
    | abandoned failed beyond =>
      rw [failed]
      exact ⟨leaves.current_of_failure failed, Or.inl ⟨beyond, rfl⟩⟩
    | endless failed within sleepless =>
      rw [failed]
      exact ⟨leaves.current_of_failure failed, Or.inr ⟨within, sleepless, rfl⟩⟩
  · intro opened subscribed stay
    have heard : Heard shard a z.accountant :=
      Heard.run (r := { accountant := a }) (heard_start opened subscribed) stay
    exact heard.published leaves.failures

/-- A shard that has failed once and may fail twice: the second failure is slept after,
and the third gives it up. In the meantime another shard fails and is connected. -/
theorem reconnect_loop_of_two_failures :
    let a : Accountant := (Accountant.recordFailure { maxAttempts := 2 } 3).2
    let acts : List LoopAct :=
      [.turn, .fail 5, .turn, .subscribe, .turn, .turn, .succeed 5, .turn]
    let z := run 3 (fun _ => (none : Option String)) { accountant := a } acts
    ∃ delay, a.delayFor ⟨3, 2, 2⟩ = some delay ∧
      z.deeds = [.call 2, .sleep delay, .call 3] ∧
      z.state = .finished (.abandoned ⟨3, 3, 2⟩) ∧
      z.accountant.failuresOf 3 = [⟨3, 1, 2⟩, ⟨3, 2, 2⟩, ⟨3, 3, 2⟩] := by
  intro a acts z
  have h := (reconnect_loop (α := String) 3 a (by decide) (by decide)).1 (fun _ => none) acts
    (by decide) (by decide)
  obtain ⟨n, ending, delay, state, hn, gone, ends, deeds, recorded, rfl, failures, -⟩ := h
  have waits : (a.delayFor ⟨3, 2, 2⟩).isSome := by decide +kernel
  have hn' : n ≤ 1 := hn
  rcases Nat.le_one_iff_eq_zero_or_eq_one.mp hn' with rfl | rfl
  · -- The first attempt is within the limit, and there is a duration to sleep for.
    rcases ends.2 with ⟨beyond, -⟩ | ⟨-, sleepless, -⟩
    · exact absurd beyond (by decide)
    · have hnone : a.delayFor ⟨3, 2, 2⟩ = none := sleepless
      rw [hnone] at waits
      exact absurd waits (by simp)
  · have hdelay : a.delayFor ⟨3, 2, 2⟩ = some (delay 0) := (gone 0 (by decide)).2.2
    refine ⟨delay 0, hdelay, deeds, ?_, failures⟩
    rcases ends.2 with ⟨-, rfl⟩ | ⟨within, -⟩
    · exact state
    · exact absurd within (by decide)

/-! ## Over settings -/

/-- Where something can be slept for after every failure, a loop stops with an attempt that
has succeeded, or with the one that is beyond the limit. -/
theorem Stops.of_sleeps (sleeps : ∀ f, (a.delayFor f).isSome)
    (gone : ∀ i < n, GoesOn a shard outcomes i) {e : LoopEnding α}
    (h : Stops a shard outcomes n e) :
    match outcomes n with
    | some value => e = .connected value
    | none => n = a.maxAttempts.toNat - (a.current shard).toNat ∧
        e = .abandoned (a.failureAfter shard n) := by
  cases h with
  | connected succeeded => rw [succeeded]
  | abandoned failed beyond =>
    rw [failed]
    have := le_of_gone gone
    exact ⟨by omega, rfl⟩
  | endless failed within sleepless =>
    have := sleeps (a.failureAfter shard n)
    rw [sleepless] at this
    exact absurd this (by simp)

/-- A loop whose delays are computed from settings, the standard ones among them, makes
attempts until one succeeds, but no more than the limit leaves and one more. It is connected
if one of them succeeds, and else it gives its shard up with the failure of the last one;
there is no third way. -/
theorem connected_or_abandoned {settings : ReconnectSettings}
    (configured : a.backoff = .ofSettings settings)
    (count_lt : (a.current shard).toNat + 1 < UInt32.size)
    (limit_lt : a.maxAttempts.toNat + 1 < UInt32.size) {acts : List LoopAct}
    (alone : ∀ act ∈ acts, act.shard? ≠ some shard)
    (turns : 3 * (a.maxAttempts.toNat - (a.current shard).toNat) + 2 ≤ acts.count .turn) :
    let left := a.maxAttempts.toNat - (a.current shard).toNat
    let z := run shard outcomes { accountant := a } acts
    ∃ n ≤ left, (∀ i < n, outcomes i = none) ∧
      z.deeds = a.rounds shard n ++ [.call (a.failureAfter shard n).attempt] ∧
      match outcomes n with
      | some value => z.state = .finished (.connected value) ∧ z.accountant.current shard = 0
      | none => n = left ∧ z.state = .finished (.abandoned (a.failureAfter shard n)) ∧
          z.accountant.current shard = (a.failureAfter shard n).attempt := by
  intro left z
  obtain ⟨n, e, gone, state, stops, leaves, deeds⟩ :=
    run_over outcomes count_lt limit_lt alone turns
  have sleeps : ∀ f, (a.delayFor f).isSome := fun f => by
    unfold Accountant.delayFor
    rw [configured]
    exact Backoff.isSome_delayAfter settings f
  have ending := stops.of_sleeps sleeps gone
  refine ⟨n, le_of_gone gone, fun i hi => (gone i hi).failed, deeds, ?_⟩
  cases h : outcomes n with
  | some value =>
    rw [h] at ending
    exact ⟨ending ▸ state, leaves.current_of_success h⟩
  | none =>
    rw [h] at ending
    exact ⟨ending.1, ending.2 ▸ state, leaves.current_of_failure h⟩

end LoopRun

end VoiceGateway
