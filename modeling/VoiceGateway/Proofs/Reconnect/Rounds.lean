import VoiceGateway.Reconnect.Loop

/-!
# The rounds of a reconnect loop

A loop that nobody shuts down goes round: it reads the counter of its shard and makes
the attempt with the next number, and if that fails it counts the failure and sleeps.
So the number of an attempt is the number of the failure that it may become, and of
the rounds there are no more than the limit leaves. Meanwhile others may use the
accountant, but not for the shard of the loop.

> `Phase.run`: where a loop is after so many turns, and what it has done by then.
> `Phase.over`: a loop ends in as many rounds as the limit leaves, and one attempt.
-/

namespace VoiceGateway

/-- What a loop does for others to see: it makes an attempt, or it sleeps. -/
inductive LoopDeed where
  | call (attempt : UInt32)
  | sleep (delay : Duration)
deriving DecidableEq, Repr

/-- One thing that happens while a loop runs: it takes its turn, or somebody else uses
the accountant. -/
inductive LoopAct where
  | turn
  | fail (shard : UInt32)
  | succeed (shard : UInt32)
  | subscribe
  | unsubscribe
deriving DecidableEq, Repr

/-- The shard whose counter somebody else uses. -/
def LoopAct.shard? : LoopAct → Option UInt32
  | .fail shard | .succeed shard => some shard
  | .turn | .subscribe | .unsubscribe => none

/-- The failure of a shard that is reported. -/
def TraceEvent.failureOf? (shard : UInt32) : TraceEvent → Option ReconnectFailure
  | .reconnectFailed s attempt limit _ => if s = shard then some ⟨s, attempt, limit⟩ else none
  | _ => none

namespace LoopState

variable {α : Type}

/-- What comes next for a loop that nobody shuts down, by the outcome of its attempt. -/
def due (outcome : Option α) : LoopState α → LoopInput α
  | .ready | .finished _ => .run false
  | .connecting _ =>
    match outcome with
    | some value => .succeeded value
    | none => .failed
  | .backingOff _ _ => .elapsed

/-- What a loop does that comes to a state. -/
def deed? : LoopState α → Option LoopDeed
  | .connecting attempt => some (.call attempt)
  | .backingOff _ delay => some (.sleep delay)
  | .ready | .finished _ => none

/-- Whether an attempt is under way. -/
def isConnecting : LoopState α → Bool
  | .connecting _ => true
  | _ => false

end LoopState

/-- A loop among others, and what it has done. -/
structure LoopRun (α : Type) where
  accountant : Accountant
  state : LoopState α := .ready
  /-- The attempts that have an outcome. -/
  answered : Nat := 0
  deeds : List LoopDeed := []

namespace LoopRun

variable {α : Type} (shard : UInt32) (outcomes : Nat → Option α)

/-- Lets the loop take its turn. Its attempts have the given outcomes, one after the
other. -/
def turn (r : LoopRun α) : LoopRun α :=
  let (a, s) := r.state.step shard r.accountant (r.state.due (outcomes r.answered))
  { accountant := a
    state := s
    answered := if r.state.isConnecting then r.answered + 1 else r.answered
    deeds := r.deeds ++ s.deed?.toList }

/-- Lets one thing happen. -/
def act (r : LoopRun α) : LoopAct → LoopRun α
  | .turn => r.turn shard outcomes
  | .fail other => { r with accountant := (r.accountant.recordFailure other).2 }
  | .succeed other => { r with accountant := r.accountant.recordSuccess other }
  | .subscribe => { r with accountant := r.accountant.subscribe.2 }
  | .unsubscribe => { r with accountant := r.accountant.unsubscribe }

/-- Lets things happen one after the other. -/
def run (r : LoopRun α) (acts : List LoopAct) : LoopRun α := acts.foldl (act shard outcomes) r

end LoopRun

namespace Accountant

/-- The failures of a shard that have been recorded. -/
def failuresOf (a : Accountant) (shard : UInt32) : List ReconnectFailure :=
  a.trace.filterMap (·.failureOf? shard)

/-- The failures of a shard that have been delivered to subscribers. -/
def publishedOf (a : Accountant) (shard : UInt32) : List ReconnectFailure :=
  a.failures.history.filter (·.shard = shard)

/-- The failure of a shard that is `i`th of those to come, counted from zero. -/
def failureAfter (a : Accountant) (shard : UInt32) (i : Nat) : ReconnectFailure :=
  ⟨shard, .ofNat ((a.current shard).toNat + 1 + i), a.maxAttempts⟩

/-- How long a loop sleeps after the failure that is `i`th of those to come. -/
def sleepAfter (a : Accountant) (shard : UInt32) (i : Nat) : Duration :=
  (a.delayFor (a.failureAfter shard i)).getD (.ofSecs 0)

/-- What a loop does in its first `n` rounds. -/
def rounds (a : Accountant) (shard : UInt32) (n : Nat) : List LoopDeed :=
  (List.range n).flatMap fun i =>
    [.call (a.failureAfter shard i).attempt, .sleep (a.sleepAfter shard i)]

variable {a a' a'' : Accountant} {shard other : UInt32} {n : Nat}

theorem rounds_succ (a : Accountant) (shard : UInt32) (n : Nat) :
    a.rounds shard (n + 1) = a.rounds shard n ++
      [.call (a.failureAfter shard n).attempt, .sleep (a.sleepAfter shard n)] := by
  unfold rounds
  rw [List.range_succ, List.flatMap_append, List.flatMap_singleton]

theorem failuresOf_recordFailure (a : Accountant) (other shard : UInt32) :
    (a.recordFailure other).2.failuresOf shard =
      a.failuresOf shard ++ if other = shard then [a.nextFailure shard] else [] := by
  show (a.trace ++ [_]).filterMap _ = _
  rw [List.filterMap_append]
  by_cases h : other = shard
  · subst h
    simp [failuresOf, TraceEvent.failureOf?, nextFailure]
  · simp [failuresOf, TraceEvent.failureOf?, h]

theorem failuresOf_recordSuccess (a : Accountant) (other shard : UInt32) :
    (a.recordSuccess other).failuresOf shard = a.failuresOf shard := by
  unfold failuresOf recordSuccess
  show List.filterMap _ (if _ then _ else _) = _
  split
  · rw [List.filterMap_append]
    exact List.append_nil _
  · rfl

/-! ## What others do -/

/-- What those who do not use the counter of a shard leave as it is. -/
structure Aside (shard : UInt32) (a a' : Accountant) : Prop where
  limit : a'.maxAttempts = a.maxAttempts
  backoff : a'.backoff = a.backoff
  count : a'.current shard = a.current shard
  failures : a'.failuresOf shard = a.failuresOf shard

theorem recordFailure_aside (a : Accountant) (h : other ≠ shard) :
    Aside shard a (a.recordFailure other).2 where
  limit := rfl
  backoff := rfl
  count := by rw [current_recordFailure, if_neg h]
  failures := by rw [failuresOf_recordFailure, if_neg h, List.append_nil]

theorem recordSuccess_aside (a : Accountant) (h : other ≠ shard) :
    Aside shard a (a.recordSuccess other) where
  limit := rfl
  backoff := rfl
  count := by rw [current_recordSuccess, if_neg h]
  failures := failuresOf_recordSuccess a other shard

theorem subscribe_aside (a : Accountant) : Aside shard a a.subscribe.2 := ⟨rfl, rfl, rfl, rfl⟩

theorem unsubscribe_aside (a : Accountant) : Aside shard a a.unsubscribe := ⟨rfl, rfl, rfl, rfl⟩

theorem Aside.refl (shard : UInt32) (a : Accountant) : Aside shard a a := ⟨rfl, rfl, rfl, rfl⟩

theorem Aside.trans (h : Aside shard a a') (h' : Aside shard a' a'') : Aside shard a a'' where
  limit := h'.limit.trans h.limit
  backoff := h'.backoff.trans h.backoff
  count := h'.count.trans h.count
  failures := h'.failures.trans h.failures

/-- What somebody else does with an accountant; a turn of the loop is none of it. -/
def use (a : Accountant) : LoopAct → Accountant
  | .turn => a
  | .fail other => (a.recordFailure other).2
  | .succeed other => a.recordSuccess other
  | .subscribe => a.subscribe.2
  | .unsubscribe => a.unsubscribe

theorem use_aside (a : Accountant) {act : LoopAct} (alone : act.shard? ≠ some shard) :
    Aside shard a (a.use act) := by
  cases act with
  | turn => exact .refl shard a
  | fail other => exact recordFailure_aside a fun he => alone (congrArg some he)
  | succeed other => exact recordSuccess_aside a fun he => alone (congrArg some he)
  | subscribe => exact subscribe_aside a
  | unsubscribe => exact unsubscribe_aside a

/-! ## What the loop does -/

/-- An accountant that has counted `n` more failures of a shard. -/
structure Counts (a : Accountant) (shard : UInt32) (n : Nat) (a' : Accountant) : Prop where
  limit : a'.maxAttempts = a.maxAttempts
  backoff : a'.backoff = a.backoff
  count : a'.current shard = .ofNat ((a.current shard).toNat + n)
  failures : a'.failuresOf shard =
    a.failuresOf shard ++ (List.range n).map (a.failureAfter shard)

theorem counts_zero (a : Accountant) (shard : UInt32) : a.Counts shard 0 a where
  limit := rfl
  backoff := rfl
  count := UInt32.ofNat_toNat.symm
  failures := (List.append_nil _).symm

theorem Counts.aside (h : a.Counts shard n a') (ha : Aside shard a' a'') :
    a.Counts shard n a'' where
  limit := ha.limit.trans h.limit
  backoff := ha.backoff.trans h.backoff
  count := ha.count.trans h.count
  failures := ha.failures.trans h.failures

/-- The number that the next attempt has. -/
theorem Counts.attempt (h : a.Counts shard n a') :
    a'.current shard + 1 = (a.failureAfter shard n).attempt := by
  rw [h.count]
  show _ = UInt32.ofNat _
  rw [Nat.add_right_comm, UInt32.ofNat_add _ 1]
  rfl

theorem Counts.nextFailure (h : a.Counts shard n a') :
    a'.nextFailure shard = a.failureAfter shard n := by
  unfold Accountant.nextFailure
  rw [h.attempt, h.limit]
  rfl

theorem Counts.recordFailure (h : a.Counts shard n a') :
    a.Counts shard (n + 1) (a'.recordFailure shard).2 where
  limit := h.limit
  backoff := h.backoff
  count := by
    rw [current_recordFailure, if_pos rfl, h.attempt]
    show UInt32.ofNat _ = _
    rw [Nat.add_assoc, Nat.add_comm 1 n]
  failures := by
    rw [failuresOf_recordFailure, if_pos rfl, h.nextFailure, h.failures, List.append_assoc,
      List.range_succ, List.map_append]
    rfl

theorem Counts.delayFor (h : a.Counts shard n a') (f : ReconnectFailure) :
    a'.delayFor f = a.delayFor f := by
  unfold Accountant.delayFor
  rw [h.backoff]

end Accountant

namespace LoopRun

variable {α : Type} {shard : UInt32} {outcomes : Nat → Option α} {a : Accountant}
  {r : LoopRun α} {n t : Nat}

/-- An attempt after which the loop goes on: it fails, within the limit, and there is a
duration for the sleep. -/
structure GoesOn (a : Accountant) (shard : UInt32) (outcomes : Nat → Option α) (i : Nat) :
    Prop where
  failed : outcomes i = none
  within : (a.current shard).toNat + 1 + i ≤ a.maxAttempts.toNat
  sleeps : (a.delayFor (a.failureAfter shard i)).isSome

/-- An attempt with which the loop ends: it succeeds, or it fails beyond the limit, or
there is no duration for the sleep. -/
inductive Stops (a : Accountant) (shard : UInt32) (outcomes : Nat → Option α) (i : Nat) :
    LoopEnding α → Prop
  | connected {value : α} (succeeded : outcomes i = some value) :
      Stops a shard outcomes i (.connected value)
  | abandoned (failed : outcomes i = none)
      (beyond : a.maxAttempts.toNat < (a.current shard).toNat + 1 + i) :
      Stops a shard outcomes i (.abandoned (a.failureAfter shard i))
  | endless (failed : outcomes i = none)
      (within : (a.current shard).toNat + 1 + i ≤ a.maxAttempts.toNat)
      (sleepless : a.delayFor (a.failureAfter shard i) = none) :
      Stops a shard outcomes i (.endlessDelay (a.failureAfter shard i))

/-- What a loop leaves behind that has ended with attempt `n`. -/
structure Leaves (a : Accountant) (shard : UInt32) (outcomes : Nat → Option α) (n : Nat)
    (a' : Accountant) : Prop where
  limit : a'.maxAttempts = a.maxAttempts
  backoff : a'.backoff = a.backoff
  count : a'.current shard =
    if outcomes n = none then .ofNat ((a.current shard).toNat + (n + 1)) else 0
  failures : a'.failuresOf shard = a.failuresOf shard ++
    ((List.range (n + 1)).filter fun i => outcomes i = none).map (a.failureAfter shard)

theorem Leaves.aside {a' a'' : Accountant} (h : Leaves a shard outcomes n a')
    (ha : Accountant.Aside shard a' a'') : Leaves a shard outcomes n a'' where
  limit := ha.limit.trans h.limit
  backoff := ha.backoff.trans h.backoff
  count := ha.count.trans h.count
  failures := ha.failures.trans h.failures

/-- The first `n` attempts fail, so a failure is recorded for each of them. -/
theorem range_failed (gone : ∀ i < n, GoesOn a shard outcomes i) :
    ((List.range n).filter fun i => outcomes i = none) = List.range n := by
  refine List.filter_eq_self.mpr fun i hi => ?_
  rw [(gone i (List.mem_range.mp hi)).failed]
  rfl

theorem leaves_of_success {a' : Accountant} {value : α} (h : a.Counts shard n a')
    (gone : ∀ i < n, GoesOn a shard outcomes i) (succeeded : outcomes n = some value) :
    Leaves a shard outcomes n (a'.recordSuccess shard) where
  limit := h.limit
  backoff := h.backoff
  count := by rw [Accountant.current_recordSuccess, if_pos rfl, succeeded, if_neg (by simp)]
  failures := by
    rw [Accountant.failuresOf_recordSuccess, h.failures, List.range_succ, List.filter_append,
      range_failed gone]
    simp [succeeded]

theorem leaves_of_failure {a' : Accountant} (h : a.Counts shard (n + 1) a')
    (gone : ∀ i < n, GoesOn a shard outcomes i) (failed : outcomes n = none) :
    Leaves a shard outcomes n a' where
  limit := h.limit
  backoff := h.backoff
  count := by rw [h.count, if_pos failed]
  failures := by
    rw [h.failures]
    simp only [List.range_succ, List.filter_append, range_failed gone]
    simp [failed]

/-! ## Turn by turn -/

/-- Where a loop is after `t` turns, and what it has done by then. In each round it
takes three of them. -/
inductive Phase (a : Accountant) (shard : UInt32) (outcomes : Nat → Option α) :
    Nat → LoopRun α → Prop
  | ready {r : LoopRun α} {n : Nat} (state : r.state = .ready) (answered : r.answered = n)
      (gone : ∀ i < n, GoesOn a shard outcomes i) (counts : a.Counts shard n r.accountant)
      (deeds : r.deeds = a.rounds shard n) : Phase a shard outcomes (3 * n) r
  | connecting {r : LoopRun α} {n : Nat}
      (state : r.state = .connecting (a.failureAfter shard n).attempt) (answered : r.answered = n)
      (gone : ∀ i < n, GoesOn a shard outcomes i) (counts : a.Counts shard n r.accountant)
      (deeds : r.deeds = a.rounds shard n ++ [.call (a.failureAfter shard n).attempt]) :
      Phase a shard outcomes (3 * n + 1) r
  | backingOff {r : LoopRun α} {n : Nat} {delay : Duration}
      (state : r.state = .backingOff (a.failureAfter shard n) delay) (answered : r.answered = n + 1)
      (gone : ∀ i < n + 1, GoesOn a shard outcomes i)
      (counts : a.Counts shard (n + 1) r.accountant)
      (deeds : r.deeds = a.rounds shard (n + 1)) : Phase a shard outcomes (3 * n + 2) r
  | finished {r : LoopRun α} {n t : Nat} {e : LoopEnding α} (state : r.state = .finished e)
      (gone : ∀ i < n, GoesOn a shard outcomes i) (stops : Stops a shard outcomes n e)
      (leaves : Leaves a shard outcomes n r.accountant)
      (deeds : r.deeds = a.rounds shard n ++ [.call (a.failureAfter shard n).attempt]) :
      Phase a shard outcomes t r

/-- The number of an attempt that is made is not beyond 32 bits. -/
theorem room_of_gone (count_lt : (a.current shard).toNat + 1 < UInt32.size)
    (limit_lt : a.maxAttempts.toNat + 1 < UInt32.size) (gone : ∀ i < n, GoesOn a shard outcomes i) :
    (a.current shard).toNat + 1 + n < UInt32.size := by
  cases n with
  | zero => omega
  | succ n =>
    have := (gone n (Nat.lt_succ_self n)).within
    omega

/-- A shard is given up after the failures beyond the limit. -/
theorem isAbandoned_iff (room : (a.current shard).toNat + 1 + n < UInt32.size) :
    (a.failureAfter shard n).isAbandoned = true ↔
      a.maxAttempts.toNat < (a.current shard).toNat + 1 + n := by
  show decide (a.maxAttempts < UInt32.ofNat _) = true ↔ _
  rw [decide_eq_true_iff, UInt32.lt_iff_toNat_lt, UInt32.toNat_ofNat_of_lt' room]

theorem turn_ready (state : r.state = .ready) :
    r.turn shard outcomes =
      { r with
        state := .connecting (r.accountant.current shard + 1)
        deeds := r.deeds ++ [.call (r.accountant.current shard + 1)] } := by
  unfold turn
  rw [state]
  rfl

theorem turn_succeeded {attempt : UInt32} {value : α} (state : r.state = .connecting attempt)
    (succeeded : outcomes r.answered = some value) :
    r.turn shard outcomes =
      { accountant := r.accountant.recordSuccess shard
        state := .finished (.connected value)
        answered := r.answered + 1
        deeds := r.deeds } := by
  unfold turn
  rw [state, succeeded]
  show LoopRun.mk _ _ _ (r.deeds ++ []) = _
  rw [List.append_nil]
  rfl

theorem turn_failed {attempt : UInt32} (state : r.state = .connecting attempt)
    (failed : outcomes r.answered = none) :
    let f := r.accountant.nextFailure shard
    let a := (r.accountant.recordFailure shard).2
    r.turn shard outcomes =
      { accountant := a
        state := .afterFailure a f
        answered := r.answered + 1
        deeds := r.deeds ++ (LoopState.afterFailure (α := α) a f).deed?.toList } := by
  unfold turn
  rw [state, failed]
  rfl

theorem turn_elapsed {f : ReconnectFailure} {delay : Duration}
    (state : r.state = .backingOff f delay) :
    r.turn shard outcomes = { r with state := .ready } := by
  unfold turn
  rw [state]
  show LoopRun.mk _ _ _ (r.deeds ++ []) = _
  rw [List.append_nil]
  rfl

theorem turn_finished {e : LoopEnding α} (state : r.state = .finished e) :
    r.turn shard outcomes = r := by
  unfold turn
  rw [state, LoopState.step_finished]
  show { r with state := _, deeds := r.deeds ++ [] } = r
  rw [List.append_nil, ← state]

theorem act_of_ne_turn {act : LoopAct} (h : act ≠ .turn) :
    r.act shard outcomes act = { r with accountant := r.accountant.use act } := by
  cases act with
  | turn => exact absurd rfl h
  | fail | succeed | subscribe | unsubscribe => rfl

/-- A turn of a loop whose attempt has failed. -/
theorem phase_failed {attempt : UInt32} (state : r.state = .connecting attempt)
    (answered : r.answered = n) (gone : ∀ i < n, GoesOn a shard outcomes i)
    (room : (a.current shard).toNat + 1 + n < UInt32.size) (counts : a.Counts shard n r.accountant)
    (deeds : r.deeds = a.rounds shard n ++ [.call (a.failureAfter shard n).attempt])
    (failed : outcomes n = none) :
    Phase a shard outcomes (3 * n + 2) (r.turn shard outcomes) := by
  have counts' := counts.recordFailure
  have leaves := leaves_of_failure counts' gone failed
  have hdelay := counts'.delayFor (a.failureAfter shard n)
  rw [turn_failed state (by rw [answered]; exact failed), counts.nextFailure]
  unfold LoopState.afterFailure
  by_cases beyond : a.maxAttempts.toNat < (a.current shard).toNat + 1 + n
  · rw [if_pos ((isAbandoned_iff room).mpr beyond)]
    exact .finished rfl gone (.abandoned failed beyond) leaves ((List.append_nil _).trans deeds)
  · have within := Nat.le_of_not_lt beyond
    rw [if_neg (fun h => beyond ((isAbandoned_iff room).mp h)), hdelay]
    cases hd : a.delayFor (a.failureAfter shard n) with
    | none =>
      exact .finished rfl gone (.endless failed within hd) leaves
        ((List.append_nil _).trans deeds)
    | some delay =>
      refine .backingOff rfl (congrArg (· + 1) answered) ?_ counts' ?_
      · intro i hi
        rcases Nat.lt_succ_iff_lt_or_eq.mp hi with hi | rfl
        · exact gone i hi
        · exact ⟨failed, within, by rw [hd]; rfl⟩
      · show r.deeds ++ [LoopDeed.sleep delay] = _
        have hs : a.sleepAfter shard n = delay := by
          unfold Accountant.sleepAfter
          rw [hd]
          rfl
        rw [deeds, Accountant.rounds_succ, hs, List.append_assoc]
        rfl

/-- A turn takes a loop to its next phase. -/
theorem Phase.turn (count_lt : (a.current shard).toNat + 1 < UInt32.size)
    (limit_lt : a.maxAttempts.toNat + 1 < UInt32.size) (h : Phase a shard outcomes t r) :
    Phase a shard outcomes (t + 1) (r.turn shard outcomes) := by
  cases h with
  | ready state answered gone counts deeds =>
    rw [turn_ready state]
    refine .connecting ?_ answered gone counts ?_
    · rw [counts.attempt]
    · rw [counts.attempt, deeds]
  | @connecting _ n state answered gone counts deeds =>
    cases ho : outcomes n with
    | some value =>
      rw [turn_succeeded state (by rw [answered]; exact ho)]
      exact .finished rfl gone (.connected ho) (leaves_of_success counts gone ho) deeds
    | none =>
      have room := room_of_gone count_lt limit_lt gone
      exact phase_failed state answered gone room counts deeds ho
  | @backingOff _ n delay state answered gone counts deeds =>
    rw [turn_elapsed state]
    exact .ready (n := n + 1) rfl answered gone counts deeds
  | finished state gone stops leaves deeds =>
    rw [turn_finished state]
    exact .finished state gone stops leaves deeds

/-- What others do leaves a loop in its phase. -/
theorem Phase.aside (h : Phase a shard outcomes t r) {a' : Accountant}
    (ha : Accountant.Aside shard r.accountant a') :
    Phase a shard outcomes t { r with accountant := a' } := by
  cases h with
  | ready state answered gone counts deeds =>
    exact .ready state answered gone (counts.aside ha) deeds
  | connecting state answered gone counts deeds =>
    exact .connecting state answered gone (counts.aside ha) deeds
  | backingOff state answered gone counts deeds =>
    exact .backingOff state answered gone (counts.aside ha) deeds
  | finished state gone stops leaves deeds =>
    exact .finished state gone stops (leaves.aside ha) deeds

/-! ## Whole runs -/

/-- After a run the loop is in the phase that its turns have taken it to. -/
theorem Phase.run (count_lt : (a.current shard).toNat + 1 < UInt32.size)
    (limit_lt : a.maxAttempts.toNat + 1 < UInt32.size) (h : Phase a shard outcomes t r)
    {acts : List LoopAct} (alone : ∀ act ∈ acts, act.shard? ≠ some shard) :
    Phase a shard outcomes (t + acts.count .turn) (r.run shard outcomes acts) := by
  induction acts generalizing r t with
  | nil => exact h
  | cons act acts ih =>
    have hact : act.shard? ≠ some shard := alone act List.mem_cons_self
    have alone' : ∀ x ∈ acts, x.shard? ≠ some shard := fun x hx =>
      alone x (List.mem_cons_of_mem _ hx)
    show Phase a shard outcomes _ ((r.act shard outcomes act).run shard outcomes acts)
    by_cases ht : act = .turn
    · subst ht
      rw [List.count_cons_self, ← Nat.add_assoc, Nat.add_right_comm]
      exact ih (h.turn count_lt limit_lt) alone'
    · rw [List.count_cons_of_ne ht, act_of_ne_turn ht]
      exact ih (h.aside (r.accountant.use_aside hact)) alone'

/-- The limit bounds the rounds. -/
theorem le_of_gone (gone : ∀ i < n, GoesOn a shard outcomes i) :
    n ≤ a.maxAttempts.toNat - (a.current shard).toNat := by
  cases n with
  | zero => exact Nat.zero_le _
  | succ n =>
    have := (gone n (Nat.lt_succ_self n)).within
    omega

/-- A loop that has had the turns for as many rounds as the limit leaves has ended. -/
theorem Phase.over (h : Phase a shard outcomes t r)
    (turns : 3 * (a.maxAttempts.toNat - (a.current shard).toNat) + 2 ≤ t) :
    ∃ n e, (∀ i < n, GoesOn a shard outcomes i) ∧ r.state = .finished e ∧
      Stops a shard outcomes n e ∧ Leaves a shard outcomes n r.accountant ∧
      r.deeds = a.rounds shard n ++ [.call (a.failureAfter shard n).attempt] := by
  cases h with
  | ready state answered gone counts deeds =>
    have := le_of_gone gone
    omega
  | connecting state answered gone counts deeds =>
    have := le_of_gone gone
    omega
  | backingOff state answered gone counts deeds =>
    have := le_of_gone gone
    omega
  | finished state gone stops leaves deeds => exact ⟨_, _, gone, state, stops, leaves, deeds⟩

theorem phase_start (a : Accountant) (shard : UInt32) (outcomes : Nat → Option α) :
    Phase a shard outcomes 0 { accountant := a } :=
  .ready (n := 0) rfl rfl (fun i hi => absurd hi (Nat.not_lt_zero i)) (a.counts_zero shard) rfl

end LoopRun

end VoiceGateway
