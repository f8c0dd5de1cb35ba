import VoiceGateway.Reconnect.Accountant

/-!
# What an accountant has been used for

The counters of an accountant are made when they are first used, raised by failures
and put back by successes; none of this shows from outside. What does show is the
history: who recorded what, in which order. Here the count of a shard, and the failures
that are recorded, are read off the history alone, and the accountant is shown to agree.

> `failuresSince_append`: a count of a stretch without success goes on from the count
> before it.
> `recorded_of_shard`: until a success the failures of a shard are numbered one by one.
> `Agrees.run`: after every history the counters are the counts.
-/

namespace VoiceGateway

/-- One use of an accountant. -/
inductive AccountantUse where
  | fail (shard : UInt32)
  | succeed (shard : UInt32)
  /-- Somebody asks for the count of a shard. -/
  | ask (shard : UInt32)
  | subscribe
  /-- A subscriber takes one delivery. -/
  | read (reader : Nat)
  /-- A subscriber goes. -/
  | leave (reader : Nat)
deriving DecidableEq, Repr

/-- The shard whose counter is used. -/
def AccountantUse.shard? : AccountantUse → Option UInt32
  | .fail shard | .succeed shard | .ask shard => some shard
  | .subscribe | .read _ | .leave _ => none

/-- A subscriber for failures, and what it was given. -/
structure FailureReader where
  cursor : Cursor
  received : List ReconnectFailure := []
  /-- How many failures it was told to have missed. -/
  missed : Nat := 0
  subscribed : Bool := true
deriving DecidableEq, Repr

/-- Takes one delivery. -/
def FailureReader.read (failures : Stream ReconnectFailure) (r : FailureReader) : FailureReader :=
  match failures.receive r.cursor with
  | (.event f, c) => { r with cursor := c, received := r.received ++ [f] }
  | (.lagged n, c) => { r with cursor := c, missed := r.missed + n }
  | (.nothing, _) | (.closed, _) => r

/-- An accountant in use: its subscribers, and what it has answered. -/
structure Bookkeeping where
  accountant : Accountant
  readers : List FailureReader := []
  /-- The failures that were handed to those who recorded them. -/
  returned : List ReconnectFailure := []
  /-- The counts that were told to those who asked. -/
  told : List UInt32 := []

namespace Bookkeeping

/-- Lets a subscriber take one delivery. Subscribers are known by their number in order. -/
def read (b : Bookkeeping) (i : Nat) : Bookkeeping :=
  match b.readers[i]? with
  | some r =>
    if r.subscribed then { b with readers := b.readers.set i (r.read b.accountant.failures) }
    else b
  | none => b

/-- Lets a subscriber go. -/
def leave (b : Bookkeeping) (i : Nat) : Bookkeeping :=
  match b.readers[i]? with
  | some r =>
    if r.subscribed then { b with
      accountant := b.accountant.unsubscribe
      readers := b.readers.set i { r with subscribed := false } }
    else b
  | none => b

/-- Uses the accountant once. -/
def use (b : Bookkeeping) : AccountantUse → Bookkeeping
  | .fail shard =>
    let (f, a) := b.accountant.recordFailure shard
    { b with accountant := a, returned := b.returned ++ [f] }
  | .succeed shard => { b with accountant := b.accountant.recordSuccess shard }
  | .ask shard => { b with told := b.told ++ [b.accountant.current shard] }
  | .subscribe =>
    let (c, a) := b.accountant.subscribe
    { b with accountant := a, readers := b.readers ++ [{ cursor := c }] }
  | .read i => b.read i
  | .leave i => b.leave i

/-- Uses the accountant over and over. -/
def run (b : Bookkeeping) (uses : List AccountantUse) : Bookkeeping := uses.foldl use b

theorem run_append (b : Bookkeeping) (us vs : List AccountantUse) :
    b.run (us ++ vs) = (b.run us).run vs := List.foldl_append

end Bookkeeping

/-! ## Counting -/

/-- The failures of a shard since its last success, or from the beginning. -/
def failuresSince (shard : UInt32) (uses : List AccountantUse) : Nat :=
  (uses.reverse.takeWhile (· ≠ .succeed shard)).count (.fail shard)

/-- The failures that are recorded in the course of `uses`, which come after `earlier`. -/
def recorded (limit : UInt32) (earlier : List AccountantUse) :
    List AccountantUse → List ReconnectFailure
  | [] => []
  | .fail shard :: uses =>
    ⟨shard, .ofNat (failuresSince shard earlier + 1), limit⟩ ::
      recorded limit (earlier ++ [.fail shard]) uses
  | u :: uses => recorded limit (earlier ++ [u]) uses

variable {limit shard other : UInt32} {earlier uses later : List AccountantUse}
  {u : AccountantUse}

theorem failuresSince_concat (shard : UInt32) (uses : List AccountantUse) (u : AccountantUse) :
    failuresSince shard (uses ++ [u]) =
      if u = .succeed shard then 0
      else if u = .fail shard then failuresSince shard uses + 1
      else failuresSince shard uses := by
  unfold failuresSince
  -- The latest use is the first one that is looked at.
  rw [List.reverse_append]
  show ((u :: uses.reverse).takeWhile _).count _ = _
  by_cases hs : u = .succeed shard
  · rw [if_pos hs, List.takeWhile_cons_of_neg (by simpa using hs)]
    rfl
  · rw [if_neg hs, List.takeWhile_cons_of_pos (by simpa using hs)]
    by_cases hf : u = .fail shard
    · rw [if_pos hf, hf, List.count_cons_self]
    · rw [if_neg hf, List.count_cons_of_ne hf]

/-- A use of another counter does not count. -/
theorem failuresSince_of_ne (h : u.shard? ≠ some shard) :
    failuresSince shard (earlier ++ [u]) = failuresSince shard earlier := by
  rw [failuresSince_concat, if_neg, if_neg]
  · intro hf
    exact h (by rw [hf]; rfl)
  · intro hs
    exact h (by rw [hs]; rfl)

/-- A count goes on from the count before, as long as nothing succeeds. -/
theorem failuresSince_append (stay : .succeed shard ∉ later) :
    failuresSince shard (earlier ++ later) =
      failuresSince shard earlier + later.count (.fail shard) := by
  induction later generalizing earlier with
  | nil => rw [List.append_nil, List.count_nil, Nat.add_zero]
  | cons u later ih =>
    obtain ⟨hu, stay'⟩ := List.ne_and_not_mem_of_not_mem_cons stay
    have hrest : failuresSince shard ((earlier ++ [u]) ++ later) = _ := ih stay'
    rw [List.append_assoc, failuresSince_concat, if_neg (Ne.symm hu)] at hrest
    refine hrest.trans ?_
    by_cases hf : u = .fail shard
    · rw [if_pos hf, hf, List.count_cons_self]
      omega
    · rw [if_neg hf, List.count_cons_of_ne hf]

/-- After a success the count starts again. -/
theorem failuresSince_succeed (shard : UInt32) (earlier : List AccountantUse) :
    failuresSince shard (earlier ++ [.succeed shard]) = 0 := by
  rw [failuresSince_concat, if_pos rfl]

theorem failuresSince_le (shard : UInt32) (uses : List AccountantUse) :
    failuresSince shard uses ≤ uses.length := by
  calc
    _ ≤ (uses.reverse.takeWhile (· ≠ .succeed shard)).length := List.count_le_length
    _ ≤ uses.reverse.length := (List.takeWhile_prefix _).length_le
    _ = uses.length := List.length_reverse

theorem recorded_append (limit : UInt32) (earlier us vs : List AccountantUse) :
    recorded limit earlier (us ++ vs) =
      recorded limit earlier us ++ recorded limit (earlier ++ us) vs := by
  induction us generalizing earlier with
  | nil => rw [List.append_nil]; rfl
  | cons u us ih =>
    have h := ih (earlier ++ [u])
    rw [List.append_assoc] at h
    cases u with
    | fail shard => exact congrArg (List.cons _) h
    | _ => exact h

/-- Until a success the failures of a shard have consecutive numbers. -/
theorem recorded_of_shard (stay : .succeed shard ∉ later) :
    (recorded limit earlier later).filter (·.shard = shard) =
      (List.range (later.count (.fail shard))).map fun i =>
        ⟨shard, .ofNat (failuresSince shard earlier + 1 + i), limit⟩ := by
  induction later generalizing earlier with
  | nil => rfl
  | cons u later ih =>
    obtain ⟨hu, stay'⟩ := List.ne_and_not_mem_of_not_mem_cons stay
    have hrest : (recorded limit (earlier ++ [u]) later).filter _ = _ := ih stay'
    rw [failuresSince_concat, if_neg (Ne.symm hu)] at hrest
    by_cases hf : u = .fail shard
    · -- The failures behind this one are numbered from the next number on.
      subst hf
      rw [if_pos rfl] at hrest
      rw [List.count_cons_self, List.range_succ_eq_map, List.map_cons, List.map_map]
      unfold recorded
      rw [List.filter_cons_of_pos (by simp), hrest, Nat.add_zero]
      congr 1
      refine List.map_congr_left fun i _ => ?_
      show ReconnectFailure.mk _ (.ofNat (_ + 1 + 1 + i)) _ = .mk _ (.ofNat (_ + 1 + (i + 1))) _
      rw [Nat.add_assoc _ 1 i, Nat.add_comm 1 i]
    · rw [if_neg hf] at hrest
      rw [List.count_cons_of_ne hf, ← hrest]
      cases u with
      | fail other =>
        have hne : other ≠ shard := fun he => hf (congrArg AccountantUse.fail he)
        show List.filter _ (ReconnectFailure.mk other _ _ :: recorded limit _ later) = _
        rw [List.filter_cons_of_neg (by simpa using hne)]
      | _ => rfl

/-! ## The accountant agrees -/

namespace Bookkeeping

variable {b : Bookkeeping}

/-- An accountant whose counters are the counts of its history, as far as 32 bits can
tell. -/
structure Agrees (limit : UInt32) (uses : List AccountantUse) (b : Bookkeeping) : Prop where
  limit : b.accountant.maxAttempts = limit
  count : ∀ shard, b.accountant.current shard = .ofNat (failuresSince shard uses)

/-- The next failure of a shard has the number that follows its count. -/
theorem Agrees.nextFailure (h : Agrees limit uses b) (shard : UInt32) :
    b.accountant.nextFailure shard =
      ⟨shard, .ofNat (failuresSince shard uses + 1), limit⟩ := by
  unfold Accountant.nextFailure
  rw [h.limit, h.count, UInt32.ofNat_add]
  rfl

/-- Subscribers come and go without any effect on counters. -/
theorem agrees_of_counters {b' : Bookkeeping} (h : Agrees limit uses b) (hu : u.shard? = none)
    (ha : b'.accountant.maxAttempts = b.accountant.maxAttempts)
    (hc : b'.accountant.counters = b.accountant.counters) :
    Agrees limit (uses ++ [u]) b' where
  limit := ha.trans h.limit
  count := by
    intro shard
    rw [failuresSince_of_ne (by rw [hu]; simp), ← h.count]
    unfold Accountant.current
    rw [hc]

theorem accountant_read (b : Bookkeeping) (i : Nat) :
    (b.use (.read i)).accountant = b.accountant := by
  show (b.read i).accountant = _
  unfold read
  split
  · split <;> rfl
  · rfl

theorem accountant_leave (b : Bookkeeping) (i : Nat) :
    (b.use (.leave i)).accountant = b.accountant ∨
      (b.use (.leave i)).accountant = b.accountant.unsubscribe := by
  show (b.leave i).accountant = _ ∨ (b.leave i).accountant = _
  unfold leave
  split
  · split
    · exact Or.inr rfl
    · exact Or.inl rfl
  · exact Or.inl rfl

theorem Agrees.use (h : Agrees limit uses b) (u : AccountantUse) :
    Agrees limit (uses ++ [u]) (b.use u) := by
  cases u with
  | fail shard =>
    refine ⟨h.limit, fun other => ?_⟩
    show (b.accountant.recordFailure shard).2.current other = _
    rw [Accountant.current_recordFailure]
    by_cases ho : shard = other
    · -- The count and the counter may both run over, and they do so together.
      subst ho
      rw [if_pos rfl, failuresSince_concat, if_neg (by simp), if_pos rfl, h.count,
        UInt32.ofNat_add]
      rfl
    · have hu : (AccountantUse.fail shard).shard? ≠ some other := fun he => ho (Option.some.inj he)
      rw [if_neg ho, failuresSince_of_ne hu, h.count]
  | succeed shard =>
    refine ⟨h.limit, fun other => ?_⟩
    show (b.accountant.recordSuccess shard).current other = _
    rw [Accountant.current_recordSuccess]
    by_cases ho : shard = other
    · subst ho
      rw [if_pos rfl, failuresSince_succeed]
      rfl
    · have hu : (AccountantUse.succeed shard).shard? ≠ some other :=
        fun he => ho (Option.some.inj he)
      rw [if_neg ho, failuresSince_of_ne hu, h.count]
  | ask shard =>
    refine ⟨h.limit, fun other => ?_⟩
    rw [failuresSince_concat, if_neg (by simp), if_neg (by simp)]
    exact h.count other
  | subscribe => exact agrees_of_counters h rfl rfl rfl
  | read i => exact agrees_of_counters h rfl (by rw [accountant_read]) (by rw [accountant_read])
  | leave i =>
    rcases accountant_leave b i with ha | ha
    · exact agrees_of_counters h rfl (by rw [ha]) (by rw [ha])
    · exact agrees_of_counters h rfl (by rw [ha]; rfl) (by rw [ha]; rfl)

/-- After every history the counters are the counts. -/
theorem Agrees.run (h : Agrees limit earlier b) (uses : List AccountantUse) :
    Agrees limit (earlier ++ uses) (b.run uses) := by
  induction uses generalizing b earlier with
  | nil => rw [List.append_nil]; exact h
  | cons u uses ih =>
    have hrest := ih (h.use u)
    rw [List.append_assoc] at hrest
    exact hrest

/-- An accountant that has not been used agrees with the empty history. -/
theorem agrees_nil (limit : UInt32) (backoff : Backoff) :
    Agrees limit [] { accountant := { maxAttempts := limit, backoff } } :=
  ⟨rfl, fun _ => rfl⟩

end Bookkeeping

end VoiceGateway
