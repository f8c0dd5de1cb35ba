import VoiceGateway.Proofs.Reconnect.Perseverance

/-!
# Several loops for one shard

Loops that are run for one shard share its counter. Between reading the counter and
raising it a loop waits for its attempt, and meanwhile the others may have raised it: the
number that an attempt is given may be out of date. The number of a failure never is, and
a loop gives up by that one. So if all attempts fail, the failures within the limit keep
loops going and each one beyond it ends a loop, whoever makes them.

> `Tally.turn`: the failures beyond the limit are those with which loops have given up.
> `loops_share_shard`: how many attempts fail until all loops have given up, and with
> which numbers they do.
-/

namespace VoiceGateway

/-- One loop of several, and what it has done. -/
structure LoopMember (α : Type) where
  state : LoopState α := .ready
  answered : Nat := 0
  deeds : List LoopDeed := []

/-- Loops for one shard that share an accountant. -/
structure LoopCrew (α : Type) where
  accountant : Accountant
  members : List (LoopMember α)

/-- One thing that happens while several loops run: one of them takes its turn, or
somebody else uses the accountant. -/
inductive CrewAct where
  | turn (member : Nat)
  | fail (shard : UInt32)
  | succeed (shard : UInt32)
  | subscribe
  | unsubscribe
deriving DecidableEq, Repr

/-- The shard whose counter somebody else uses. -/
def CrewAct.shard? : CrewAct → Option UInt32
  | .fail shard | .succeed shard => some shard
  | .turn _ | .subscribe | .unsubscribe => none

namespace LoopMember

variable {α : Type}

/-- The failure with which a loop has given up its shard. -/
def abandoned? (m : LoopMember α) : Option ReconnectFailure :=
  match m.state with
  | .finished (.abandoned f) => some f
  | _ => none

/-- Whether a loop has ended with an answer. One that finds no duration to sleep for
breaks down without any. -/
def hasReturned (m : LoopMember α) : Bool :=
  match m.state with
  | .finished (.endlessDelay _) => false
  | .finished _ => true
  | _ => false

theorem state_of_abandoned? {m : LoopMember α} {f : ReconnectFailure}
    (h : m.abandoned? = some f) : m.state = .finished (.abandoned f) := by
  unfold abandoned? at h
  split at h
  · next hs =>
    rw [hs, Option.some.inj h]
  · exact absurd h (by simp)

end LoopMember

namespace LoopCrew

variable {α : Type} (shard : UInt32) (outcomes : Nat → Nat → Option α)

/-- Lets one of the loops take its turn. The attempts of each loop have outcomes of their
own. -/
def turn (c : LoopCrew α) (i : Nat) : LoopCrew α :=
  match c.members[i]? with
  | some m =>
    let r := LoopRun.turn shard (outcomes i) ⟨c.accountant, m.state, m.answered, m.deeds⟩
    { accountant := r.accountant, members := c.members.set i ⟨r.state, r.answered, r.deeds⟩ }
  | none => c

/-- Lets one thing happen. -/
def act (c : LoopCrew α) : CrewAct → LoopCrew α
  | .turn i => c.turn shard outcomes i
  | .fail other => { c with accountant := (c.accountant.recordFailure other).2 }
  | .succeed other => { c with accountant := c.accountant.recordSuccess other }
  | .subscribe => { c with accountant := c.accountant.subscribe.2 }
  | .unsubscribe => { c with accountant := c.accountant.unsubscribe }

/-- Lets things happen one after the other. -/
def run (c : LoopCrew α) (acts : List CrewAct) : LoopCrew α := acts.foldl (act shard outcomes) c

/-- The attempts of all loops that have an outcome. -/
def answered (c : LoopCrew α) : Nat := c.members.foldr (fun m n => m.answered + n) 0

/-- The failures with which loops have given up, loop by loop. -/
def abandonments (c : LoopCrew α) : List ReconnectFailure := c.members.filterMap (·.abandoned?)

/-- A crew of so many loops that have not begun. -/
def start (a : Accountant) (count : Nat) : LoopCrew α := ⟨a, List.replicate count {}⟩

variable {shard outcomes} {a : Accountant} {c : LoopCrew α} {n i count : Nat} {m : LoopMember α}

/-! ## One member -/

/-- The members around one that is replaced. -/
theorem exists_around (found : c.members[i]? = some m) (m' : LoopMember α) :
    ∃ front back, c.members = front ++ m :: back ∧ c.members.set i m' = front ++ m' :: back := by
  obtain ⟨hi, rfl⟩ := List.getElem?_eq_some_iff.mp found
  have h : ∃ front back, c.members = front ++ c.members[i] :: back ∧ front.length = i ∧
      c.members.set i m' = front ++ m' :: back := List.exists_of_set hi
  obtain ⟨front, back, hmembers, -, hset⟩ := h
  exact ⟨front, back, hmembers, hset⟩

theorem foldr_answered (ms : List (LoopMember α)) (n : Nat) :
    ms.foldr (fun m n => m.answered + n) n = ms.foldr (fun m n => m.answered + n) 0 + n := by
  induction ms with
  | nil => exact (Nat.zero_add n).symm
  | cons m ms ih =>
    rw [List.foldr_cons, List.foldr_cons, ih, Nat.add_assoc]

/-- The answers of the others are what they were. -/
theorem answered_set (found : c.members[i]? = some m) (m' : LoopMember α) (a' : Accountant) :
    (LoopCrew.mk a' (c.members.set i m')).answered + m.answered = c.answered + m'.answered := by
  obtain ⟨front, back, hmembers, hset⟩ := exists_around found m'
  unfold answered
  rw [hset, hmembers, List.foldr_append, List.foldr_append, List.foldr_cons, List.foldr_cons,
    foldr_answered front, foldr_answered front (m.answered + _)]
  omega

/-- A member that does not give up leaves the abandonments as they are. -/
theorem abandonments_set_of_none (found : c.members[i]? = some m) (before : m.abandoned? = none)
    {m' : LoopMember α} (after : m'.abandoned? = none) (a' : Accountant) :
    (LoopCrew.mk a' (c.members.set i m')).abandonments = c.abandonments := by
  obtain ⟨front, back, hmembers, hset⟩ := exists_around found m'
  unfold abandonments
  rw [hset, hmembers, List.filterMap_append, List.filterMap_append,
    List.filterMap_cons_none before, List.filterMap_cons_none after]

/-- A member that gives up adds the failure with which it does. -/
theorem abandonments_set_of_some (found : c.members[i]? = some m) (before : m.abandoned? = none)
    {m' : LoopMember α} {f : ReconnectFailure} (after : m'.abandoned? = some f)
    (a' : Accountant) :
    (LoopCrew.mk a' (c.members.set i m')).abandonments.Perm (f :: c.abandonments) := by
  obtain ⟨front, back, hmembers, hset⟩ := exists_around found m'
  unfold abandonments
  rw [hset, hmembers, List.filterMap_append, List.filterMap_append,
    List.filterMap_cons_none before, List.filterMap_cons_some after]
  exact List.perm_middle

/-! ## The tally -/

/-- The indices of the failures beyond the limit, among the first `n`. -/
def beyond (a : Accountant) (shard : UInt32) (n : Nat) : List Nat :=
  (List.range n).filter fun j => a.maxAttempts.toNat < (a.current shard).toNat + 1 + j

theorem beyond_eq (a : Accountant) (shard : UInt32) (n : Nat) :
    beyond a shard n = List.range' (a.maxAttempts.toNat - (a.current shard).toNat)
      (n - (a.maxAttempts.toNat - (a.current shard).toNat)) := by
  generalize hspare : a.maxAttempts.toNat - (a.current shard).toNat = spare
  induction n with
  | zero =>
    rw [Nat.zero_sub]
    rfl
  | succ n ih =>
    unfold beyond at ih ⊢
    rw [List.range_succ, List.filter_append, ih]
    by_cases hn : spare ≤ n
    · have hlimit : a.maxAttempts.toNat < (a.current shard).toNat + 1 + n := by omega
      have hlast : spare + (n - spare) = n := by omega
      rw [Nat.succ_sub hn, List.range'_1_concat, hlast,
        List.filter_cons_of_pos (by simpa using hlimit)]
      rfl
    · have hlimit : ¬ a.maxAttempts.toNat < (a.current shard).toNat + 1 + n := by omega
      have hnone : n + 1 - spare = n - spare := by omega
      rw [hnone, List.filter_cons_of_neg (by simpa using hlimit)]
      exact List.append_nil _

/-- A crew all of whose attempts fail, after `n` failures: these are recorded with
consecutive numbers, and the loops that have given up have done so with those of them
that are beyond the limit. -/
structure Tally (a : Accountant) (shard : UInt32) (n : Nat) (c : LoopCrew α) : Prop where
  counts : a.Counts shard n c.accountant
  answered : c.answered = n
  abandoned : c.abandonments.Perm ((beyond a shard n).map (a.failureAfter shard))
  /-- Nothing but giving up is an answer. -/
  ends : ∀ m ∈ c.members, m.hasReturned = true → m.abandoned?.isSome = true

theorem Tally.aside (h : Tally a shard n c) {a' : Accountant}
    (ha : Accountant.Aside shard c.accountant a') : Tally a shard n { c with accountant := a' } :=
  ⟨h.counts.aside ha, h.answered, h.abandoned, h.ends⟩

/-- While a loop has not given up, the next failure has a number of 32 bits. -/
theorem Tally.room (h : Tally a shard n c) (found : c.members[i]? = some m)
    (going : m.abandoned? = none)
    (room : max a.maxAttempts.toNat (a.current shard).toNat + c.members.length < UInt32.size) :
    (a.current shard).toNat + 1 + n < UInt32.size := by
  have hfewer : c.abandonments.length < c.members.length :=
    List.length_filterMap_lt_length_iff_exists.mpr ⟨m, List.mem_of_getElem? found, going⟩
  have hlength := h.abandoned.length_eq
  rw [beyond_eq, List.length_map, List.length_range'] at hlength
  -- Of the failures beyond the limit there are fewer than loops, and the others are within it.
  omega

/-- A member that is replaced ends as all do if what it is replaced by does. -/
theorem Tally.ends_set (h : Tally a shard n c) {m' : LoopMember α}
    (ends : m'.hasReturned = true → m'.abandoned?.isSome = true) (i : Nat) :
    ∀ x ∈ c.members.set i m', x.hasReturned = true → x.abandoned?.isSome = true := by
  intro x hx
  rcases List.mem_or_eq_of_mem_set hx with hx | rfl
  · exact h.ends x hx
  · exact ends

/-- A member that goes on without an answer in between. -/
theorem Tally.unanswered (h : Tally a shard n c) (found : c.members[i]? = some m)
    {m' : LoopMember α} (answered : m'.answered = m.answered)
    (before : m.abandoned? = none) (after : m'.abandoned? = none)
    (going : m'.hasReturned = false) :
    Tally a shard n ⟨c.accountant, c.members.set i m'⟩ where
  counts := h.counts
  answered := by
    have hsum := answered_set found m' c.accountant
    rw [h.answered, answered] at hsum
    exact Nat.add_right_cancel hsum
  abandoned := by
    rw [abandonments_set_of_none found before after]
    exact h.abandoned
  ends := h.ends_set (fun hr => absurd (going.symm.trans hr) (by simp)) i

/-- A member whose attempt fails: it gives up if the failure is beyond the limit. -/
theorem Tally.fails (h : Tally a shard n c) (found : c.members[i]? = some m)
    (going : m.abandoned? = none)
    (room : (a.current shard).toNat + 1 + n < UInt32.size) {m' : LoopMember α}
    (answered : m'.answered = m.answered + 1)
    (state : m'.state = .afterFailure (c.accountant.recordFailure shard).2
      (c.accountant.nextFailure shard)) :
    Tally a shard (n + 1) ⟨(c.accountant.recordFailure shard).2, c.members.set i m'⟩ := by
  have habandoned := LoopRun.isAbandoned_iff (a := a) room
  have hsum := answered_set found m' (c.accountant.recordFailure shard).2
  rw [h.answered, answered] at hsum
  have hbeyond : beyond a shard (n + 1) = beyond a shard n ++
      [n].filter fun j => a.maxAttempts.toNat < (a.current shard).toNat + 1 + j := by
    unfold beyond
    rw [List.range_succ, List.filter_append]
  rw [h.counts.nextFailure] at state
  unfold LoopState.afterFailure at state
  by_cases hlimit : a.maxAttempts.toNat < (a.current shard).toNat + 1 + n
  · rw [if_pos (habandoned.mpr hlimit)] at state
    have after : m'.abandoned? = some (a.failureAfter shard n) := by
      unfold LoopMember.abandoned?
      rw [state]
    refine ⟨h.counts.recordFailure, by omega, ?_, h.ends_set (fun _ => by rw [after]; rfl) i⟩
    rw [hbeyond, List.filter_cons_of_pos (by simpa using hlimit), List.map_append]
    refine (abandonments_set_of_some found going after _).trans ?_
    exact (h.abandoned.cons _).trans (List.perm_append_singleton _ _).symm
  · rw [if_neg fun h => hlimit (habandoned.mp h)] at state
    -- Within the limit it sleeps, or it breaks down because it cannot.
    have after : m'.abandoned? = none ∧ m'.hasReturned = false := by
      unfold LoopMember.abandoned? LoopMember.hasReturned
      rw [state]
      cases (c.accountant.recordFailure shard).2.delayFor (a.failureAfter shard n) with
      | some delay => exact ⟨rfl, rfl⟩
      | none => exact ⟨rfl, rfl⟩
    refine ⟨h.counts.recordFailure, by omega, ?_, ?_⟩
    · rw [hbeyond, List.filter_cons_of_neg (by simpa using hlimit),
        abandonments_set_of_none found going after.1]
      exact h.abandoned.trans (List.Perm.of_eq (by rw [List.filter_nil, List.append_nil]))
    · exact h.ends_set (fun hr => absurd (after.2.symm.trans hr) (by simp)) i

/-- A loop of the crew takes its turn. -/
theorem Tally.turn (h : Tally a shard n c) (failing : ∀ j, outcomes i j = none)
    (room : max a.maxAttempts.toNat (a.current shard).toNat + c.members.length < UInt32.size) :
    ∃ n', Tally a shard n' (c.turn shard outcomes i) := by
  unfold LoopCrew.turn
  split
  · next m found =>
    rcases hm : m with ⟨state, answered, deeds⟩
    subst hm
    cases state with
    | ready =>
      rw [LoopRun.turn_ready rfl]
      exact ⟨n, h.unanswered found rfl rfl rfl rfl⟩
    | connecting attempt =>
      -- The failure has the number that follows now, whatever the attempt was told.
      rw [LoopRun.turn_failed rfl (failing _)]
      exact ⟨n + 1, h.fails found rfl (h.room found rfl room) rfl rfl⟩
    | backingOff f delay =>
      rw [LoopRun.turn_elapsed rfl]
      exact ⟨n, h.unanswered found rfl rfl rfl rfl⟩
    | finished e =>
      have hsame : c.members.set i ⟨.finished e, answered, deeds⟩ = c.members := by
        obtain ⟨hi, hm⟩ := List.getElem?_eq_some_iff.mp found
        rw [← hm, List.set_getElem_self]
      rw [LoopRun.turn_finished rfl]
      refine ⟨n, ?_⟩
      show Tally a shard n ⟨c.accountant, c.members.set i _⟩
      rw [hsame]
      exact h
  · exact ⟨n, h⟩

theorem length_turn (shard : UInt32) (outcomes : Nat → Nat → Option α) (c : LoopCrew α) (i : Nat) :
    (c.turn shard outcomes i).members.length = c.members.length := by
  unfold LoopCrew.turn
  split
  · exact List.length_set
  · rfl

theorem tally_start (a : Accountant) (shard : UInt32) (count : Nat) :
    Tally a shard 0 (start (α := α) a count) := by
  refine ⟨a.counts_zero shard, ?_, ?_, ?_⟩
  · show (List.replicate count ({} : LoopMember α)).foldr _ 0 = 0
    induction count with
    | zero => rfl
    | succ count ih => rw [List.replicate_succ, List.foldr_cons, ih]
  · unfold abandonments start
    rw [List.filterMap_replicate_of_none rfl]
    exact List.Perm.refl _
  · intro m hm hr
    rw [(List.mem_replicate.mp hm).2] at hr
    exact absurd hr (by simp [LoopMember.hasReturned])

/-! ## Whole runs -/

/-- The tally is kept, whatever loops and others do, and no loop is lost. -/
theorem Tally.run (h : Tally a shard n c) (failing : ∀ i j, outcomes i j = none)
    (room : max a.maxAttempts.toNat (a.current shard).toNat + c.members.length < UInt32.size)
    {acts : List CrewAct} (alone : ∀ act ∈ acts, act.shard? ≠ some shard) :
    (∃ n', Tally a shard n' (c.run shard outcomes acts)) ∧
      (c.run shard outcomes acts).members.length = c.members.length := by
  induction acts generalizing c n with
  | nil => exact ⟨⟨n, h⟩, rfl⟩
  | cons act acts ih =>
    obtain ⟨hact, alone'⟩ := List.forall_mem_cons.mp alone
    show (∃ n', Tally a shard n' ((c.act shard outcomes act).run shard outcomes acts)) ∧ _
    cases act with
    | turn i =>
      obtain ⟨n', h'⟩ := h.turn (i := i) (failing i) room
      have hlength := length_turn shard outcomes c i
      obtain ⟨htally, hrest⟩ := ih h' (by rw [hlength]; exact room) alone'
      exact ⟨htally, hrest.trans hlength⟩
    | fail other =>
      have hne : other ≠ shard := fun he => hact (congrArg some he)
      exact ih (h.aside (Accountant.recordFailure_aside _ hne)) room alone'
    | succeed other =>
      have hne : other ≠ shard := fun he => hact (congrArg some he)
      exact ih (h.aside (Accountant.recordSuccess_aside _ hne)) room alone'
    | subscribe => exact ih (h.aside (Accountant.subscribe_aside _)) room alone'
    | unsubscribe => exact ih (h.aside (Accountant.unsubscribe_aside _)) room alone'

/-- Once all loops have answered, there has been a failure beyond the limit for each. -/
theorem Tally.over (h : Tally a shard n c) (nonempty : c.members ≠ [])
    (returned : ∀ m ∈ c.members, m.hasReturned = true) :
    n = a.maxAttempts.toNat - (a.current shard).toNat + c.members.length := by
  have hall : c.abandonments.length = c.members.length :=
    List.filterMap_length_eq_length.mpr fun m hm => h.ends m hm (returned m hm)
  have hpos := List.length_pos_iff.mpr nonempty
  have hlength := h.abandoned.length_eq
  rw [beyond_eq, List.length_map, List.length_range'] at hlength
  -- There is a failure beyond the limit, so all that are within it have been made.
  omega

/-- A turn uses the accountant as anybody may. -/
theorem turn_accountant (shard : UInt32) (outcomes : Nat → Nat → Option α) (c : LoopCrew α)
    (i : Nat) :
    (c.turn shard outcomes i).accountant = c.accountant ∨
      (c.turn shard outcomes i).accountant = c.accountant.recordSuccess shard ∨
      (c.turn shard outcomes i).accountant = (c.accountant.recordFailure shard).2 := by
  unfold LoopCrew.turn
  split
  · next m _ =>
    exact LoopRun.turn_accountant shard (outcomes i) ⟨c.accountant, m.state, m.answered, m.deeds⟩
  · exact Or.inl rfl

/-- What is recorded of the shard is delivered, as long as somebody is subscribed. -/
theorem heard_run (h : LoopRun.Heard shard a c.accountant) {acts : List CrewAct}
    (stay : .unsubscribe ∉ acts) :
    LoopRun.Heard shard a (c.run shard outcomes acts).accountant := by
  induction acts generalizing c with
  | nil => exact h
  | cons act acts ih =>
    obtain ⟨hact, stay'⟩ := List.ne_and_not_mem_of_not_mem_cons stay
    show LoopRun.Heard shard a ((c.act shard outcomes act).run shard outcomes acts).accountant
    cases act with
    | turn i =>
      refine ih (c := c.turn shard outcomes i) ?_ stay'
      rcases turn_accountant shard outcomes c i with he | he | he
      · exact he ▸ h
      · exact he ▸ h.recordSuccess shard
      · exact he ▸ h.recordFailure shard
    | fail other => exact ih (h.recordFailure other) stay'
    | succeed other => exact ih (h.recordSuccess other) stay'
    | subscribe => exact ih h.subscribe stay'
    | unsubscribe => exact absurd rfl hact

/-- Several loops for a shard that has had `k` failures since it was last connected, none
of whose attempts succeeds, while others use the accountant but not for this shard. Once
all of them have answered, all have given up. The attempts that have failed are as many
as the limit has left, and one for each loop; each is recorded once, with the next
number, those who are subscribed are told, and the counter has been raised by as many.
The failures with which the loops have given up have the last of these numbers, each loop
its own. -/
theorem loops_share_shard (shard : UInt32) (a : Accountant) (count : Nat)
    (outcomes : Nat → Nat → Option α) (acts : List CrewAct) (positive : 0 < count)
    (room : max a.maxAttempts.toNat (a.current shard).toNat + count < UInt32.size)
    (failing : ∀ i j, outcomes i j = none) (alone : ∀ act ∈ acts, act.shard? ≠ some shard)
    (returned : ∀ m ∈ (run shard outcomes (start a count) acts).members, m.hasReturned = true) :
    let k := (a.current shard).toNat
    let limit := a.maxAttempts.toNat
    let failure (n : Nat) : ReconnectFailure := ⟨shard, .ofNat n, a.maxAttempts⟩
    let z := run shard outcomes (start a count) acts
    z.members.length = count ∧
    (∀ m ∈ z.members, ∃ f, m.state = .finished (.abandoned f)) ∧
    z.answered = (limit - k) + count ∧
    (z.accountant.current shard).toNat = k + z.answered ∧
    z.abandonments.Perm ((List.range' (max limit k + 1) count).map failure) ∧
    (z.abandonments.map (·.attempt.toNat)).Perm (List.range' (max limit k + 1) count) ∧
    ∃ recorded, recorded = (List.range' (k + 1) z.answered).map failure ∧
      z.accountant.failuresOf shard = a.failuresOf shard ++ recorded ∧
      (a.failures.closed = false → a.failures.subscribers ≠ 0 → .unsubscribe ∉ acts →
        z.accountant.publishedOf shard = a.publishedOf shard ++ recorded) := by
  intro k limit failure z
  have hlength : (start (α := α) a count).members.length = count := List.length_replicate
  obtain ⟨⟨n, hz⟩, hsize⟩ := (tally_start (α := α) a shard count).run failing
    (by rw [hlength]; exact room) alone
  have hcount : z.members.length = count := hsize.trans hlength
  have hn : n = (limit - k) + count := by
    have hover := hz.over (List.length_pos_iff.mp (by rw [hcount]; exact positive)) returned
    rw [hcount] at hover
    exact hover
  -- The failures beyond the limit are those with the last numbers.
  have hlast : (beyond a shard n).map (a.failureAfter shard) =
      (List.range' (max limit k + 1) count).map failure := by
    have hrest : n - (limit - k) = count := by omega
    have hfirst : max limit k + 1 = k + 1 + (limit - k) := by omega
    rw [beyond_eq, hrest, hfirst, ← List.map_add_range', List.map_map]
    rfl
  have habandoned := hz.abandoned
  rw [hlast] at habandoned
  have hrecorded : (List.range n).map (a.failureAfter shard) =
      (List.range' (k + 1) z.answered).map failure := by
    rw [hz.answered, List.range'_eq_map_range, List.map_map]
    rfl
  have hfailures := hz.counts.failures
  rw [hrecorded] at hfailures
  refine ⟨hcount, ?_, hz.answered.trans hn, ?_, habandoned, ?_, _, rfl, hfailures, ?_⟩
  · intro m hm
    obtain ⟨f, hf⟩ := Option.isSome_iff_exists.mp (hz.ends m hm (returned m hm))
    exact ⟨f, LoopMember.state_of_abandoned? hf⟩
  · rw [hz.counts.count, hz.answered, UInt32.toNat_ofNat_of_lt' (by omega)]
  · refine (habandoned.map _).trans (List.Perm.of_eq ?_)
    rw [List.map_map]
    calc
      _ = (List.range' (max limit k + 1) count).map id := by
        refine List.map_congr_left fun j hj => ?_
        have hlt := (List.mem_range'_1.mp hj).2
        exact UInt32.toNat_ofNat_of_lt' (by omega)
      _ = _ := List.map_id _
  · intro opened subscribed stay
    have heard : LoopRun.Heard shard a z.accountant :=
      heard_run (c := start a count) (LoopRun.heard_start opened subscribed) stay
    exact heard.published hfailures

/-- Two loops begin at once, so that both of their attempts have number 1. The first
failure is within the limit and its loop tries again; the other loop gives up with the
second failure, and the first one with the third. -/
theorem loops_share_shard_of_two :
    let a : Accountant := { maxAttempts := 1, failures := { window := 64, subscribers := 1 } }
    let acts : List CrewAct :=
      [.turn 0, .turn 1, .fail 5, .turn 0, .turn 1, .turn 0, .turn 0, .turn 0]
    let z := run 3 (fun _ _ => (none : Option String)) (start a 2) acts
    z.answered = 3 ∧ (z.abandonments.map (·.attempt.toNat)).Perm [2, 3] ∧
      (z.accountant.current 3).toNat = 3 ∧
      z.accountant.publishedOf 3 = [⟨3, 1, 1⟩, ⟨3, 2, 1⟩, ⟨3, 3, 1⟩] := by
  intro a acts z
  have returned : ∀ m ∈ z.members, m.hasReturned = true := by decide +kernel
  obtain ⟨-, -, answered, count, -, numbers, recorded, hrecorded, -, published⟩ :=
    loops_share_shard 3 a 2 (fun _ _ => (none : Option String)) acts (by decide) (by decide)
      (fun _ _ => rfl) (by decide) returned
  have hall : z.answered = 3 := answered
  refine ⟨hall, numbers, ?_, ?_⟩
  · rw [count, hall]
    rfl
  · rw [published rfl (by decide) (by decide), hrecorded, hall]
    rfl

end LoopCrew

end VoiceGateway
