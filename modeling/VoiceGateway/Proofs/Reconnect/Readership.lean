import VoiceGateway.Proofs.Reconnect.History
import VoiceGateway.Proofs.Stream

/-!
# What subscribers for failures receive

A failure is published the moment it is counted, to everybody who is subscribed by then,
whichever shard it is of. A subscriber that keeps within the window of the stream loses
nothing: what it has received and what is still before it make up the failures since it
subscribed (`Hears`), and every use of the accountant keeps it that way.

> `Hears.run`: a subscriber that keeps up hears of every failure.
> `Hears.catchUp`: what is still before it, it gets by reading on.
> `reconnect_accounting`: counts, answers, reports and subscribers over whole histories.
-/

namespace VoiceGateway

theorem FailureReader.read_subscribed (failures : Stream ReconnectFailure) (r : FailureReader) :
    (r.read failures).subscribed = r.subscribed := by
  unfold FailureReader.read
  split <;> rfl

/-- A subscriber within the window that has nothing before it stays as it is. -/
theorem FailureReader.read_of_heard_nil {failures : Stream ReconnectFailure} {r : FailureReader}
    (within : failures.windowStart ≤ r.cursor.passed) (opened : failures.closed = false)
    (nothing : failures.heard r.cursor.passed = []) : r.read failures = r := by
  unfold FailureReader.read
  rw [Stream.receive_of_heard_nil within nothing, opened]
  rfl

/-- A subscriber within the window takes the first failure that is before it. -/
theorem FailureReader.read_of_heard {failures : Stream ReconnectFailure} {r : FailureReader}
    (within : failures.windowStart ≤ r.cursor.passed) {f : ReconnectFailure}
    {rest : List ReconnectFailure} (next : failures.heard r.cursor.passed = f :: rest) :
    r.read failures = { r with cursor := ⟨r.cursor.passed + 1⟩, received := r.received ++ [f] } ∧
      r.cursor.passed < failures.history.length ∧
      failures.heard (r.cursor.passed + 1) = rest := by
  obtain ⟨hreceive, hrest⟩ := Stream.receive_of_heard within next
  refine ⟨?_, ?_, hrest⟩
  · unfold FailureReader.read
    rw [hreceive]
  · have hne : failures.history.drop r.cursor.passed ≠ [] := by
      intro hnil
      have hheard : failures.heard r.cursor.passed = [] := hnil
      rw [next] at hheard
      cases hheard
    exact Nat.lt_of_not_le fun hle => hne (List.drop_eq_nil_iff.mpr hle)

namespace Bookkeeping

variable {b : Bookkeeping} {limit : UInt32} {earlier later uses : List AccountantUse}
  {u : AccountantUse} {heard : List ReconnectFailure} {r : FailureReader} {i : Nat}

/-- How many failures a subscriber has before it. -/
def behind (b : Bookkeeping) (i : Nat) : Nat :=
  match b.readers[i]? with
  | some r => (b.accountant.failures.heard r.cursor.passed).length
  | none => 0

/-- The stream of failures is open, and those who are subscribed are counted. -/
structure Sound (b : Bookkeeping) : Prop where
  opened : b.accountant.failures.closed = false
  window : b.accountant.failures.window = 64
  audience : b.accountant.failures.subscribers = b.readers.countP (·.subscribed)

/-- A subscriber that has lost nothing of what there was to hear. -/
structure Hears (heard : List ReconnectFailure) (b : Bookkeeping) (i : Nat)
    (r : FailureReader) : Prop where
  found : b.readers[i]? = some r
  subscribed : r.subscribed = true
  missed : r.missed = 0
  passed : r.cursor.passed ≤ b.accountant.failures.history.length
  complete : r.received ++ b.accountant.failures.heard r.cursor.passed = heard

/-! ## Who is subscribed -/

/-- A subscriber that is replaced counts no longer; what it is replaced by may. -/
theorem countP_set {readers : List FailureReader} (found : readers[i]? = some r)
    (subscribed : r.subscribed = true) (r' : FailureReader) :
    (readers.set i r').countP (·.subscribed) + 1 =
      readers.countP (·.subscribed) + if r'.subscribed then 1 else 0 := by
  obtain ⟨hi, hr⟩ := List.getElem?_eq_some_iff.mp found
  have hpos : 0 < readers.countP (·.subscribed) :=
    List.countP_pos_iff.mpr ⟨r, hr ▸ List.getElem_mem hi, subscribed⟩
  rw [List.countP_set hi, hr, if_pos subscribed]
  omega

theorem Sound.use (h : Sound b) (u : AccountantUse) : Sound (b.use u) := by
  cases u with
  | fail shard =>
    have hclosed := Stream.publish_closed b.accountant.failures (b.accountant.nextFailure shard)
    have hgrows := Stream.publish_grows b.accountant.failures (b.accountant.nextFailure shard)
    have hpub := Stream.publish_subscribers b.accountant.failures (b.accountant.nextFailure shard)
    exact ⟨hclosed.trans h.opened, hgrows.window.trans h.window, hpub.trans h.audience⟩
  | succeed shard => exact ⟨h.opened, h.window, h.audience⟩
  | ask shard => exact ⟨h.opened, h.window, h.audience⟩
  | subscribe =>
    refine ⟨h.opened, h.window, ?_⟩
    show b.accountant.failures.subscribers + 1 = (b.readers ++ [_]).countP _
    rw [List.countP_append, h.audience]
    rfl
  | read i =>
    show Sound (b.read i)
    unfold Bookkeeping.read
    split
    · next r found =>
      split
      · next hr =>
        have hcount := countP_set found hr (r.read b.accountant.failures)
        rw [FailureReader.read_subscribed, if_pos hr] at hcount
        exact ⟨h.opened, h.window, h.audience.trans (Nat.add_right_cancel hcount).symm⟩
      · exact h
    · exact h
  | leave i =>
    show Sound (b.leave i)
    unfold Bookkeeping.leave
    split
    · next r found =>
      split
      · next hr =>
        have hcount := countP_set found hr { r with subscribed := false }
        refine ⟨h.opened, h.window, ?_⟩
        -- Whoever leaves was counted, so the difference is not cut off at zero.
        show b.accountant.failures.subscribers - 1 = _
        rw [h.audience]
        exact Nat.sub_eq_of_eq_add hcount.symm
      · exact h
    · exact h

theorem sound_new (limit : UInt32) (backoff : Backoff) :
    Sound { accountant := { maxAttempts := limit, backoff } } := ⟨rfl, rfl, rfl⟩

theorem Sound.run (h : Sound b) (uses : List AccountantUse) : Sound (b.run uses) := by
  induction uses generalizing b with
  | nil => exact h
  | cons u uses ih => exact ih (h.use u)

/-! ## What one subscriber hears -/

theorem Hears.behind (h : Hears heard b i r) : r.received.length + b.behind i = heard.length := by
  unfold Bookkeeping.behind
  rw [h.found, ← h.complete, List.length_append]

/-- A subscriber at most 64 failures behind is within the window. -/
theorem Hears.near (h : Hears heard b i r) (sound : Sound b) (near : b.behind i ≤ 64) :
    b.accountant.failures.windowStart ≤ r.cursor.passed := by
  unfold Bookkeeping.behind at near
  rw [h.found] at near
  unfold Stream.heard at near
  dsimp only at near
  rw [List.length_drop] at near
  unfold Stream.windowStart
  rw [sound.window]
  have := h.passed
  omega

/-- What changes neither a subscriber nor what has been published makes no difference
to it. -/
theorem Hears.aside (h : Hears heard b i r) {b' : Bookkeeping}
    (hr : b'.readers[i]? = b.readers[i]?)
    (hf : b'.accountant.failures.history = b.accountant.failures.history) :
    Hears heard b' i r where
  found := hr.trans h.found
  subscribed := h.subscribed
  missed := h.missed
  passed := by rw [hf]; exact h.passed
  complete := by
    unfold Stream.heard
    rw [hf]
    exact h.complete

/-- A subscriber that keeps up is given what is next. -/
theorem Hears.read (h : Hears heard b i r) (sound : Sound b) (near : b.behind i ≤ 64) :
    ∃ r', Hears heard (b.use (.read i)) i r' ∧
      r'.received = heard.take (r.received.length + 1) := by
  have hwindow := h.near sound near
  have hi : i < b.readers.length := (List.getElem?_eq_some_iff.mp h.found).1
  have hread : b.use (.read i) =
      { b with readers := b.readers.set i (r.read b.accountant.failures) } := by
    show b.read i = _
    unfold Bookkeeping.read
    rw [h.found]
    dsimp only
    rw [if_pos h.subscribed]
  have hfound : (b.readers.set i (r.read b.accountant.failures))[i]? =
      some (r.read b.accountant.failures) := List.getElem?_set_self hi
  rw [hread]
  refine ⟨r.read b.accountant.failures, ?_⟩
  rcases hnext : b.accountant.failures.heard r.cursor.passed with _ | ⟨f, rest⟩
  · -- It has heard everything.
    have hsame := FailureReader.read_of_heard_nil hwindow sound.opened hnext
    have hall := h.complete
    rw [hnext, List.append_nil] at hall
    rw [hsame] at hfound ⊢
    refine ⟨⟨hfound, h.subscribed, h.missed, h.passed, h.complete⟩, ?_⟩
    rw [List.take_of_length_le (by rw [hall]; omega), hall]
  · obtain ⟨hgot, hlt, hrest⟩ := FailureReader.read_of_heard hwindow hnext
    have hall := h.complete
    rw [hnext] at hall
    rw [hgot] at hfound ⊢
    refine ⟨⟨hfound, h.subscribed, h.missed, hlt, ?_⟩, ?_⟩
    · show (r.received ++ [f]) ++ b.accountant.failures.heard (r.cursor.passed + 1) = heard
      rw [hrest, List.append_assoc]
      exact hall
    · show r.received ++ [f] = _
      rw [← hall, List.take_length_add_append]
      rfl

theorem readers_read_of_ne {j : Nat} (h : j ≠ i) :
    (b.use (.read j)).readers[i]? = b.readers[i]? := by
  show (b.read j).readers[i]? = _
  unfold Bookkeeping.read
  split
  · split
    · exact List.getElem?_set_ne h
    · rfl
  · rfl

theorem readers_leave_of_ne {j : Nat} (h : j ≠ i) :
    (b.use (.leave j)).readers[i]? = b.readers[i]? := by
  show (b.leave j).readers[i]? = _
  unfold Bookkeeping.leave
  split
  · split
    · exact List.getElem?_set_ne h
    · rfl
  · rfl

/-- A subscriber that keeps up and stays loses nothing by any use of the accountant. -/
theorem Hears.use (h : Hears heard b i r) (sound : Sound b) (agrees : Agrees limit earlier b)
    (near : b.behind i ≤ 64) (stay : u ≠ .leave i) :
    ∃ r', Hears (heard ++ recorded limit earlier [u]) (b.use u) i r' := by
  have hi : i < b.readers.length := (List.getElem?_eq_some_iff.mp h.found).1
  have quiet {u : AccountantUse} {r' : FailureReader} (hu : recorded limit earlier [u] = [])
      (h' : Hears heard (b.use u) i r') :
      Hears (heard ++ recorded limit earlier [u]) (b.use u) i r' := by
    rw [hu, List.append_nil]
    exact h'
  cases u with
  | fail shard =>
    -- The subscriber itself is reason enough to deliver the failure.
    have hwaited : b.accountant.failures.subscribers ≠ 0 := by
      rw [sound.audience]
      have hpos : 0 < b.readers.countP (·.subscribed) :=
        List.countP_pos_iff.mpr ⟨r, List.mem_of_getElem? h.found, h.subscribed⟩
      omega
    have hpub : (b.use (.fail shard)).accountant.failures = _ :=
      Stream.publish_delivered sound.opened hwaited (b.accountant.nextFailure shard)
    refine ⟨r, h.found, h.subscribed, h.missed, ?_, ?_⟩
    · rw [hpub]
      exact Nat.le_trans h.passed (by rw [List.length_append]; omega)
    · unfold Stream.heard
      rw [hpub, ← h.complete, agrees.nextFailure]
      show r.received ++ (b.accountant.failures.history ++ [_]).drop _ = _
      rw [List.drop_append_of_le_length h.passed, List.append_assoc]
      rfl
  | succeed shard => exact ⟨r, quiet rfl (h.aside rfl rfl)⟩
  | ask shard => exact ⟨r, quiet rfl (h.aside rfl rfl)⟩
  | subscribe =>
    have hr : (b.use .subscribe).readers[i]? = b.readers[i]? := List.getElem?_append_left hi
    exact ⟨r, quiet rfl (h.aside hr rfl)⟩
  | read j =>
    by_cases hj : j = i
    · subst hj
      obtain ⟨r', h', -⟩ := h.read sound near
      exact ⟨r', quiet rfl h'⟩
    · have hr := readers_read_of_ne (b := b) hj
      exact ⟨r, quiet rfl (h.aside hr (by rw [accountant_read]))⟩
  | leave j =>
    have hj : j ≠ i := fun he => stay (congrArg AccountantUse.leave he)
    have hf : (b.use (.leave j)).accountant.failures.history = b.accountant.failures.history := by
      rcases accountant_leave b j with ha | ha
      · rw [ha]
      · rw [ha]
        rfl
    exact ⟨r, quiet rfl (h.aside (readers_leave_of_ne hj) hf)⟩

/-- A subscriber that keeps up and stays hears of every failure. -/
theorem Hears.run (h : Hears heard b i r) (sound : Sound b) (agrees : Agrees limit earlier b)
    {later : List AccountantUse} (stay : .leave i ∉ later)
    (near : ∀ mid, mid <+: later → (b.run mid).behind i ≤ 64) :
    ∃ r', Hears (heard ++ recorded limit earlier later) (b.run later) i r' := by
  induction later generalizing b heard r earlier with
  | nil => exact ⟨r, by rw [show recorded limit earlier [] = [] from rfl, List.append_nil]; exact h⟩
  | cons u later ih =>
    obtain ⟨hu, stay'⟩ := List.ne_and_not_mem_of_not_mem_cons stay
    obtain ⟨r', h'⟩ := h.use sound agrees (near [] List.nil_prefix) (Ne.symm hu)
    have near' (mid : List AccountantUse) (hm : mid <+: later) :
        ((b.use u).run mid).behind i ≤ 64 := near (u :: mid) (List.cons_prefix_cons.mpr ⟨rfl, hm⟩)
    have hrest := ih h' (sound.use u) (agrees.use u) stay' near'
    rw [List.append_assoc, ← recorded_append] at hrest
    exact hrest

/-- What is still before a subscriber, it gets by reading on. -/
theorem Hears.catchUp (h : Hears heard b i r) (sound : Sound b) (near : b.behind i ≤ 64) (n : Nat) :
    ∃ r', Hears heard (b.run (List.replicate n (.read i))) i r' ∧
      r'.received = heard.take (r.received.length + n) := by
  induction n generalizing b r with
  | zero =>
    refine ⟨r, h, ?_⟩
    have hall := h.complete
    rw [Nat.add_zero, ← hall, List.take_left']
    rfl
  | succ n ih =>
    obtain ⟨r', h', hgot⟩ := h.read sound near
    have hlength := congrArg List.length hgot
    rw [List.length_take] at hlength
    have hbefore := h.behind
    have hafter := h'.behind
    obtain ⟨r'', h'', hgot''⟩ := ih h' (sound.use _) (by omega)
    refine ⟨r'', h'', ?_⟩
    rw [hgot'', hlength]
    by_cases hle : r.received.length + 1 ≤ heard.length
    · rw [Nat.min_eq_left hle, Nat.add_assoc, Nat.add_comm 1 n]
    · -- It has heard everything, and reading on adds nothing.
      rw [List.take_of_length_le (by omega), List.take_of_length_le (by omega)]

/-! ## Whole histories -/

/-- Those who record failures are handed the ones that the history calls for. -/
theorem returned_run (h : Agrees limit earlier b) (uses : List AccountantUse) :
    (b.run uses).returned = b.returned ++ recorded limit earlier uses := by
  induction uses generalizing b earlier with
  | nil => exact (List.append_nil _).symm
  | cons u uses ih =>
    have hrest : ((b.use u).run uses).returned = _ := ih (h.use u)
    refine hrest.trans ?_
    cases u with
    | fail shard =>
      show (b.returned ++ [b.accountant.nextFailure shard]) ++ _ = _
      rw [List.append_assoc, h.nextFailure]
      rfl
    | read i =>
      have hread : (b.read i).returned = b.returned := by
        unfold Bookkeeping.read
        split
        · split <;> rfl
        · rfl
      exact congrArg (· ++ _) hread
    | leave i =>
      have hleave : (b.leave i).returned = b.returned := by
        unfold Bookkeeping.leave
        split
        · split <;> rfl
        · rfl
      exact congrArg (· ++ _) hleave
    | _ => rfl

/-- What is recorded for one shard leaves the count of another as it is. -/
theorem Agrees.current_use_of_ne (h : Agrees limit earlier b) {other : UInt32}
    (hne : u.shard? ≠ some other) :
    (b.use u).accountant.current other = b.accountant.current other := by
  rw [(h.use u).count, failuresSince_of_ne hne, h.count]

/-- Who records a failure is handed the one with the next number, which is reported. -/
theorem Agrees.fail (h : Agrees limit earlier b) {shard : UInt32}
    (few : failuresSince shard earlier + 1 < UInt32.size) :
    ∃ f : ReconnectFailure, f.shard = shard ∧ f.maxAttempts = limit ∧
      f.attempt.toNat = failuresSince shard earlier + 1 ∧
      (f.isAbandoned = true ↔ limit.toNat < failuresSince shard earlier + 1) ∧
      (b.use (.fail shard)).returned = b.returned ++ [f] ∧
      (b.use (.fail shard)).accountant.trace =
        b.accountant.trace ++ [.reconnectFailed shard f.attempt limit f.isAbandoned] := by
  have hnumber := UInt32.toNat_ofNat_of_lt' few
  have hnext := h.nextFailure shard
  refine ⟨b.accountant.nextFailure shard, rfl, h.limit, ?_, ?_, rfl, ?_⟩
  · rw [hnext]
    exact hnumber
  · rw [hnext]
    show decide (limit < UInt32.ofNat _) = true ↔ _
    rw [decide_eq_true_iff, UInt32.lt_iff_toNat_lt, hnumber]
  · rw [← h.limit]
    rfl

/-- A success is reported if there is anything to count. -/
theorem Agrees.succeed (h : Agrees limit earlier b) {shard : UInt32}
    (few : failuresSince shard earlier < UInt32.size) :
    (b.use (.succeed shard)).accountant.trace = b.accountant.trace ++
      if 0 < failuresSince shard earlier then
        [.reconnected shard (.ofNat (failuresSince shard earlier))]
      else [] := by
  have hcount := h.count shard
  have hpos : 0 < b.accountant.current shard ↔ 0 < failuresSince shard earlier := by
    rw [hcount, UInt32.lt_iff_toNat_lt, UInt32.toNat_ofNat_of_lt' few]
    rfl
  show (if 0 < b.accountant.current shard then _ else _) = _
  by_cases hp : 0 < failuresSince shard earlier
  · rw [if_pos hp, if_pos (hpos.mpr hp), hcount]
  · rw [if_neg hp, if_neg (fun h => hp (hpos.mp h)), List.append_nil]

/-- Whoever subscribes, stays and keeps up receives all failures from then on. -/
theorem Agrees.subscribe (h : Agrees limit earlier b) (sound : Sound b)
    (stay : .leave b.readers.length ∉ later)
    (near : ∀ mid, mid <+: later → (b.run (.subscribe :: mid)).behind b.readers.length ≤ 64) :
    let i := b.readers.length
    let now := b.run (.subscribe :: later)
    ∃ heard r, now.returned = b.returned ++ heard ∧
      now.readers[i]? = some r ∧ r.missed = 0 ∧ r.received <+: heard ∧
      ∃ r', (now.run (List.replicate (now.behind i) (.read i))).readers[i]? = some r' ∧
        r'.missed = 0 ∧ r'.received = heard := by
  intro i now
  have hbegin : Hears [] (b.use .subscribe) i { cursor := b.accountant.failures.subscribe.1 } := by
    refine ⟨List.getElem?_concat_length, rfl, rfl, Nat.le_refl _, ?_⟩
    exact List.drop_length
  obtain ⟨r, hr⟩ := hbegin.run (sound.use _) (h.use _) stay near
  rw [List.nil_append] at hr
  obtain ⟨r', hr', hall⟩ := hr.catchUp ((sound.use _).run later) (near later List.prefix_rfl)
    (now.behind i)
  have hlength := hr.behind
  refine ⟨_, r, ?_, hr.found, hr.missed, ⟨_, hr.complete⟩, r', hr'.found, hr'.missed, ?_⟩
  · exact returned_run (h.use _) later
  · rw [hall]
    exact List.take_of_length_le (Nat.le_of_eq hlength.symm)

/-- From the beginning or a success on, the failures of a shard have the numbers from one
on, and after one that gives the shard up so do all. -/
theorem Agrees.stretch (h : Agrees limit earlier b) {shard : UInt32}
    (fresh : failuresSince shard earlier = 0) (stay : .succeed shard ∉ later)
    (few : later.count (.fail shard) < UInt32.size) :
    ∃ fs, (b.run later).returned = b.returned ++ fs ∧
      let ofShard := fs.filter (·.shard = shard)
      ofShard.map (·.attempt.toNat) = List.range' 1 (later.count (.fail shard)) ∧
      ofShard.Pairwise fun f g => f.isAbandoned = true → g.isAbandoned = true := by
  refine ⟨_, returned_run h later, ?_⟩
  dsimp only
  rw [recorded_of_shard stay, fresh]
  constructor
  · rw [List.map_map, List.range'_eq_map_range]
    refine List.map_congr_left fun i hi => ?_
    have hlt := List.mem_range.mp hi
    show (UInt32.ofNat (0 + 1 + i)).toNat = 1 + i
    rw [Nat.zero_add, UInt32.toNat_ofNat_of_lt' (by omega)]
  · rw [List.pairwise_map]
    refine List.pairwise_lt_range.imp_of_mem ?_
    intro i j hi hj hlt hf
    rw [List.mem_range] at hi hj
    have hf' : limit < UInt32.ofNat (0 + 1 + i) := of_decide_eq_true hf
    refine decide_eq_true (?_ : limit < UInt32.ofNat (0 + 1 + j))
    -- Without an overflow a later failure has a greater number.
    rw [UInt32.lt_iff_toNat_lt, UInt32.toNat_ofNat_of_lt' (by omega)] at hf' ⊢
    omega

/-- The accounts of an accountant that has been used from the beginning: by anybody, for
any shards, in any order, but with fewer than `2 ^ 32` failures of a shard between two of
its successes.

The count of a shard is the number of its failures since its last success. Who records a
failure is handed the one with the next number; it is reported with that number, and the
shard is given up if the number is beyond the limit. Who asks for the count is told it. A
success is reported with the count if there is one, and what is done for one shard leaves
the others alone. Whoever subscribes, stays and is never more than 64 failures behind
receives the failures that are recorded from then on, of all shards, each of them once and
in order. From the beginning or a success on, the failures of a shard are numbered
1, 2, 3 and so on until it succeeds, and after one that gives it up so do all. -/
theorem reconnect_accounting (limit : UInt32) (backoff : Backoff) (uses : List AccountantUse)
    (few : ∀ shard earlier, earlier <+: uses → failuresSince shard earlier < UInt32.size) :
    let start : Bookkeeping := { accountant := { maxAttempts := limit, backoff } }
    (∀ earlier, earlier <+: uses → ∀ shard,
      ((start.run earlier).accountant.current shard).toNat = failuresSince shard earlier) ∧
    (∀ earlier shard, earlier ++ [.fail shard] <+: uses →
      let before := start.run earlier
      let after := start.run (earlier ++ [.fail shard])
      ∃ f : ReconnectFailure, f.shard = shard ∧ f.maxAttempts = limit ∧
        f.attempt.toNat = failuresSince shard earlier + 1 ∧
        (f.isAbandoned = true ↔ limit.toNat < failuresSince shard earlier + 1) ∧
        after.returned = before.returned ++ [f] ∧
        after.accountant.trace =
          before.accountant.trace ++ [.reconnectFailed shard f.attempt limit f.isAbandoned]) ∧
    (∀ earlier shard, earlier ++ [.ask shard] <+: uses →
      ∃ count : UInt32, count.toNat = failuresSince shard earlier ∧
        (start.run (earlier ++ [.ask shard])).told = (start.run earlier).told ++ [count]) ∧
    (∀ earlier shard, earlier ++ [.succeed shard] <+: uses →
      ∃ count : UInt32, count.toNat = failuresSince shard earlier ∧
        (start.run (earlier ++ [.succeed shard])).accountant.trace =
          (start.run earlier).accountant.trace ++
            if 0 < failuresSince shard earlier then [.reconnected shard count] else []) ∧
    (∀ earlier u other, earlier ++ [u] <+: uses → u.shard? ≠ some other →
      (start.run (earlier ++ [u])).accountant.current other =
        (start.run earlier).accountant.current other) ∧
    (∀ earlier later, earlier ++ .subscribe :: later <+: uses →
      let i := (start.run earlier).readers.length
      let now := start.run (earlier ++ .subscribe :: later)
      .leave i ∉ later →
      (∀ mid, mid <+: later → (start.run (earlier ++ .subscribe :: mid)).behind i ≤ 64) →
      ∃ heard r, now.returned = (start.run earlier).returned ++ heard ∧
        now.readers[i]? = some r ∧ r.missed = 0 ∧ r.received <+: heard ∧
        ∃ r', (now.run (List.replicate (now.behind i) (.read i))).readers[i]? = some r' ∧
          r'.missed = 0 ∧ r'.received = heard) ∧
    (∀ earlier later shard, earlier ++ later <+: uses →
      (earlier = [] ∨ ∃ sooner, earlier = sooner ++ [.succeed shard]) → .succeed shard ∉ later →
      ∃ fs, (start.run (earlier ++ later)).returned = (start.run earlier).returned ++ fs ∧
        let ofShard := fs.filter (·.shard = shard)
        ofShard.map (·.attempt.toNat) = List.range' 1 (later.count (.fail shard)) ∧
        ofShard.Pairwise fun f g => f.isAbandoned = true → g.isAbandoned = true) := by
  intro start
  have agrees (earlier : List AccountantUse) : Agrees limit earlier (start.run earlier) :=
    (agrees_nil limit backoff).run earlier
  have sound (earlier : List AccountantUse) : Sound (start.run earlier) :=
    (sound_new limit backoff).run earlier
  have count (earlier : List AccountantUse) (h : earlier <+: uses) (shard : UInt32) :
      ((start.run earlier).accountant.current shard).toNat = failuresSince shard earlier := by
    rw [(agrees earlier).count, UInt32.toNat_ofNat_of_lt' (few shard earlier h)]
  have sooner {earlier later : List AccountantUse} (h : earlier ++ later <+: uses) :
      earlier <+: uses := (List.prefix_append earlier later).trans h
  refine ⟨count, ?_, ?_, ?_, ?_, ?_, ?_⟩
  · intro earlier shard h before after
    have hfew := few shard _ h
    rw [failuresSince_concat, if_neg (by simp), if_pos rfl] at hfew
    have hafter : after = before.use (.fail shard) := run_append start earlier [_]
    rw [hafter]
    exact (agrees earlier).fail hfew
  · intro earlier shard h
    refine ⟨_, count earlier (sooner h) shard, ?_⟩
    rw [run_append]
    rfl
  · intro earlier shard h
    have hfew := few shard earlier (sooner h)
    refine ⟨_, UInt32.toNat_ofNat_of_lt' hfew, ?_⟩
    rw [run_append]
    exact (agrees earlier).succeed hfew
  · intro earlier u other _ hne
    rw [run_append]
    exact (agrees earlier).current_use_of_ne hne
  · intro earlier later _ i now stay near
    have hnow : now = (start.run earlier).run (.subscribe :: later) := run_append start earlier _
    rw [hnow]
    refine (agrees earlier).subscribe (sound earlier) stay fun mid hm => ?_
    rw [← run_append]
    exact near mid hm
  · intro earlier later shard h begins stay
    have fresh : failuresSince shard earlier = 0 := by
      rcases begins with rfl | ⟨sooner, rfl⟩
      · rfl
      · exact failuresSince_succeed shard sooner
    have hfew := few shard _ h
    rw [failuresSince_append stay, fresh, Nat.zero_add] at hfew
    rw [run_append]
    exact (agrees earlier).stretch fresh stay hfew

/-- Two shards and one subscriber: it hears of the second failure of shard 5, which gives
that shard up, of the failure of shard 2 and, after a success, of a first one again. -/
theorem reconnect_accounting_of_two_shards :
    let later : List AccountantUse := [.fail 5, .fail 2, .read 0, .succeed 5, .fail 5]
    let uses : List AccountantUse := [.fail 5] ++ .subscribe :: later
    let start : Bookkeeping := { accountant := { maxAttempts := 1, backoff := .standard } }
    let now := start.run uses
    (∀ shard earlier, earlier <+: uses → failuresSince shard earlier < UInt32.size) ∧
      (now.accountant.current 5).toNat = 1 ∧
      now.returned = [⟨5, 1, 1⟩, ⟨5, 2, 1⟩, ⟨2, 1, 1⟩, ⟨5, 1, 1⟩] ∧
      ∃ r', (now.run (List.replicate (now.behind 0) (.read 0))).readers[0]? = some r' ∧
        r'.received = [⟨5, 2, 1⟩, ⟨2, 1, 1⟩, ⟨5, 1, 1⟩] := by
  intro later uses start now
  have few (shard : UInt32) (earlier : List AccountantUse) (h : earlier <+: uses) :
      failuresSince shard earlier < UInt32.size := by
    have hle : failuresSince shard earlier ≤ 7 :=
      Nat.le_trans (failuresSince_le shard earlier) h.length_le
    exact Nat.lt_of_le_of_lt hle (by decide)
  have near (mid : List AccountantUse) (h : mid <+: later) :
      (start.run ([.fail 5] ++ .subscribe :: mid)).behind 0 ≤ 64 := by
    have hall : ∀ n < 6, (start.run ([.fail 5] ++ .subscribe :: later.take n)).behind 0 ≤ 64 := by
      decide
    rw [List.prefix_iff_eq_take.mp h]
    exact hall _ (Nat.lt_succ_of_le h.length_le)
  obtain ⟨counts, -, -, -, -, hears, -⟩ := reconnect_accounting 1 .standard uses few
  obtain ⟨heard, r, hreturned, -, -, -, r', hfound, -, hall⟩ :=
    hears [.fail 5] later List.prefix_rfl (by decide) near
  have hnow : now.returned = [⟨5, 1, 1⟩, ⟨5, 2, 1⟩, ⟨2, 1, 1⟩, ⟨5, 1, 1⟩] := by decide
  have hheard : [⟨5, 1, 1⟩] ++ [⟨5, 2, 1⟩, ⟨2, 1, 1⟩, ⟨5, 1, 1⟩] = [⟨5, 1, 1⟩] ++ heard :=
    hnow.symm.trans hreturned
  refine ⟨few, counts uses List.prefix_rfl 5, hnow, r', hfound, ?_⟩
  rw [hall]
  exact (List.append_cancel_left hheard).symm

end Bookkeeping

end VoiceGateway
