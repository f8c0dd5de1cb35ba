import VoiceGateway.Proofs.Reconnect.Delays
import VoiceGateway.Proofs.Stream
import VoiceGateway.Reconnect.Demonstration

/-!
# The loop of a demonstration

The script of a demonstration leaves nothing open: each attempt fails until the script or
the limit has run out, and as there is a delay after every failure (`isSome_delayAfter`),
nothing else ends the loop. So where the loop is depends on the number of its steps only,
three for each round, and so do the failures it has published by then.

> `Stage.advance`: one step takes the loop to its next stage.
> `Stage.report`: what a loop reports that has had its steps.
> `stage_steps`: the stages of a loop do not depend on when the printer runs.
-/

namespace VoiceGateway.Demonstration

variable {r : ReconnectSettings} {o : ReconnectOptions} {n t : Nat} {a : Accountant}
  {s : Stream ReconnectFailure} {x : Rehearsal}

/-- The number of attempts that fail within the limit. -/
def rounds (r : ReconnectSettings) (o : ReconnectOptions) : Nat :=
  min o.failures.toNat (limit r o).toNat

/-- The number of attempts that fail, the one beyond the limit included. -/
def failed (r : ReconnectSettings) (o : ReconnectOptions) : Nat :=
  min o.failures.toNat ((limit r o).toNat + 1)

/-- The failure of an attempt, attempts counted from zero. -/
def failure (r : ReconnectSettings) (o : ReconnectOptions) (i : Nat) : ReconnectFailure :=
  ⟨o.shard, .ofNat (i + 1), limit r o⟩

/-- What is left of the script after `n` failures. -/
def remaining (r : ReconnectSettings) (o : ReconnectOptions) (n : Nat) : List Attempt :=
  List.replicate (failed r o - n) { reply := .fail } ++ [{ reply := .succeed }]

/-- A stream of `n` failures. -/
structure Carries (r : ReconnectSettings) (o : ReconnectOptions) (n : Nat)
    (s : Stream ReconnectFailure) : Prop where
  history : s.history = (List.range n).map (failure r o)
  window : s.window = 64

/-- The stream of a demonstration after `n` failures. -/
structure Published (r : ReconnectSettings) (o : ReconnectOptions) (n : Nat)
    (s : Stream ReconnectFailure) : Prop extends Carries r o n s where
  opened : s.closed = false
  subscribed : s.subscribers ≠ 0

/-- The accountant of a demonstration after `n` failures. -/
structure Tally (r : ReconnectSettings) (o : ReconnectOptions) (n : Nat) (a : Accountant) :
    Prop where
  limit : a.maxAttempts = limit r o
  backoff : a.backoff = .ofSettings r
  count : a.current o.shard = .ofNat n
  published : Published r o n a.failures

/-- Nobody tells the loop to shut down. -/
structure Unhindered (o : ReconnectOptions) (x : Rehearsal) : Prop where
  shard : x.shard = o.shard
  given : x.shutdownGiven = false
  due : x.shutdownAt = none

/-- Where the loop is after `t` steps. -/
inductive Stage (r : ReconnectSettings) (o : ReconnectOptions) : Nat → Rehearsal → Prop
  | ready {x : Rehearsal} {n : Nat} (state : x.state = .ready) (unhindered : Unhindered o x)
      (within : n ≤ rounds r o) (script : x.script = remaining r o n)
      (tally : Tally r o n x.accountant) : Stage r o (3 * n) x
  | connecting {x : Rehearsal} {n : Nat} (state : x.state = .connecting (.ofNat (n + 1)))
      (unhindered : Unhindered o x) (within : n ≤ rounds r o) (script : x.script = remaining r o n)
      (tally : Tally r o n x.accountant) : Stage r o (3 * n + 1) x
  | backingOff {x : Rehearsal} {n : Nat} {delay : Duration}
      (state : x.state = .backingOff (failure r o n) delay) (unhindered : Unhindered o x)
      (within : n + 1 ≤ rounds r o) (script : x.script = remaining r o (n + 1))
      (tally : Tally r o (n + 1) x.accountant) : Stage r o (3 * n + 2) x
  | connected {x : Rehearsal} {t : Nat} (late : 3 * rounds r o + 2 ≤ t)
      (state : x.state = .finished (.connected (.ofNat (rounds r o + 1))))
      (within : o.failures.toNat ≤ (limit r o).toNat)
      (published : Published r o (failed r o) x.accountant.failures) : Stage r o t x
  | abandoned {x : Rehearsal} {t : Nat} (late : 3 * rounds r o + 2 ≤ t)
      (state : x.state = .finished (.abandoned (failure r o (rounds r o))))
      (beyond : (limit r o).toNat < o.failures.toNat)
      (published : Published r o (failed r o) x.accountant.failures) : Stage r o t x

/-! ## The accountant -/

theorem Published.publish (h : Published r o n s) :
    Published r o (n + 1) (s.publish (failure r o n)).2 := by
  rw [Stream.publish_delivered h.opened h.subscribed]
  refine ⟨⟨?_, h.window⟩, h.opened, h.subscribed⟩
  show s.history ++ [_] = _
  rw [h.history, List.range_succ, List.map_append]
  rfl

theorem Tally.attempt (h : Tally r o n a) : a.current o.shard + 1 = .ofNat (n + 1) := by
  rw [h.count, UInt32.ofNat_add]
  rfl

/-- The next failure has the next number. -/
theorem Tally.nextFailure (h : Tally r o n a) : a.nextFailure o.shard = failure r o n := by
  unfold Accountant.nextFailure failure
  rw [h.attempt, h.limit]

theorem Tally.recordFailure (h : Tally r o n a) :
    Tally r o (n + 1) (a.recordFailure o.shard).2 where
  limit := h.limit
  backoff := h.backoff
  count := by rw [Accountant.current_recordFailure, if_pos rfl, h.attempt]
  published := by
    show Published r o (n + 1) (a.failures.publish (a.nextFailure o.shard)).2
    rw [h.nextFailure]
    exact h.published.publish

/-- There is a delay after the failure. -/
theorem Tally.delayFor (h : Tally r o n a) (f : ReconnectFailure) :
    ∃ delay, a.delayFor f = some delay := by
  unfold Accountant.delayFor
  rw [h.backoff]
  exact Option.isSome_iff_exists.mp (Backoff.isSome_delayAfter r f)

/-- The shard is given up after the failure beyond the limit. -/
theorem isAbandoned_failure (room : n + 1 < UInt32.size) :
    (failure r o n).isAbandoned = true ↔ (limit r o).toNat < n + 1 := by
  show decide (limit r o < UInt32.ofNat (n + 1)) = true ↔ _
  rw [decide_eq_true_iff, UInt32.lt_iff_toNat_lt, UInt32.toNat_ofNat_of_lt' room]

/-! ## Step by step -/

theorem advance_ready (h : Unhindered o x) (state : x.state = .ready) :
    x.advance = { x with
      state := .connecting (x.accountant.current o.shard + 1)
      calls := x.calls ++ [(x.accountant.current o.shard + 1, x.now)] } := by
  obtain ⟨shard, script, accountant, state', now, given, due, calls⟩ := x
  obtain ⟨rfl, rfl, rfl⟩ := h
  cases state
  rfl

/-- An attempt that the script lets fail. -/
theorem advance_failed (h : Unhindered o x) {attempt : UInt32} {rest : List Attempt}
    (state : x.state = .connecting attempt) (script : x.script = { reply := .fail } :: rest) :
    x.advance = { x with
      script := rest
      accountant := (x.accountant.recordFailure o.shard).2
      state := .afterFailure (x.accountant.recordFailure o.shard).2
        (x.accountant.nextFailure o.shard) } := by
  obtain ⟨shard, script', accountant, state', now, given, due, calls⟩ := x
  obtain ⟨rfl, rfl, rfl⟩ := h
  cases state
  cases script
  rfl

/-- An attempt that the script lets succeed. -/
theorem advance_succeeded (h : Unhindered o x) {attempt : UInt32} {rest : List Attempt}
    (state : x.state = .connecting attempt) (script : x.script = { reply := .succeed } :: rest) :
    x.advance = { x with
      script := rest
      accountant := x.accountant.recordSuccess o.shard
      state := .finished (.connected attempt) } := by
  obtain ⟨shard, script', accountant, state', now, given, due, calls⟩ := x
  obtain ⟨rfl, rfl, rfl⟩ := h
  cases state
  cases script
  rfl

theorem advance_backingOff (h : Unhindered o x) {f : ReconnectFailure} {delay : Duration}
    (state : x.state = .backingOff f delay) :
    x.advance = { x with state := .ready, now := x.now + delay.ceilMillis } := by
  obtain ⟨shard, script, accountant, state', now, given, due, calls⟩ := x
  obtain ⟨rfl, rfl, rfl⟩ := h
  cases state
  rfl

theorem advance_finished {e : LoopEnding UInt32} (state : x.state = .finished e) :
    x.advance = x := by
  unfold Rehearsal.advance
  rw [state]

theorem rounds_le_failed (r : ReconnectSettings) (o : ReconnectOptions) :
    rounds r o ≤ failed r o ∧ failed r o ≤ rounds r o + 1 := by
  unfold rounds failed
  omega

theorem remaining_of_lt (h : n < failed r o) :
    remaining r o n = { reply := .fail } :: remaining r o (n + 1) := by
  unfold remaining
  rw [show failed r o - n = (failed r o - (n + 1)) + 1 by omega, List.replicate_succ]
  rfl

theorem remaining_of_le (h : failed r o ≤ n) : remaining r o n = [{ reply := .succeed }] := by
  unfold remaining
  rw [Nat.sub_eq_zero_of_le h]
  rfl

/-- A step of a loop whose attempt fails. -/
theorem stage_failed (room : rounds r o + 1 < UInt32.size) (unhindered : Unhindered o x)
    (state : x.state = .connecting (.ofNat (n + 1))) (within : n ≤ rounds r o)
    (more : n < failed r o) (script : x.script = remaining r o n)
    (tally : Tally r o n x.accountant) :
    Stage r o (3 * n + 2) x.advance := by
  have tally' := tally.recordFailure
  rw [remaining_of_lt more] at script
  rw [advance_failed unhindered state script, tally.nextFailure]
  have habandoned := isAbandoned_failure (r := r) (o := o) (n := n) (by omega)
  obtain ⟨delay, hdelay⟩ := tally'.delayFor (failure r o n)
  unfold LoopState.afterFailure
  by_cases beyond : (limit r o).toNat < n + 1
  · rw [if_pos (habandoned.mpr beyond)]
    have hn : n = rounds r o ∧ n + 1 = failed r o ∧ (limit r o).toNat < o.failures.toNat := by
      unfold rounds failed at *
      omega
    obtain ⟨rfl, hfailed, hbeyond⟩ := hn
    refine .abandoned (Nat.le_refl _) rfl hbeyond ?_
    rw [← hfailed]
    exact tally'.published
  · rw [if_neg (mt habandoned.mp beyond), hdelay]
    have hwithin : n + 1 ≤ rounds r o := by
      unfold rounds failed at *
      omega
    exact .backingOff rfl ⟨unhindered.shard, unhindered.given, unhindered.due⟩ hwithin rfl tally'

/-- One step takes the loop to its next stage. -/
theorem Stage.advance (room : rounds r o + 1 < UInt32.size) (h : Stage r o t x) :
    Stage r o (t + 1) x.advance := by
  cases h with
  | ready state unhindered within script tally =>
    rw [advance_ready unhindered state, tally.attempt]
    exact .connecting rfl ⟨unhindered.shard, unhindered.given, unhindered.due⟩ within script tally
  | @connecting _ n state unhindered within script tally =>
    by_cases more : n < failed r o
    · exact stage_failed room unhindered state within more script tally
    · -- The script lets no more attempts fail.
      have hn : n = rounds r o ∧ n = failed r o ∧ o.failures.toNat ≤ (limit r o).toNat := by
        unfold rounds failed at *
        omega
      obtain ⟨hrounds, hfailed, hwithin⟩ := hn
      rw [remaining_of_le (Nat.le_of_not_lt more)] at script
      rw [advance_succeeded unhindered state script]
      refine .connected (by omega) ?_ hwithin ?_
      · rw [← hrounds]
      · rw [← hfailed]
        exact tally.published
  | @backingOff _ n delay state unhindered within script tally =>
    rw [advance_backingOff unhindered state]
    exact .ready (n := n + 1) rfl ⟨unhindered.shard, unhindered.given, unhindered.due⟩ within script
      tally
  | connected late state within published =>
    rw [advance_finished state]
    exact .connected (by omega) state within published
  | abandoned late state beyond published =>
    rw [advance_finished state]
    exact .abandoned (by omega) state beyond published

/-- The failures that a loop has published which has made `t` steps. -/
def publishedBy (r : ReconnectSettings) (o : ReconnectOptions) (t : Nat) : Nat :=
  min (failed r o) ((t + 1) / 3)

theorem publishedBy_mono (r : ReconnectSettings) (o : ReconnectOptions) (t : Nat) :
    publishedBy r o t ≤ publishedBy r o (t + 1) := by
  unfold publishedBy
  omega

/-- In the end all failures are published. -/
theorem publishedBy_of_late (late : 3 * rounds r o + 2 ≤ t) : publishedBy r o t = failed r o := by
  have hfailed := (rounds_le_failed r o).2
  unfold publishedBy
  omega

theorem Stage.published (h : Stage r o t x) :
    Published r o (publishedBy r o t) x.accountant.failures := by
  have hfailed := (rounds_le_failed r o).1
  cases h with
  | @ready _ n state unhindered within script tally =>
    have : publishedBy r o (3 * n) = n := by
      unfold publishedBy
      omega
    rw [this]
    exact tally.published
  | @connecting _ n state unhindered within script tally =>
    have : publishedBy r o (3 * n + 1) = n := by
      unfold publishedBy
      omega
    rw [this]
    exact tally.published
  | @backingOff _ n delay state unhindered within script tally =>
    have : publishedBy r o (3 * n + 2) = n + 1 := by
      unfold publishedBy
      omega
    rw [this]
    exact tally.published
  | connected late state within published | abandoned late state beyond published =>
    rw [publishedBy_of_late late]
    exact published

/-- What a loop reports that has had its steps. -/
theorem Stage.report {d : Demonstration} (h : Stage r o t d.rehearsal)
    (late : 3 * rounds r o + 2 ≤ t) :
    d.report = some ⟨.ofNat (rounds r o + 1), decide ((limit r o).toNat < o.failures.toNat)⟩ := by
  unfold Demonstration.report
  cases h with
  | ready | connecting | backingOff => omega
  | connected late state within published =>
    rw [state, decide_eq_false (Nat.not_lt.mpr within)]
  | abandoned late state beyond published =>
    rw [state, decide_eq_true beyond]
    rfl

/-! ## Whole runs -/

theorem stage_start (r : ReconnectSettings) (o : ReconnectOptions) :
    Stage r o 0 (start r o).rehearsal := by
  have tally : Tally r o 0 (start r o).rehearsal.accountant :=
    ⟨rfl, rfl, rfl, ⟨⟨rfl, rfl⟩, rfl, Nat.one_ne_zero⟩⟩
  exact .ready (n := 0) rfl ⟨rfl, rfl, rfl⟩ (Nat.zero_le _) rfl tally

theorem steps_concat (d : Demonstration) (acts : List DemonstrationAct) (act : DemonstrationAct) :
    d.steps (acts ++ [act]) = (d.steps acts).step act := by
  unfold steps
  rw [List.foldl_append]
  rfl

/-- However the printer gets to run, the loop goes its way. -/
theorem stage_steps (room : rounds r o + 1 < UInt32.size) (acts : List DemonstrationAct) :
    Stage r o (acts.count .loop) ((start r o).steps acts).rehearsal := by
  induction acts using List.reverseRecOn with
  | nil => exact stage_start r o
  | append_singleton acts act ih =>
    rw [steps_concat, List.count_append]
    cases act with
    | loop => exact ih.advance room
    | print => exact ih

end VoiceGateway.Demonstration
