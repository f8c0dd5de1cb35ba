import VoiceGateway.CommandLine.Report
import VoiceGateway.Proofs.Reconnect.Scripted

/-!
# What a demonstration prints

The printer writes the failures one after the other as long as it stays within the window of
the stream, and not one more once it has fallen behind, because it stops at being told so.
So the lines are always the first ones of those there should be, and all of them exactly if
the printer is never more than 64 failures behind when it gets to run, which includes the
end; with 64 failures at most it cannot be.

> `Writes.turn`: what one turn of the printer does.
> `stopped_iff`: a printer stops at a turn for which it comes too late.
> `play_eq_steps`: the program runs loop and printer in some order, to the end.
> `demonstration_prints`: the report and the lines of every order.
-/

namespace VoiceGateway.Demonstration

variable {r : ReconnectSettings} {o : ReconnectOptions} {n n' : Nat}
  {s : Stream ReconnectFailure} {p : Printer} {d : Demonstration}

/-- The line for an attempt that has failed, attempts counted from zero. -/
def line (r : ReconnectSettings) (o : ReconnectOptions) (i : Nat) : String := (failure r o i).text

/-- A printer when `n` failures have been published. -/
structure Writes (r : ReconnectSettings) (o : ReconnectOptions) (n : Nat) (p : Printer) :
    Prop where
  passed : p.cursor.passed ≤ n
  lines : p.lines = (List.range p.cursor.passed).map (line r o)
  /-- Only a printer that has fallen behind stops. -/
  stopped : p.stopped = true → p.cursor.passed + 64 < n

theorem Writes.mono (h : Writes r o n p) (le : n ≤ n') : Writes r o n' p :=
  ⟨Nat.le_trans h.passed le, h.lines, fun hs => Nat.lt_of_lt_of_le (h.stopped hs) le⟩

theorem Writes.length (h : Writes r o n p) : p.lines.length = p.cursor.passed := by
  rw [h.lines, List.length_map, List.length_range]

/-! ## One turn -/

/-- A printer that has fallen behind is told so, and stops. -/
theorem turn_behind (running : p.stopped = false) (window : s.window = 64)
    (behind : p.cursor.passed + 64 < s.history.length) : p.turn s = { p with stopped := true } := by
  have hlag : p.cursor.passed < s.windowStart := by
    unfold Stream.windowStart
    omega
  unfold Printer.turn Stream.receive
  rw [running, if_pos hlag]
  rfl

/-- A printer within the window writes the next failure. -/
theorem turn_next (running : p.stopped = false) (window : s.window = 64)
    (near : s.history.length ≤ p.cursor.passed + 64) {f : ReconnectFailure}
    (next : s.history[p.cursor.passed]? = some f) :
    p.turn s = { p with cursor := ⟨p.cursor.passed + 1⟩, lines := p.lines ++ [f.text] } := by
  have hnear : ¬ p.cursor.passed < s.windowStart := by
    unfold Stream.windowStart
    omega
  unfold Printer.turn Stream.receive
  rw [running, if_neg hnear, next]
  rfl

/-- A printer that has written everything waits, or stops at the end of the stream. -/
theorem turn_done (running : p.stopped = false) (done : p.cursor.passed = s.history.length) :
    p.turn s = if s.closed then { p with stopped := true } else p := by
  have hnear : ¬ p.cursor.passed < s.windowStart := by
    unfold Stream.windowStart
    omega
  have hnone : s.history[p.cursor.passed]? = none :=
    List.getElem?_eq_none_iff.mpr (Nat.le_of_eq done.symm)
  unfold Printer.turn Stream.receive
  rw [running, if_neg hnear, hnone]
  cases s.closed <;> rfl

theorem Carries.length (h : Carries r o n s) : s.history.length = n := by
  rw [h.history, List.length_map, List.length_range]

theorem Carries.getElem? (h : Carries r o n s) {i : Nat} (lt : i < n) :
    s.history[i]? = some (failure r o i) := by
  rw [h.history, List.getElem?_map, List.getElem?_range lt]
  rfl

/-- A printer within the window writes the next line. -/
theorem Writes.next (h : Writes r o n p) (hs : Carries r o n s) (running : p.stopped = false)
    (near : n ≤ p.cursor.passed + 64) (more : p.cursor.passed < n) :
    Writes r o n (p.turn s) ∧ (p.turn s).stopped = false ∧
      (p.turn s).cursor.passed = p.cursor.passed + 1 := by
  have hlength := hs.length
  rw [turn_next running hs.window (by omega) (hs.getElem? more)]
  refine ⟨⟨more, ?_, fun stopped => absurd stopped (by simp [running])⟩, running, rfl⟩
  rw [h.lines, List.range_succ, List.map_append]
  rfl

/-- A turn of the printer writes at most one line, and stops the printer if it comes too
late. -/
theorem Writes.turn (h : Writes r o n p) (hs : Published r o n s) :
    Writes r o n (p.turn s) ∧
      ((p.turn s).stopped = true ↔ p.stopped = true ∨ 64 < n - p.lines.length) := by
  rw [h.length]
  have hlength := hs.length
  have hpassed := h.passed
  by_cases running : p.stopped = false
  · rw [running]
    rcases Nat.lt_or_ge (p.cursor.passed + 64) n with behind | near
    · rw [turn_behind running hs.window (by omega)]
      exact ⟨⟨hpassed, h.lines, fun _ => behind⟩, fun _ => Or.inr (by omega), fun _ => rfl⟩
    · have hnot : ¬ 64 < n - p.cursor.passed := by omega
      rcases Nat.lt_or_eq_of_le hpassed with more | done
      · obtain ⟨hw, hrunning, -⟩ := h.next hs.toCarries running near more
        rw [hrunning]
        exact ⟨hw, fun h => Or.inl h, fun h => h.resolve_right hnot⟩
      · rw [turn_done running (done.trans hlength.symm), hs.opened]
        exact ⟨h, fun stopped => Or.inl (running.symm.trans stopped),
          fun h => absurd (h.resolve_right hnot) Bool.false_ne_true⟩
  · have stopped : p.stopped = true := Bool.not_eq_false _ ▸ running
    rw [Printer.turn_stopped s p stopped]
    exact ⟨h, fun _ => Or.inl stopped, fun _ => stopped⟩

/-! ## The end -/

theorem turns_stopped (stopped : p.stopped = true) (s : Stream ReconnectFailure) (l : List Nat) :
    l.foldl (fun p _ => p.turn s) p = p := by
  induction l with
  | nil => rfl
  | cons i l ih =>
    rw [List.foldl_cons, Printer.turn_stopped s p stopped]
    exact ih

/-- A printer within the window writes all that is left of a stream that has ended. -/
theorem Writes.turns (h : Writes r o n p) (hs : Carries r o n s) (closed : s.closed = true)
    (running : p.stopped = false) (near : n ≤ p.cursor.passed + 64) (l : List Nat)
    (enough : n ≤ p.cursor.passed + l.length) :
    (l.foldl (fun p _ => p.turn s) p).lines = (List.range n).map (line r o) := by
  induction l generalizing p with
  | nil =>
    have done : p.cursor.passed = n := Nat.le_antisymm h.passed enough
    rw [← done]
    exact h.lines
  | cons i l ih =>
    rw [List.foldl_cons]
    rw [List.length_cons] at enough
    rcases Nat.lt_or_eq_of_le h.passed with more | done
    · obtain ⟨hw, hrunning, hpassed⟩ := h.next hs running near more
      exact ih hw hrunning (by omega) (by omega)
    · rw [turn_done running (done.trans hs.length.symm), if_pos closed, turns_stopped rfl, ← done]
      exact h.lines

/-- What is printed when the stream has ended. -/
theorem Writes.drain (h : Writes r o n p) (hs : Carries r o n s) (closed : s.closed = true) :
    (p.drain s).lines = if p.stopped = true ∨ 64 < n - p.lines.length then p.lines
      else (List.range n).map (line r o) := by
  have hlength := hs.length
  rw [h.length]
  unfold Printer.drain
  rw [hlength]
  by_cases running : p.stopped = false
  · rw [running]
    rcases Nat.lt_or_ge 64 (n - p.cursor.passed) with behind | near
    · rw [if_pos (Or.inr behind), List.range_succ_eq_map, List.foldl_cons,
        turn_behind running hs.window (by omega), turns_stopped rfl]
    · rw [if_neg (fun h => Nat.not_lt.mpr near (h.resolve_left Bool.false_ne_true))]
      exact h.turns hs closed running (by omega) _ (by rw [List.length_range]; omega)
  · have stopped : p.stopped = true := Bool.not_eq_false _ ▸ running
    rw [if_pos (Or.inl stopped), turns_stopped stopped]

/-! ## Whole runs -/

/-- The failures that are published and not printed yet. -/
def behind (d : Demonstration) : Nat :=
  d.rehearsal.accountant.failures.history.length - d.printer.lines.length

theorem writes_steps (room : rounds r o + 1 < UInt32.size) (acts : List DemonstrationAct) :
    Writes r o (publishedBy r o (acts.count .loop)) ((start r o).steps acts).printer := by
  induction acts using List.reverseRecOn with
  | nil => exact ⟨Nat.zero_le _, rfl, fun h => Bool.noConfusion h⟩
  | append_singleton acts act ih =>
    rw [steps_concat, List.count_append]
    cases act with
    | loop => exact ih.mono (publishedBy_mono r o _)
    | print => exact (ih.turn (stage_steps room acts).published).1

/-- How far behind the printer is, by the failures that the loop has published. -/
theorem behind_steps (room : rounds r o + 1 < UInt32.size) (acts : List DemonstrationAct) :
    ((start r o).steps acts).behind =
      publishedBy r o (acts.count .loop) - ((start r o).steps acts).printer.lines.length := by
  unfold behind
  rw [(stage_steps room acts).published.length]

/-- A printer stops at a turn for which it comes too late. -/
theorem stopped_iff (room : rounds r o + 1 < UInt32.size) (acts : List DemonstrationAct) :
    ((start r o).steps acts).printer.stopped = true ↔
      ∃ earlier, earlier ++ [.print] <+: acts ∧ 64 < ((start r o).steps earlier).behind := by
  induction acts using List.reverseRecOn with
  | nil =>
    refine ⟨fun h => Bool.noConfusion h, fun ⟨earlier, h, _⟩ => ?_⟩
    exact absurd (List.prefix_nil.mp h) (by simp)
  | append_singleton acts act ih =>
    rw [steps_concat]
    cases act with
    | loop =>
      refine ih.trans ⟨fun ⟨earlier, h, late⟩ => ⟨earlier, h.trans (List.prefix_append ..), late⟩,
        fun ⟨earlier, h, late⟩ => ?_⟩
      rcases List.prefix_concat_iff.mp h with h | h
      · exact absurd (List.append_inj_right' h rfl) (by simp)
      · exact ⟨earlier, h, late⟩
    | print =>
      refine ((writes_steps room acts).turn (stage_steps room acts).published).2.trans ?_
      rw [ih, ← behind_steps room acts]
      constructor
      · rintro (⟨earlier, h, late⟩ | late)
        · exact ⟨earlier, h.trans (List.prefix_append ..), late⟩
        · exact ⟨acts, List.prefix_rfl, late⟩
      · rintro ⟨earlier, h, late⟩
        rcases List.prefix_concat_iff.mp h with h | h
        · rw [List.append_inj_left' h rfl] at late
          exact Or.inr late
        · exact Or.inl ⟨earlier, h, late⟩

/-- What a loop and its printer come to that have been run to the end. -/
theorem lines_steps (room : rounds r o + 1 < UInt32.size) {acts : List DemonstrationAct}
    (late : 3 * rounds r o + 2 ≤ acts.count .loop) :
    let d := (start r o).steps acts
    let all := (List.range (failed r o)).map (line r o)
    d.lines <+: all ∧
      (d.lines = all ↔ ∀ earlier, earlier ++ [.print] <+: acts ∨ earlier = acts →
        ((start r o).steps earlier).behind ≤ 64) := by
  intro d all
  have hw : Writes r o _ d.printer := writes_steps room acts
  have hs : Published r o _ d.rehearsal.accountant.failures := (stage_steps room acts).published
  rw [publishedBy_of_late late] at hw hs
  have hlines : d.lines = _ := hw.drain (s := d.rehearsal.accountant.failures.close)
    ⟨hs.history, hs.window⟩ rfl
  have hbehind : d.behind = failed r o - d.printer.lines.length := by
    rw [behind_steps room acts, publishedBy_of_late late]
  rw [← hbehind] at hlines
  by_cases missed : d.printer.stopped = true ∨ 64 < d.behind
  · rw [hlines, if_pos missed]
    have hshort : d.printer.lines.length < failed r o := by
      rcases missed with stopped | behind
      · have := hw.stopped stopped
        rw [hw.length]
        omega
      · omega
    refine ⟨?_, fun h => ?_, fun near => ?_⟩
    · rw [hw.lines]
      have hfirst : List.range d.printer.cursor.passed <+: List.range (failed r o) := by
        rw [← Nat.min_eq_left hw.passed, ← List.take_range]
        exact List.take_prefix ..
      exact hfirst.map _
    · have hlength := congrArg List.length h
      rw [List.length_map, List.length_range] at hlength
      omega
    · rcases missed with stopped | behind
      · obtain ⟨earlier, h, behind⟩ := (stopped_iff room acts).mp stopped
        exact absurd (near earlier (Or.inl h)) (Nat.not_le.mpr behind)
      · exact absurd (near acts (Or.inr rfl)) (Nat.not_le.mpr behind)
  · rw [hlines, if_neg missed]
    refine ⟨List.prefix_rfl, fun _ earlier h => Nat.le_of_not_lt fun behind => ?_, fun _ => rfl⟩
    rcases h with h | rfl
    · exact missed (Or.inl ((stopped_iff room acts).mpr ⟨earlier, h, behind⟩))
    · exact missed (Or.inr behind)

/-- A printer that does not get to run before the loop has ended is too late for more
failures than the window holds. -/
theorem lines_unattended (room : rounds r o + 1 < UInt32.size) {n : Nat}
    (late : 3 * rounds r o + 2 ≤ n) (many : 64 < failed r o) :
    ((start r o).steps (List.replicate n .loop)).lines = [] := by
  have hprinter (d : Demonstration) : (d.steps (List.replicate n .loop)).printer = d.printer := by
    clear late
    induction n generalizing d with
    | zero => rfl
    | succ n ih => exact ih (d.step .loop)
  have hcount : (List.replicate n DemonstrationAct.loop).count .loop = n :=
    List.count_replicate_self
  have hw := writes_steps (r := r) (o := o) room (List.replicate n .loop)
  have hs := (stage_steps (r := r) (o := o) room (List.replicate n .loop)).published
  rw [hcount, publishedBy_of_late late] at hw hs
  rw [hprinter] at hw
  have hclosed : Carries r o (failed r o) (Stream.close _) := ⟨hs.history, hs.window⟩
  unfold Demonstration.lines
  rw [hprinter]
  exact (hw.drain hclosed rfl).trans (if_pos (Or.inr many))

/-! ## The order that the program chooses -/

theorem steps_append (d : Demonstration) (acts acts' : List DemonstrationAct) :
    d.steps (acts ++ acts') = (d.steps acts).steps acts' := List.foldl_append

/-- To let the printer take what is there is to let it run a number of times. -/
theorem drain_eq_steps (d : Demonstration) : ∃ acts, acts.count .loop = 0 ∧
    { d with printer := d.printer.drain d.rehearsal.accountant.failures } = d.steps acts := by
  have hturns (l : List Nat) : ∀ d : Demonstration,
      { d with printer := l.foldl (fun p _ => p.turn d.rehearsal.accountant.failures) d.printer } =
        d.steps (l.map fun _ => .print) := by
    induction l with
    | nil => exact fun d => rfl
    | cons i l ih => exact fun d => ih (d.step .print)
  refine ⟨_, List.count_eq_zero.mpr fun hmem => ?_, hturns _ d⟩
  obtain ⟨i, -, h⟩ := List.mem_map.mp hmem
  cases h

/-- The program lets the loop take its steps until it has ended, and the printer run now and
then. -/
theorem playWithin_eq_steps (fuel : Nat) (d : Demonstration) :
    ∃ acts, d.playWithin fuel = d.steps acts ∧
      (acts.count .loop = fuel ∨ ∃ e, (d.steps acts).rehearsal.state = .finished e) := by
  induction fuel generalizing d with
  | zero => exact ⟨[], rfl, Or.inl rfl⟩
  | succ fuel ih =>
    unfold playWithin
    split
    · next e state => exact ⟨[], rfl, Or.inr ⟨e, state⟩⟩
    · have hround : ∃ acts, acts.count .loop = 0 ∧ (if d.waits then
          { d with printer := d.printer.drain d.rehearsal.accountant.failures } else d) =
            d.steps acts := by
        split
        · exact drain_eq_steps d
        · exact ⟨[], rfl, rfl⟩
      obtain ⟨before, hcount, hbefore⟩ := hround
      obtain ⟨after, hafter, hend⟩ := ih ((d.steps before).step .loop)
      have hsteps : d.steps (before ++ .loop :: after) =
          ((d.steps before).step .loop).steps after := steps_append d before _
      refine ⟨before ++ .loop :: after, ?_, ?_⟩
      · dsimp only
        rw [hbefore, hafter, hsteps]
      · rw [hsteps]
        refine hend.imp_left fun h => ?_
        rw [List.count_append, hcount, List.count_cons_self, h, Nat.zero_add]

theorem steps_finished {e : LoopEnding UInt32} (state : d.rehearsal.state = .finished e) (n : Nat) :
    d.steps (List.replicate n .loop) = d := by
  induction n with
  | zero => rfl
  | succ n ih =>
    have hstep : d.step .loop = d := by
      show { d with rehearsal := d.rehearsal.advance } = d
      rw [advance_finished state]
    show (d.step .loop).steps (List.replicate n .loop) = d
    rw [hstep, ih]

/-- The program runs loop and printer in some order, and the loop to its end. -/
theorem play_eq_steps (r : ReconnectSettings) (o : ReconnectOptions) :
    ∃ acts, 3 * rounds r o + 2 ≤ acts.count .loop ∧ (start r o).play = (start r o).steps acts := by
  have hrounds : rounds r o ≤ (limit r o).toNat := Nat.min_le_right _ _
  obtain ⟨acts, hplay, hend⟩ := playWithin_eq_steps (3 * ((limit r o).toNat + 2)) (start r o)
  rcases hend with hcount | ⟨e, state⟩
  · exact ⟨acts, by omega, hplay⟩
  · refine ⟨acts ++ List.replicate (3 * rounds r o + 2) .loop, ?_, ?_⟩
    · rw [List.count_append, List.count_replicate_self]
      exact Nat.le_add_left _ _
    · rw [steps_append, steps_finished state]
      exact hplay

/-- The failed attempts as the options tell them. -/
theorem failed_eq (r : ReconnectSettings) (o : ReconnectOptions) : failed r o =
    if o.failures.toNat ≤ (limit r o).toNat then o.failures.toNat else (limit r o).toNat + 1 := by
  unfold failed
  split <;> omega

/-- What a demonstration comes to, in whatever order loop and printer get to run. With `f`
failures and a limit of `m`, the loop ends with the attempt after the first `min f m`, and
the shard is given up if there are more failures than that. The lines are those of the
attempts that fail, in order, but perhaps not to the last: the printer has to keep within
the window of 64 failures whenever it gets to run, and at the end. The program chooses one
of these orders and prints the lines and the report. -/
theorem demonstration_prints (c : Config) (o : ReconnectOptions)
    (room : min o.failures.toNat (limit c.reconnect o).toNat + 1 < UInt32.size) :
    let f := o.failures.toNat
    let m := (limit c.reconnect o).toNat
    let start := start c.reconnect o
    let report : ReconnectReport := ⟨.ofNat (min f m + 1), decide (m < f)⟩
    let all := (List.range (if f ≤ m then f else m + 1)).map fun i =>
      (⟨o.shard, .ofNat (i + 1), limit c.reconnect o⟩ : ReconnectFailure).text
    (∀ acts : List DemonstrationAct, 3 * min f m + 2 ≤ acts.count .loop →
      let d := start.steps acts
      d.report = some report ∧ d.lines <+: all ∧
        (d.lines = all ↔ ∀ earlier, earlier ++ [.print] <+: acts ∨ earlier = acts →
          (start.steps earlier).behind ≤ 64) ∧
        (all.length ≤ 64 → d.lines = all)) ∧
      ∃ acts, 3 * min f m + 2 ≤ acts.count .loop ∧ start.play = start.steps acts ∧
        Command.runReconnect c o =
          .printed (String.join ((start.steps acts).lines.map (· ++ "\n")) ++
            Command.reconnectText o.shard report) := by
  intro f m start report all
  have hall : all = (List.range (failed c.reconnect o)).map (line c.reconnect o) := by
    rw [failed_eq]
    rfl
  have hreport (acts : List DemonstrationAct) (late : 3 * min f m + 2 ≤ acts.count .loop) :
      (start.steps acts).report = some report :=
    (stage_steps (r := c.reconnect) (o := o) room acts).report late
  refine ⟨fun acts late => ?_, ?_⟩
  · obtain ⟨hfirst, hiff⟩ := lines_steps (r := c.reconnect) (o := o) room late
    rw [← hall] at hfirst hiff
    refine ⟨hreport acts late, hfirst, hiff, fun few => hiff.mpr fun earlier _ => ?_⟩
    -- There are no more failures than that to be behind with.
    have hlength : all.length = failed c.reconnect o := by
      rw [hall, List.length_map, List.length_range]
    have hpublished : publishedBy c.reconnect o (earlier.count .loop) ≤ failed c.reconnect o :=
      Nat.min_le_left _ _
    rw [behind_steps room earlier]
    omega
  · obtain ⟨acts, late, hplay⟩ := play_eq_steps c.reconnect o
    refine ⟨acts, late, hplay, ?_⟩
    unfold Command.runReconnect
    dsimp only
    rw [hplay, hreport acts late]

/-- Three failures within the limit are all printed. -/
theorem demonstration_prints_three :
    Command.runReconnect {} { failures := 3 } = .printed
      ("shard 0 failed reconnect attempt 1/5\nshard 0 failed reconnect attempt 2/5\n" ++
        "shard 0 failed reconnect attempt 3/5\nshard 0 connected on attempt 4\n") := by
  obtain ⟨hall, acts, late, -, hrun⟩ := demonstration_prints {} { failures := 3 } (by decide)
  obtain ⟨-, -, -, hlines⟩ := hall acts late
  rw [hrun, hlines (by decide)]
  decide

/-- A hundred failures without a delay between them, and the printer does not get to run
before the loop has ended: it is told that it has missed some, and prints none. -/
theorem unattended_prints_nothing :
    let c : Config := { reconnect := { initialDelayMs := 0, maxDelayMs := 0 } }
    let o : ReconnectOptions := { failures := 100, maxAttempts := some 200 }
    let d := (start c.reconnect o).steps (List.replicate 302 .loop)
    d.report = some ⟨101, false⟩ ∧ d.lines = [] := by
  intro c o d
  have room : rounds c.reconnect o + 1 < UInt32.size := by decide
  refine ⟨(stage_steps (r := c.reconnect) (o := o) room _).report ?_,
    lines_unattended room (by decide) (by decide)⟩
  rw [List.count_replicate_self]
  decide

end VoiceGateway.Demonstration
