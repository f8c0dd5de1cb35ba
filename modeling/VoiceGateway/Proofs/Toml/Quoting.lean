import VoiceGateway.Toml.Text
import VoiceGateway.Toml.Writer

/-!
# Written strings are read back

A string may hold what ends it, begins an escape or may not stand there at all. The
writer meets this in three ways: it picks a form in which nothing of the sort occurs,
it escapes (`Escapes`), or, in triple quotes, it relies on the reader to take one or two
quotes for content, the ones that touch the closing three included.

What follows a string on its line is a line end, and with that at the latest a run of
closing quotes is over.

> `readText_writeText`: a string is read from its text.
-/

namespace VoiceGateway.Toml

/-! ## Escapes -/

/-- What becomes of a character in a form with escapes: an escape of one letter, one by
its code, or the character itself. -/
inductive Escapes (f : TextForm) (run : Nat) (c : Char) : Option (List Char) → Prop
  | short {e : Char} (letter : escapeWidth? e = none) (means : shortEscape? e = some c)
      (visible : isGap e = false ∧ e ≠ '\n' ∧ e ≠ '\r') : Escapes f run c (some ['\\', e])
  | code (control : needsCode c = true) :
      Escapes f run c (some ['\\', 'u', '0', '0', (Nat.digitChar (c.toNat / 16)).toUpper,
        (Nat.digitChar (c.toNat % 16)).toUpper])
  | itself (plain : isPlain c = true) (other : c ≠ '\\')
      (quote : c = '"' → f.block = true ∧ run < 2) : Escapes f run c none
  | lineFeed (block : f.block = true) (same : c = '\n') : Escapes f run c none

/-- A character is plain if nothing keeps it from standing where it is. -/
theorem isPlain_of_not_needsCode {c : Char} (h : needsCode c = false) (within : c ≠ '\n') :
    isPlain c = true := by
  unfold needsCode at h
  unfold isPlain
  by_cases tab : c = '\t'
  · rw [tab]
    rfl
  · simp only [Bool.or_eq_false_iff, Bool.and_eq_false_iff, decide_eq_false_iff_not,
      bne_eq_false_iff_eq, tab, within, or_false] at h
    have hne : c.toNat ≠ 0x7f := by simpa using h.2
    simp only [Bool.or_eq_true, Bool.and_eq_true, decide_eq_true_eq, bne_iff_ne]
    exact Or.inr ⟨by omega, hne⟩

theorem escapes (f : TextForm) (run : Nat) (c : Char) : Escapes f run c (f.escape? run c) := by
  unfold TextForm.escape?
  split
  · exact .short (by decide) (by decide) (by decide)
  · exact .short (by decide) (by decide) (by decide)
  · exact .short (by decide) (by decide) (by decide)
  · exact .short (by decide) (by decide) (by decide)
  · exact .short (by decide) (by decide) (by decide)
  · split
    · next block => exact .lineFeed block rfl
    · exact .short (by decide) (by decide) (by decide)
  · split
    · next h =>
      have hb : f.block = true ∧ run < 2 := by simpa using h
      exact .itself (by decide) (by decide) fun _ => hb
    · exact .short (by decide) (by decide) (by decide)
  · next backslash within quote =>
    split
    · next control => exact .code control
    · next control =>
      exact .itself (isPlain_of_not_needsCode (by simpa using control) within) backslash
        fun he => absurd he quote

theorem escapeAll_of_some {f : TextForm} {run : Nat} {c : Char} {e : List Char}
    (h : f.escape? run c = some e) (cs : List Char) :
    f.escapeAll run (c :: cs) = e ++ f.escapeAll 0 cs := by
  rw [TextForm.escapeAll, h]

theorem escapeAll_of_none {f : TextForm} {run : Nat} {c : Char} (h : f.escape? run c = none)
    (cs : List Char) :
    f.escapeAll run (c :: cs) = c :: f.escapeAll (if c = '"' then run + 1 else 0) cs := by
  rw [TextForm.escapeAll, h]

/-- A character with a code has two digits at most. -/
theorem lt_of_needsCode {c : Char} (h : needsCode c = true) : c.toNat < 0x80 := by
  unfold needsCode at h
  simp only [Bool.or_eq_true, Bool.and_eq_true, decide_eq_true_eq, beq_iff_eq] at h
  omega

theorem hexStep_high {c : Char} (h : c.toNat < 0x80) :
    hexStep 2 0 (Nat.digitChar (c.toNat / 16)).toUpper =
      some (.hex 1 (c.toNat / 16), none) := by
  unfold hexStep
  rw [Text.hexDigit?_toUpper (by omega)]
  simp

/-- The two digits of a code are the character again. -/
theorem hexStep_low (c : Char) :
    hexStep 1 (c.toNat / 16) (Nat.digitChar (c.toNat % 16)).toUpper = some (.plain, some c) := by
  have hscalar : scalar? c.toNat = some c := by
    unfold scalar?
    rw [if_pos (show c.toNat.isValidChar from c.valid), Char.ofNat_toNat]
  unfold hexStep
  rw [Text.hexDigit?_toUpper (Nat.mod_lt _ (by decide))]
  show (scalar? (c.toNat / 16 * 16 + c.toNat % 16)).map _ = _
  rw [Nat.div_add_mod' c.toNat 16, hscalar]
  rfl

/-! ## On one line -/

theorem basicBody_short {e c : Char} (letter : escapeWidth? e = none)
    (means : shortEscape? e = some c) (acc cs : List Char) :
    basicBody .plain acc ('\\' :: e :: cs) = basicBody .plain (c :: acc) cs := by
  show basicBody .escape acc (e :: cs) = _
  rw [basicBody, letter, means]

theorem basicBody_code {c : Char} (h : c.toNat < 0x80) (acc cs : List Char) :
    basicBody .plain acc ('\\' :: 'u' :: '0' :: '0' :: (Nat.digitChar (c.toNat / 16)).toUpper ::
      (Nat.digitChar (c.toNat % 16)).toUpper :: cs) = basicBody .plain (c :: acc) cs := by
  show basicBody (.hex 2 0) acc (_ :: _ :: cs) = _
  rw [basicBody, hexStep_high h]
  show basicBody (.hex 1 _) acc (_ :: cs) = _
  rw [basicBody, hexStep_low]

theorem basicBody_itself {c : Char} (plain : isPlain c = true) (backslash : c ≠ '\\')
    (quote : c ≠ '"') (acc cs : List Char) :
    basicBody .plain acc (c :: cs) = basicBody .plain (c :: acc) cs := by
  rw [basicBody, if_neg quote, if_neg backslash, if_pos plain] <;> simp

/-- An escaped content is read up to the quote that closes it. -/
theorem basicBody_escapeAll {f : TextForm} (line : f.block = false) (rest : List Char) :
    ∀ (cs : List Char) (run : Nat) (acc : List Char),
      basicBody .plain acc (f.escapeAll run cs ++ '"' :: rest) = some (acc.reverse ++ cs, rest)
  | [], run, acc => by
    show some (acc.reverse, rest) = _
    rw [List.append_nil]
  | c :: cs, run, acc => by
    have next : ∀ run', basicBody .plain (c :: acc) (f.escapeAll run' cs ++ '"' :: rest) =
        some (acc.reverse ++ c :: cs, rest) := by
      intro run'
      rw [basicBody_escapeAll line rest cs run' (c :: acc), List.reverse_cons, List.append_assoc]
      rfl
    have he := escapes f run c
    generalize hx : f.escape? run c = x at he
    cases he with
    | short letter means visible =>
      rw [escapeAll_of_some hx]
      exact (basicBody_short letter means acc _).trans (next 0)
    | code control =>
      rw [escapeAll_of_some hx]
      exact (basicBody_code (lt_of_needsCode control) acc _).trans (next 0)
    | itself plain other quote =>
      rw [escapeAll_of_none hx]
      have hq : c ≠ '"' := fun hc => absurd ((quote hc).1.symm.trans line) (by simp)
      exact (basicBody_itself plain other hq acc _).trans (next _)
    | lineFeed block same => exact absurd (block.symm.trans line) (by simp)

theorem literalBody_append (rest : List Char) :
    ∀ (cs acc : List Char), (∀ c ∈ cs, isPlain c = true ∧ c ≠ '\x27') →
      literalBody acc (cs ++ '\x27' :: rest) = some (acc.reverse ++ cs, rest)
  | [], acc, _ => by
    show some (acc.reverse, rest) = _
    rw [List.append_nil]
  | c :: cs, acc, h => by
    obtain ⟨plain, quote⟩ := h c List.mem_cons_self
    show literalBody acc (c :: (cs ++ _)) = _
    rw [literalBody, if_neg quote, if_pos plain,
      literalBody_append rest cs (c :: acc) fun x hx => h x (List.mem_cons_of_mem c hx),
      List.reverse_cons, List.append_assoc]
    rfl

/-! ## Over several lines -/

/-- The phase after so many quotes that are content so far. -/
def afterQuotes (n : Nat) : TextPhase := if n = 0 then .plain else .quotes n

/-- Whatever is no quote ends a run of one or two quotes, which are content then. -/
theorem blockBody_of_ne {q c : Char} {escapes : Bool} {n : Nat} (few : n ≤ 2) (h : c ≠ q)
    {acc acc' : List Char} {phase : TextPhase}
    (step : blockStep q escapes (List.replicate n q ++ acc) c = some (phase, acc'))
    (cs : List Char) :
    blockBody q escapes (afterQuotes n) acc (c :: cs) = blockBody q escapes phase acc' cs := by
  cases n with
  | zero =>
    show blockBody q escapes .plain acc (c :: cs) = _
    rw [blockBody]
    simp only [List.replicate_zero, List.nil_append] at step
    rw [step]
  | succ n =>
    show blockBody q escapes (.quotes (n + 1)) acc (c :: cs) = _
    rw [blockBody, if_neg h, if_neg (by omega), step]

theorem blockBody_quote {q : Char} {escapes : Bool} {n : Nat} (few : n ≤ 3) (acc cs : List Char) :
    blockBody q escapes (afterQuotes n) acc (q :: cs) =
      blockBody q escapes (.quotes (n + 1)) acc cs := by
  cases n with
  | zero =>
    have step : blockStep q escapes acc q = some (.quotes 1, acc) := if_pos rfl
    show blockBody q escapes .plain acc (q :: cs) = _
    rw [blockBody, step]
  | succ n =>
    show blockBody q escapes (.quotes (n + 1)) acc (q :: cs) = _
    rw [blockBody, if_pos rfl, if_neg (by omega)]

/-- Three quotes close the string; one or two that touch them are content. -/
theorem blockBody_close {q : Char} {escapes : Bool} {n : Nat} (few : n ≤ 2) (h : q ≠ '\n')
    (acc rest : List Char) :
    blockBody q escapes (afterQuotes n) acc (q :: q :: q :: '\n' :: rest) =
      some ((List.replicate n q ++ acc).reverse, '\n' :: rest) := by
  have stop : ∀ m, 3 ≤ m → blockBody q escapes (.quotes m) acc ('\n' :: rest) =
      some ((List.replicate (m - 3) q ++ acc).reverse, '\n' :: rest) := by
    intro m hm
    rw [blockBody, if_neg (Ne.symm h), if_pos hm]
  have more : ∀ m cs, 0 < m → m ≤ 3 → blockBody q escapes (.quotes m) acc (q :: cs) =
      blockBody q escapes (.quotes (m + 1)) acc cs := by
    intro m cs hpos hm
    rw [blockBody, if_pos rfl, if_neg (by omega)]
  rw [blockBody_quote (by omega), more (n + 1) _ (by omega) (by omega)]
  by_cases two : n = 2
  · -- The third of them is the fifth in a row.
    subst two
    rw [blockBody, if_pos rfl, if_pos rfl]
    rfl
  · rw [more (n + 2) _ (by omega) (by omega), stop (n + 3) (by omega)]
    rfl

theorem blockStep_escape (acc : List Char) :
    blockStep '"' true acc '\\' = some (.escape, acc) := rfl

theorem blockStep_itself {q c : Char} (escapes : Bool) (h : c ≠ q)
    (backslash : ¬ (c = '\\' ∧ escapes = true)) (content : c = '\n' ∨ isPlain c = true)
    (acc : List Char) : blockStep q escapes acc c = some (.plain, c :: acc) := by
  unfold blockStep
  rw [if_neg h, if_neg backslash]
  by_cases end_ : c = '\n'
  · rw [if_pos end_]
  · have plain : isPlain c = true := content.resolve_left end_
    have carriage : c ≠ '\r' := by
      rintro rfl
      exact absurd plain (by decide)
    rw [if_neg end_, if_neg carriage, if_pos plain]

theorem blockBody_short {e c : Char} (letter : escapeWidth? e = none)
    (means : shortEscape? e = some c) (visible : isGap e = false ∧ e ≠ '\n' ∧ e ≠ '\r')
    (q : Char) (acc cs : List Char) :
    blockBody q true .escape acc (e :: cs) = blockBody q true .plain (c :: acc) cs := by
  rw [blockBody, if_neg (by simp [visible.1]), if_neg visible.2.1, if_neg visible.2.2, letter,
    means]

theorem blockBody_code {c : Char} (h : c.toNat < 0x80) (q : Char) (acc cs : List Char) :
    blockBody q true .escape acc ('u' :: '0' :: '0' :: (Nat.digitChar (c.toNat / 16)).toUpper ::
      (Nat.digitChar (c.toNat % 16)).toUpper :: cs) = blockBody q true .plain (c :: acc) cs := by
  show blockBody q true (.hex 2 0) acc (_ :: _ :: cs) = _
  rw [blockBody, hexStep_high h]
  show blockBody q true (.hex 1 _) acc (_ :: cs) = _
  rw [blockBody, hexStep_low]

/-- An escaped content is read up to the three quotes that close it. -/
theorem blockBody_escapeAll {f : TextForm} (rest : List Char) :
    ∀ (cs : List Char) (run : Nat) (acc : List Char), run ≤ 2 →
      blockBody '"' true (afterQuotes run) acc
          (f.escapeAll run cs ++ '"' :: '"' :: '"' :: '\n' :: rest) =
        some ((List.replicate run '"' ++ acc).reverse ++ cs, '\n' :: rest)
  | [], run, acc, few => by
    rw [List.append_nil]
    exact blockBody_close few (by decide) acc rest
  | c :: cs, run, acc, few => by
    have next : blockBody '"' true .plain (c :: (List.replicate run '"' ++ acc))
        (f.escapeAll 0 cs ++ '"' :: '"' :: '"' :: '\n' :: rest) =
        some ((List.replicate run '"' ++ acc).reverse ++ c :: cs, '\n' :: rest) := by
      refine (blockBody_escapeAll rest cs 0 _ (by decide)).trans ?_
      rw [List.replicate_zero, List.nil_append, List.reverse_cons, List.append_assoc]
      rfl
    have he := escapes f run c
    generalize hx : f.escape? run c = x at he
    cases he with
    | short letter means visible =>
      rw [escapeAll_of_some hx]
      refine (blockBody_of_ne few (by decide) (blockStep_escape _) _).trans ?_
      exact (blockBody_short letter means visible '"' _ _).trans next
    | code control =>
      rw [escapeAll_of_some hx]
      refine (blockBody_of_ne few (by decide) (blockStep_escape _) _).trans ?_
      exact (blockBody_code (lt_of_needsCode control) '"' _ _).trans next
    | itself plain other quote =>
      rw [escapeAll_of_none hx]
      by_cases hq : c = '"'
      · have fewer := (quote hq).2
        subst hq
        rw [if_pos rfl]
        refine (blockBody_quote (by omega) acc _).trans ?_
        refine (blockBody_escapeAll rest cs (run + 1) acc (by omega)).trans ?_
        rw [List.replicate_succ, List.cons_append, List.reverse_cons, List.append_assoc]
        rfl
      · rw [if_neg hq]
        have step := blockStep_itself true hq (fun h => other h.1) (Or.inr plain)
        exact (blockBody_of_ne few hq (step _) _).trans next
    | lineFeed block same =>
      rw [escapeAll_of_none hx]
      have hq : c ≠ '"' := by
        rw [same]
        decide
      have other : c ≠ '\\' := by
        rw [same]
        decide
      rw [if_neg hq]
      have step := blockStep_itself true hq (fun h => other h.1) (Or.inl same)
      exact (blockBody_of_ne few hq (step _) _).trans next

/-! ## Runs of quotes -/

/-- No run of the character is longer than two, where one of a given length has begun. -/
def RunsWithin (q : Char) : Nat → List Char → Prop
  | run, [] => run ≤ 2
  | run, c :: cs => run ≤ 2 ∧ if c = q then RunsWithin q (run + 1) cs else RunsWithin q 0 cs

theorem RunsWithin.le {q : Char} {run : Nat} {cs : List Char} (h : RunsWithin q run cs) :
    run ≤ 2 := by
  cases cs with
  | nil => exact h
  | cons c cs => exact h.1

/-- What the search for the longest run has found bounds all runs. -/
theorem runsWithin_of_fold {q : Char} : ∀ (cs : List Char) (best run : Nat), run ≤ best →
    (cs.foldl (fun (best, run) d =>
      if d = q then (max best (run + 1), run + 1) else (best, 0)) (best, run)).1 ≤ 2 →
    best ≤ 2 ∧ RunsWithin q run cs
  | [], best, run, hle, h => ⟨h, Nat.le_trans hle h⟩
  | c :: cs, best, run, hle, h => by
    simp only [List.foldl_cons] at h
    by_cases hc : c = q
    · rw [if_pos hc] at h
      obtain ⟨hbest, hruns⟩ := runsWithin_of_fold cs _ _ (Nat.le_max_right ..) h
      have hb : best ≤ 2 := Nat.le_trans (Nat.le_max_left ..) hbest
      refine ⟨hb, Nat.le_trans hle hb, ?_⟩
      rw [if_pos hc]
      exact hruns
    · rw [if_neg hc] at h
      obtain ⟨hbest, hruns⟩ := runsWithin_of_fold cs _ _ (Nat.zero_le _) h
      refine ⟨hbest, Nat.le_trans hle hbest, ?_⟩
      rw [if_neg hc]
      exact hruns

theorem runsWithin_of_longestRun {q : Char} {cs : List Char} (h : longestRun q cs ≤ 2) :
    RunsWithin q 0 cs :=
  (runsWithin_of_fold cs 0 0 (Nat.le_refl 0) h).2

/-- A content without escapes is read up to the three quotes that close it. -/
theorem blockBody_append {q : Char} (h : q ≠ '\n') (rest : List Char) :
    ∀ (cs : List Char) (run : Nat) (acc : List Char), RunsWithin q run cs →
      (∀ c ∈ cs, c = '\n' ∨ isPlain c = true) →
      blockBody q false (afterQuotes run) acc (cs ++ q :: q :: q :: '\n' :: rest) =
        some ((List.replicate run q ++ acc).reverse ++ cs, '\n' :: rest)
  | [], run, acc, runs, content => by
    rw [List.append_nil]
    exact blockBody_close runs.le h acc rest
  | c :: cs, run, acc, runs, content => by
    have rest_content : ∀ x ∈ cs, x = '\n' ∨ isPlain x = true :=
      fun x hx => content x (List.mem_cons_of_mem c hx)
    by_cases hc : c = q
    · have more : RunsWithin q (run + 1) cs := by
        have := runs.2
        rwa [if_pos hc] at this
      subst hc
      refine (blockBody_quote (Nat.le_succ_of_le runs.le) acc _).trans ?_
      refine (blockBody_append h rest cs (run + 1) acc more rest_content).trans ?_
      rw [List.replicate_succ, List.cons_append, List.reverse_cons, List.append_assoc]
      rfl
    · have more : RunsWithin q 0 cs := by
        have := runs.2
        rwa [if_neg hc] at this
      have step := blockStep_itself false hc (by simp) (content c List.mem_cons_self)
      refine (blockBody_of_ne runs.le hc (step _) _).trans ?_
      refine (blockBody_append h rest cs 0 _ more rest_content).trans ?_
      rw [List.replicate_zero, List.nil_append, List.reverse_cons, List.append_assoc]
      rfl

/-! ## All forms -/

/-- An escaped content begins with an escape or with what it escapes. -/
theorem escapeAll_head {f : TextForm} {run : Nat} {cs t : List Char} {x : Char}
    (h : f.escapeAll run cs = x :: t) :
    x = '\\' ∨ (x ∈ cs ∧ (x = '\n' ∨ isPlain x = true) ∧ (x = '"' → f.block = true)) := by
  cases cs with
  | nil => exact absurd h (by simp [TextForm.escapeAll])
  | cons c cs =>
    have he := escapes f run c
    generalize hx : f.escape? run c = e at he
    cases he with
    | short letter means visible =>
      rw [escapeAll_of_some hx] at h
      exact Or.inl (List.cons.inj h).1.symm
    | code control =>
      rw [escapeAll_of_some hx] at h
      exact Or.inl (List.cons.inj h).1.symm
    | itself plain other quote =>
      rw [escapeAll_of_none hx] at h
      have hc : c = x := (List.cons.inj h).1
      subst hc
      exact Or.inr ⟨List.mem_cons_self, Or.inr plain, fun hq => (quote hq).1⟩
    | lineFeed block same =>
      rw [escapeAll_of_none hx] at h
      have hc : c = x := (List.cons.inj h).1
      subst hc
      exact Or.inr ⟨List.mem_cons_self, Or.inl same, fun _ => block⟩

/-- What neither begins with a line feed nor with a carriage return is all content. -/
theorem dropLineEnd_eq {cs : List Char} (h : ∀ x t, cs = x :: t → x ≠ '\n' ∧ x ≠ '\r') :
    dropLineEnd cs = cs := by
  unfold dropLineEnd
  split
  · exact absurd rfl (h _ _ rfl).1
  · exact absurd rfl (h _ _ rfl).2
  · rfl

theorem readText_basic {cs : List Char} (h : ∀ t, cs ≠ '"' :: '"' :: t) :
    readText ('"' :: cs) = basicBody .plain [] cs := by
  unfold readText
  split
  · next t he => exact absurd (List.cons.inj he).2 (h t)
  · next he => exact absurd (List.cons.inj he).1 (by decide)
  · rfl

theorem readText_literal {cs : List Char} (h : ∀ t, cs ≠ '\x27' :: '\x27' :: t) :
    readText ('\x27' :: cs) = literalBody [] cs := by
  unfold readText
  split
  · next he => exact absurd (List.cons.inj he).1 (by decide)
  · next t he => exact absurd (List.cons.inj he).2 (h t)
  · rfl

/-- A form without escapes is used only where the string fits it. -/
theorem choose_fits (cs : List Char) :
    (TextForm.choose cs).escapes = true ∨ (TextForm.choose cs).fits cs = true := by
  unfold TextForm.choose
  split
  · next f hf =>
    have fits := List.find?_some hf
    exact Or.inr fits
  · split
    · exact Or.inl rfl
    · exact Or.inl rfl

theorem choose_cases (cs : List Char) :
    TextForm.choose cs = .basic ∨ TextForm.choose cs = .literal ∨
      TextForm.choose cs = .basicBlock ∨ TextForm.choose cs = .literalBlock := by
  unfold TextForm.choose
  split
  · next f hf => simpa using List.mem_of_find?_eq_some hf
  · split
    · exact Or.inr (Or.inr (Or.inl rfl))
    · exact Or.inl rfl

/-- What may stand in a form without escapes: no control character, and on one line no
quote and no line feed. -/
theorem fits_literal {cs : List Char} (h : TextForm.literal.fits cs = true) :
    ∀ c ∈ cs, isPlain c = true ∧ c ≠ '\x27' := by
  simp only [TextForm.fits, TextForm.literal, Bool.false_and, Bool.not_false, Bool.and_true,
    Bool.false_eq_true, if_false, Bool.and_eq_true, Bool.not_eq_true', List.any_eq_false,
    List.contains_eq_mem, decide_eq_false_iff_not] at h
  obtain ⟨control, quote, within⟩ := h
  intro c hc
  refine ⟨isPlain_of_not_needsCode (by simpa using control c hc) ?_, ?_⟩
  · rintro rfl
    exact within hc
  · rintro rfl
    exact quote hc

theorem fits_literalBlock {cs : List Char} (h : TextForm.literalBlock.fits cs = true) :
    (∀ c ∈ cs, c = '\n' ∨ isPlain c = true) ∧ RunsWithin '\x27' 0 cs := by
  simp only [TextForm.fits, TextForm.literalBlock, Bool.false_and, Bool.not_false, Bool.and_true,
    if_true, Bool.and_eq_true, Bool.not_eq_true', List.any_eq_false] at h
  refine ⟨fun c hc => ?_, runsWithin_of_longestRun (of_decide_eq_true h.2)⟩
  by_cases within : c = '\n'
  · exact Or.inl within
  · exact Or.inr (isPlain_of_not_needsCode (by simpa using h.1 c hc) within)

theorem readText_write_basic (cs rest : List Char) :
    readText (TextForm.basic.write cs ++ '\n' :: rest) = some (cs, '\n' :: rest) := by
  have hw : TextForm.basic.write cs ++ '\n' :: rest =
      '"' :: (TextForm.basic.escapeAll 0 cs ++ '"' :: '\n' :: rest) := by
    simp [TextForm.write, TextForm.basic, TextForm.quotes]
  rw [hw, readText_basic]
  · exact basicBody_escapeAll rfl _ cs 0 []
  · intro t he
    cases hx : TextForm.basic.escapeAll 0 cs with
    | nil =>
      rw [hx] at he
      exact absurd (List.cons.inj (List.cons.inj he).2).1 (by decide)
    | cons x xs =>
      rw [hx] at he
      have hq : x = '"' := (List.cons.inj he).1
      rcases escapeAll_head hx with hb | ⟨-, -, block⟩
      · exact absurd (hq.symm.trans hb) (by decide)
      · exact absurd (block hq) (by decide)

theorem readText_write_literal {cs : List Char} (fits : TextForm.literal.fits cs = true)
    (rest : List Char) :
    readText (TextForm.literal.write cs ++ '\n' :: rest) = some (cs, '\n' :: rest) := by
  have content := fits_literal fits
  have hw : TextForm.literal.write cs ++ '\n' :: rest =
      '\x27' :: (cs ++ '\x27' :: '\n' :: rest) := by
    simp [TextForm.write, TextForm.literal, TextForm.quotes]
  rw [hw, readText_literal]
  · exact literalBody_append _ cs [] content
  · intro t he
    cases cs with
    | nil => exact absurd (List.cons.inj (List.cons.inj he).2).1 (by decide)
    | cons c cs => exact (content c List.mem_cons_self).2 (List.cons.inj he).1

/-- The line feed after the opening quotes is dropped; without one the content begins right
there. -/
theorem dropLineEnd_write {q : Char} (line : q ≠ '\n' ∧ q ≠ '\r') {cs content : List Char}
    (head : ∀ x t, content = x :: t →
      x = '\\' ∨ (x ∈ cs ∧ (x = '\n' ∨ isPlain x = true))) (rest : List Char) :
    dropLineEnd ((if cs.contains '\n' then ['\n'] else []) ++ (content ++ q :: rest)) =
      content ++ q :: rest := by
  by_cases h : cs.contains '\n' = true
  · rw [if_pos h]
    rfl
  · rw [if_neg h]
    have within : '\n' ∉ cs := fun hm => h (List.contains_iff_mem.mpr hm)
    refine dropLineEnd_eq fun x t he => ?_
    cases content with
    | nil =>
      have hx : q = x := (List.cons.inj he).1
      exact hx ▸ line
    | cons y ys =>
      have hx : y = x := (List.cons.inj he).1
      subst hx
      rcases head y ys rfl with rfl | ⟨hm, rfl | plain⟩
      · decide
      · exact absurd hm within
      · constructor
        · rintro rfl
          exact within hm
        · rintro rfl
          exact absurd plain (by decide)

theorem readText_write_basicBlock (cs rest : List Char) :
    readText (TextForm.basicBlock.write cs ++ '\n' :: rest) = some (cs, '\n' :: rest) := by
  have hw : TextForm.basicBlock.write cs ++ '\n' :: rest = '"' :: '"' :: '"' ::
      ((if cs.contains '\n' then ['\n'] else []) ++
        (TextForm.basicBlock.escapeAll 0 cs ++ '"' :: '"' :: '"' :: '\n' :: rest)) := by
    simp [TextForm.write, TextForm.basicBlock, TextForm.quotes, List.replicate]
  rw [hw]
  show blockBody '"' true .plain [] (dropLineEnd _) = _
  rw [dropLineEnd_write (by decide)]
  · exact blockBody_escapeAll rest cs 0 [] (by decide)
  · intro x t he
    rcases escapeAll_head he with hb | ⟨hm, hp, -⟩
    · exact Or.inl hb
    · exact Or.inr ⟨hm, hp⟩

theorem readText_write_literalBlock {cs : List Char} (fits : TextForm.literalBlock.fits cs = true)
    (rest : List Char) :
    readText (TextForm.literalBlock.write cs ++ '\n' :: rest) = some (cs, '\n' :: rest) := by
  obtain ⟨content, runs⟩ := fits_literalBlock fits
  have hw : TextForm.literalBlock.write cs ++ '\n' :: rest = '\x27' :: '\x27' :: '\x27' ::
      ((if cs.contains '\n' then ['\n'] else []) ++
        (cs ++ '\x27' :: '\x27' :: '\x27' :: '\n' :: rest)) := by
    simp [TextForm.write, TextForm.literalBlock, TextForm.quotes, List.replicate]
  rw [hw]
  show blockBody '\x27' false .plain [] (dropLineEnd _) = _
  rw [dropLineEnd_write (by decide)]
  · exact blockBody_append (by decide) rest cs 0 [] runs content
  · intro x t he
    have hm : x ∈ cs := he ▸ List.mem_cons_self
    exact Or.inr ⟨hm, content x hm⟩

/-- A string is read from its text, at the end of a line. -/
theorem readText_writeText (s : String) (rest : List Char) :
    readText (writeText s ++ '\n' :: rest) = some (s.toList, '\n' :: rest) := by
  unfold writeText
  have hfits := choose_fits s.toList
  rcases choose_cases s.toList with h | h | h | h
  · rw [h]
    exact readText_write_basic _ rest
  · rw [h] at hfits ⊢
    exact readText_write_literal (hfits.resolve_left (by decide)) rest
  · rw [h]
    exact readText_write_basicBlock _ rest
  · rw [h] at hfits ⊢
    exact readText_write_literalBlock (hfits.resolve_left (by decide)) rest

/-- A text begins with a quote. -/
theorem writeText_head (s : String) :
    ∃ cs, writeText s = '"' :: cs ∨ writeText s = '\x27' :: cs := by
  unfold writeText
  rcases choose_cases s.toList with h | h | h | h
  · exact ⟨_, Or.inl (by rw [h]; rfl)⟩
  · exact ⟨_, Or.inr (by rw [h]; rfl)⟩
  · exact ⟨_, Or.inl (by rw [h]; rfl)⟩
  · exact ⟨_, Or.inr (by rw [h]; rfl)⟩

end VoiceGateway.Toml
