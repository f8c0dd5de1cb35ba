import VoiceGateway.Proofs.Json.Assembling

/-!
# Texts of one number or one string

A text that is read as one whole number or one string, with nothing behind it, is a JSON text
of it: blanks, the number or the string as the grammar has it, and blanks again. So what the
reader takes for one of the two is never anything but JSON.

The way back from tokens to characters goes by the mode of the scanner, which fixes what kind
of token comes next (`Mode.Yields`). A container never becomes a number or a string, however
the text goes on (`Assembly.Holds`).

> `scan_eq_number`, `scan_eq_text`: the text in front of the end of a number or a string.
> `source_of_number`, `source_of_text`: the whole text.
-/

namespace VoiceGateway.Json

open Assembly

/-! ## The next token -/

/-- Whether a mode is inside a token. -/
def Mode.isBusy : Mode → Bool
  | .between => false
  | .text _ | .number _ | .word _ _ => true

/-- Which token may come next: a string, a number with all the parts it has so far, the word
that has begun, or one that breaks off. -/
def Mode.Yields : Mode → Token → Prop
  | .between, _ => True
  | .text _, t => (∃ content, t = .text content) ∨ ∃ k s, t = .brokenText k s
  | .number st, t =>
    (∃ n, t = .number n ∧ n.negative = st.negative ∧
      (st.hasFraction = true → n.fraction ≠ none) ∧ (st.hasPower = true → n.power ≠ none)) ∨
    ∃ k s, t = .broken k s
  | .word _ t₀, t => t = t₀ ∨ ∃ k s, t = .broken k s

theorem NumberState.yields_numeral (st : NumberState) :
    (Mode.number st).Yields (.number st.numeral) := by
  refine Or.inl ⟨st.numeral, rfl, rfl, fun h => ?_, fun h => ?_⟩
  · simp [NumberState.numeral, h]
  · simp [NumberState.numeral, h]

/-- A number keeps the parts that it has. -/
theorem NumberState.next?_keeps {st st' : NumberState} {c : Char} (h : st.next? c = some st') :
    st'.negative = st.negative ∧ (st.hasFraction = true → st'.hasFraction = true) ∧
      (st.hasPower = true → st'.hasPower = true) := by
  unfold next? at h
  repeat' split at h
  all_goals cases h
  all_goals exact ⟨rfl, by simp, by simp⟩

theorem NumberState.yields_of_next? {st st' : NumberState} {c : Char}
    (h : st.next? c = some st') {t : Token} (ht : (Mode.number st').Yields t) :
    (Mode.number st).Yields t := by
  obtain ⟨hneg, hfraction, hpower⟩ := next?_keeps h
  rcases ht with ⟨n, hn, hnegative, hf, hp⟩ | hbroken
  · exact Or.inl ⟨n, hn, hnegative.trans hneg, fun h => hf (hfraction h), fun h => hp (hpower h)⟩
  · exact Or.inr hbroken

/-- A character inside a token ends it, or goes on with it. -/
theorem Mode.step_busy {m : Mode} (busy : m.isBusy = true) (c : Char) (cs : List Char) :
    (∃ t ts, (m.step c cs).tokens = t :: ts ∧ m.Yields t) ∨
      ∃ m', m.step c cs = .go m' ∧ m'.isBusy = true ∧ ∀ t, m'.Yields t → m.Yields t := by
  cases m with
  | between => exact absurd busy (by simp [isBusy])
  | text st =>
    have hstep : (Mode.text st).step c cs = st.step c cs := rfl
    rw [hstep]
    unfold TextState.step
    repeat' split
    all_goals first
      | exact Or.inr ⟨_, rfl, rfl, fun _ h => h⟩
      | exact Or.inl ⟨_, [], rfl, Or.inl ⟨_, rfl⟩⟩
      | exact Or.inl ⟨_, [], rfl, Or.inr ⟨_, _, rfl⟩⟩
  | number st =>
    have hstep : (Mode.number st).step c cs = st.step c := rfl
    rw [hstep]
    unfold NumberState.step
    split
    · next st' hnext => exact Or.inr ⟨_, rfl, rfl, fun _ h => NumberState.yields_of_next? hnext h⟩
    · split
      · exact Or.inl ⟨_, _, rfl, st.yields_numeral⟩
      · exact Or.inl ⟨_, [], rfl, Or.inr ⟨_, _, rfl⟩⟩
  | word left t₀ =>
    cases left with
    | nil => exact Or.inl ⟨_, _, rfl, Or.inl rfl⟩
    | cons l left =>
      have hstep : (Mode.word (l :: left) t₀).step c cs =
          if c = l then if left.isEmpty then .emit t₀ else .go (.word left t₀)
          else .stop (.broken .malformed .malformed) := rfl
      rw [hstep]
      repeat' split
      · exact Or.inl ⟨_, [], rfl, Or.inl rfl⟩
      · exact Or.inr ⟨_, rfl, rfl, fun _ h => h⟩
      · exact Or.inl ⟨_, [], rfl, Or.inr ⟨_, _, rfl⟩⟩

/-- A token that has begun comes to something. -/
theorem scan_busy {m : Mode} (busy : m.isBusy = true) (cs : List Char) :
    ∃ t ts, scan m cs = t :: ts ∧ m.Yields t := by
  induction cs generalizing m with
  | nil =>
    cases m with
    | between => exact absurd busy (by simp [Mode.isBusy])
    | text st => exact ⟨_, [], rfl, Or.inr ⟨_, _, rfl⟩⟩
    | number st =>
      show ∃ t ts, (if st.mayEnd then _ else _) = t :: ts ∧ _
      split
      · exact ⟨_, [], rfl, st.yields_numeral⟩
      · exact ⟨_, [], rfl, Or.inr ⟨_, _, rfl⟩⟩
    | word left t₀ => exact ⟨_, [], rfl, Or.inr ⟨_, _, rfl⟩⟩
  | cons c cs ih =>
    rcases Mode.step_busy busy c cs with ⟨t, ts, htokens, ht⟩ | ⟨m', hgo, hbusy, hyields⟩
    · refine ⟨t, ts ++ ((m.step c cs).mode.map (scan · cs)).getD [], ?_, ht⟩
      rw [scan_cons, htokens]
      rfl
    · obtain ⟨t, ts, hscan, ht⟩ := ih hbusy
      exact ⟨t, ts, (scan_go hgo).trans hscan, hyields t ht⟩

/-! ## Between tokens -/

/-- What a character between tokens begins. -/
inductive Begun (c : Char) : Step → Prop
  | blank (blank : isSpace c = true) : Begun c (.go .between)
  | mark {t : Token} (ht : t ∈ [Token.openArray, .closeArray, .openObject, .closeObject, .comma,
      .colon]) : Begun c (.emit t)
  | stray : Begun c (.stop .stray)
  | quote (hc : c = '"') : Begun c (.go (.text {}))
  | minus : Begun c (.go (.number { negative := true, phase := .sign }))
  | zero (hc : c = '0') : Begun c (.go (.number { whole := ['0'], phase := .zero }))
  | digit (digit : c.isDigit = true) (hc : c ≠ '0') :
      Begun c (.go (.number { whole := [c], phase := .whole }))
  | word {left : List Char} {t : Token} (ht : t ∈ [Token.null, .bool true, .bool false]) :
      Begun c (.go (.word left t))

theorem begun_start (c : Char) : Begun c (start c) := by
  unfold start
  split
  · next blank => exact .blank blank
  · split
    case h_1 | h_2 | h_3 | h_4 | h_5 | h_6 => exact .mark (by simp)
    case h_7 => exact .quote rfl
    case h_8 => exact .minus
    case h_9 => exact .zero rfl
    case h_10 | h_11 | h_12 => exact .word (by simp)
    case h_13 zero _ _ _ =>
      split
      · next digit => exact .digit digit zero
      · exact .stray

/-- A text without tokens is blank. -/
theorem blank_of_scan {cs : List Char} (h : scan .between cs = []) :
    ∀ c ∈ cs, isSpace c = true := by
  induction cs with
  | nil => exact fun c hc => absurd hc List.not_mem_nil
  | cons c cs ih =>
    rw [scan_cons] at h
    have hstart := begun_start c
    change (start c).tokens ++ ((start c).mode.map (scan · cs)).getD [] = [] at h
    have inside : ∀ m : Mode, m.isBusy = true → scan m cs ≠ [] := by
      intro m busy he
      obtain ⟨t, ts, hts, -⟩ := scan_busy busy cs
      exact absurd (he.symm.trans hts) (by simp)
    generalize start c = step at h hstart
    cases hstart with
    | blank blank => exact List.forall_mem_cons.mpr ⟨blank, ih h⟩
    | mark ht => exact absurd h (by simp [Step.emit])
    | stray => exact absurd h (by simp [Step.stop])
    | quote | minus | zero | digit | word => exact absurd h (inside _ rfl)

/-! ## Whole numbers -/

/-- A number without a point and a power of ten. -/
def Numeral.IsWhole (n : Numeral) : Prop := n.fraction = none ∧ n.power = none

/-- A number that is whole so far and stays so takes in a digit, unless it is a zero. -/
theorem NumberState.next?_whole {st st' : NumberState} (ends : st.phase = .zero ∨ st.phase = .whole)
    {c : Char} (h : st.next? c = some st') (noFraction : st'.hasFraction = false)
    (noPower : st'.hasPower = false) :
    st.phase = .whole ∧ c.isDigit = true ∧ st' = { st with whole := c :: st.whole } := by
  obtain ⟨negative, digits, fraction, powerNegative, power, hasFraction, hasPower, phase⟩ := st
  unfold next? at h
  rcases ends with rfl | rfl <;> dsimp only at h
  · repeat' split at h
    all_goals cases h
    · exact absurd noFraction (by simp)
    · exact absurd noPower (by simp)
  · repeat' split at h
    all_goals cases h
    · next digit => exact ⟨rfl, digit, rfl⟩
    · exact absurd noFraction (by simp)
    · exact absurd noPower (by simp)

/-- A point or a mark would stay in the number. -/
theorem parts_of_scan {st : NumberState} {cs : List Char} {n : Numeral} (whole : n.IsWhole)
    (h : scan (.number st) cs = [.number n]) : st.hasFraction = false ∧ st.hasPower = false := by
  obtain ⟨t, ts, hts, hyields⟩ := scan_busy (m := .number st) rfl cs
  rw [h] at hts
  cases hts
  rcases hyields with ⟨n', hn', -, hfraction, hpower⟩ | ⟨k, s, hbroken⟩
  · cases hn'
    exact ⟨by simpa [whole.1] using hfraction, by simpa [whole.2] using hpower⟩
  · exact absurd hbroken (by simp)

/-- Such a number may end, and says its digits then. -/
theorem scan_whole_numeral {st : NumberState} (ends : st.phase = .zero ∨ st.phase = .whole)
    {cs : List Char} {n : Numeral} (whole : n.IsWhole) (h : scan (.number st) cs = [.number n]) :
    st.mayEnd = true ∧ st.numeral = ⟨st.negative, st.whole.reverse, none, none⟩ := by
  obtain ⟨noFraction, noPower⟩ := parts_of_scan whole h
  constructor
  · unfold NumberState.mayEnd
    rcases ends with hp | hp <;> rw [hp]
  · unfold NumberState.numeral
    rw [noFraction, noPower]
    rfl

/-- The digits that are left of a whole number, and blanks. -/
theorem scan_eq_whole {st : NumberState} (ends : st.phase = .zero ∨ st.phase = .whole)
    {cs : List Char} {n : Numeral} (whole : n.IsWhole) (h : scan (.number st) cs = [.number n]) :
    ∃ ds blanks, cs = ds ++ blanks ∧ (∀ c ∈ ds, c.isDigit = true) ∧
      (∀ c ∈ blanks, isSpace c = true) ∧ (st.phase = .zero → ds = []) ∧
      n = ⟨st.negative, st.whole.reverse ++ ds, none, none⟩ := by
  induction cs generalizing st with
  | nil =>
    obtain ⟨mayEnd, numeral⟩ := scan_whole_numeral ends whole h
    change (if st.mayEnd then [Token.number st.numeral] else _) = _ at h
    rw [if_pos mayEnd, numeral] at h
    cases h
    exact ⟨[], [], rfl, by simp, by simp, fun _ => rfl, by rw [List.append_nil]⟩
  | cons c cs ih =>
    cases hnext : st.next? c with
    | none =>
      -- The number is over, and what follows it has no tokens.
      have numeral := (scan_whole_numeral ends whole h).2
      rw [scan_cons, show (Mode.number st).step c cs = st.step c from rfl] at h
      unfold NumberState.step at h
      rw [hnext] at h
      dsimp only at h
      split at h
      · change Token.number st.numeral ::
          ((start c).tokens ++ ((start c).mode.map (scan · cs)).getD []) = _ at h
        rw [numeral] at h
        injection h with hn hrest
        cases hn
        have hblank : scan .between (c :: cs) = [] := (scan_cons _ c cs).trans hrest
        exact ⟨[], c :: cs, rfl, by simp, blank_of_scan hblank, fun _ => rfl,
          by rw [List.append_nil]⟩
      · exact absurd h (by simp [Step.stop])
    | some st' =>
      rw [scan_next hnext] at h
      obtain ⟨noFraction, noPower⟩ := parts_of_scan whole h
      obtain ⟨hphase, digit, rfl⟩ := NumberState.next?_whole ends hnext noFraction noPower
      obtain ⟨ds, blanks, rfl, hds, hblanks, -, hn⟩ :=
        @ih { st with whole := c :: st.whole } (Or.inr hphase) h
      refine ⟨c :: ds, blanks, rfl, List.forall_mem_cons.mpr ⟨digit, hds⟩, hblanks, ?_, ?_⟩
      · intro hzero
        exact absurd (hzero.symm.trans hphase) (by simp)
      · rw [List.reverse_cons, List.append_assoc] at hn
        exact hn

/-- A text that is read as one whole number without a sign. -/
theorem scan_eq_number {cs : List Char} {n : Numeral} (positive : n.negative = false)
    (whole : n.IsWhole) (h : scan .between cs = [.number n]) :
    ∃ before ds after, cs = before ++ (ds ++ after) ∧ (∀ c ∈ before, isSpace c = true) ∧
      (∀ c ∈ after, isSpace c = true) ∧ SpellsNumeral ds n := by
  induction cs with
  | nil => exact absurd h (by simp [scan, Mode.finish])
  | cons c cs ih =>
    rw [scan_cons] at h
    have hstart := begun_start c
    change (start c).tokens ++ ((start c).mode.map (scan · cs)).getD [] = _ at h
    generalize start c = step at h hstart
    cases hstart with
    | blank blank =>
      obtain ⟨before, ds, after, rfl, hbefore, hafter, hds⟩ := ih h
      exact ⟨c :: before, ds, after, rfl, List.forall_mem_cons.mpr ⟨blank, hbefore⟩, hafter, hds⟩
    | mark ht =>
      injection h with ht'
      rw [ht'] at ht
      exact absurd ht (by simp)
    | stray => exact absurd h (by simp [Step.stop])
    | quote hc =>
      obtain ⟨t, ts, hts, hyields⟩ := scan_busy (m := .text {}) rfl cs
      rw [show scan (.text {}) cs = [.number n] from h] at hts
      cases hts
      exact absurd hyields (by simp [Mode.Yields])
    | minus =>
      obtain ⟨t, ts, hts, hyields⟩ :=
        scan_busy (m := .number { negative := true, phase := .sign }) rfl cs
      rw [show scan (.number { negative := true, phase := .sign }) cs = [.number n] from h] at hts
      cases hts
      rcases hyields with ⟨n', hn', hnegative, -⟩ | ⟨k, s, hbroken⟩
      · cases hn'
        exact absurd (positive.symm.trans hnegative) (by simp)
      · exact absurd hbroken (by simp)
    | zero hc =>
      obtain ⟨ds, after, rfl, -, hafter, hds, hn⟩ := scan_eq_whole (Or.inl rfl) whole h
      rw [hds rfl] at hn ⊢
      exact ⟨[], ['0'], after, by rw [hc]; rfl, by simp, hafter, hn ▸ spelled_whole .zero⟩
    | digit digit hc =>
      obtain ⟨ds, after, rfl, hds, hafter, -, hn⟩ := scan_eq_whole (Or.inr rfl) whole h
      exact ⟨[], c :: ds, after, rfl, by simp, hafter,
        hn ▸ spelled_whole (.digits hc (List.forall_mem_cons.mpr ⟨digit, hds⟩))⟩
    | @word left t ht =>
      obtain ⟨t', ts, hts, hyields⟩ := scan_busy (m := .word left t) rfl cs
      rw [show scan (.word left t) cs = [.number n] from h] at hts
      cases hts
      rcases hyields with rfl | ⟨k, s, hbroken⟩
      · exact absurd ht (by simp)
      · exact absurd hbroken (by simp)

/-! ## Strings -/

/-- A string that breaks off is no string. -/
theorem not_broken {st : TextState} {f : Fault} {ts : List Token} {content : Option String} :
    st.breakOff f :: ts ≠ [.text content] := by
  simp [TextState.breakOff]

/-- The next digit of a hexadecimal escape. -/
theorem hex_of_scan {st : TextState} {left value : Nat} (phase : st.phase = .hex left value)
    {cs : List Char} {content : Option String} (h : scan (.text st) cs = [.text content]) :
    ∃ c d rest, cs = c :: rest ∧ Text.hexDigit? c = some d ∧
      scan (.text (if left ≤ 1 then st.unit (value * 16 + d)
        else { st with phase := .hex (left - 1) (value * 16 + d) })) rest = [.text content] := by
  cases cs with
  | nil => exact absurd h not_broken
  | cons c rest =>
    cases hd : Text.hexDigit? c with
    | none =>
      have hstep : (Mode.text st).step c rest = .stop (st.breakOff .malformed) := by
        show st.step c rest = _
        unfold TextState.step
        rw [phase]
        simp only [hd]
      rw [scan_cons, hstep] at h
      exact absurd h not_broken
    | some d =>
      refine ⟨c, d, rest, rfl, hd, ?_⟩
      rw [← h]
      have hstep := step_hex phase hd rest
      split
      · next last =>
        rw [if_pos last] at hstep
        exact (scan_go hstep).symm
      · next more =>
        rw [if_neg more] at hstep
        exact (scan_go hstep).symm

/-- What stands behind the backslash of an escape. -/
theorem escape_of_scan {st : TextState} {cs : List Char} {content : Option String}
    (h : scan (.text { st with phase := .escape }) cs = [.text content]) :
    ∃ p written rest, SpellsPiece ('\\' :: written) p ∧ cs = written ++ rest ∧
      scan (.text (st.take p)) rest = [.text content] := by
  cases cs with
  | nil => exact absurd h not_broken
  | cons c rest =>
    by_cases hu : c = 'u'
    · subst hu
      have hstep : (Mode.text { st with phase := .escape }).step 'u' rest =
          if fourBytesLeft rest then .go (.text { st with phase := .hex 4 0 })
          else .stop ({ st with phase := .escape }.breakOff .truncated) := rfl
      by_cases four : fourBytesLeft rest = true
      · rw [if_pos four] at hstep
        rw [scan_go hstep] at h
        obtain ⟨c₁, d₁, rest₁, rfl, h₁, h⟩ := hex_of_scan rfl h
        obtain ⟨c₂, d₂, rest₂, rfl, h₂, h⟩ := hex_of_scan rfl h
        obtain ⟨c₃, d₃, rest₃, rfl, h₃, h⟩ := hex_of_scan rfl h
        obtain ⟨c₄, d₄, rest₄, rfl, h₄, h⟩ := hex_of_scan rfl h
        refine ⟨_, ['u', c₁, c₂, c₃, c₄], rest₄, .hex h₁ h₂ h₃ h₄, rfl, ?_⟩
        rw [← TextState.take_of_phase st (.hex 1 _) (.unit _)]
        rw [Nat.zero_mul, Nat.zero_add] at h
        exact h
      · rw [if_neg four] at hstep
        rw [scan_cons, hstep] at h
        exact absurd h not_broken
    · cases escape : shortEscape? c with
      | none =>
        have hstep : (Mode.text { st with phase := .escape }).step c rest =
            .stop ({ st with phase := .escape }.breakOff .malformed) := by
          show TextState.step { st with phase := .escape } c rest = _
          unfold TextState.step
          dsimp only
          rw [if_neg hu, escape]
        rw [scan_cons, hstep] at h
        exact absurd h not_broken
      | some e =>
        have hstep : (Mode.text { st with phase := .escape }).step c rest =
            .go (.text ({ st with phase := .escape }.push e)) := by
          show TextState.step { st with phase := .escape } c rest = _
          unfold TextState.step
          dsimp only
          rw [if_neg hu, escape]
        rw [scan_go hstep] at h
        refine ⟨.char e, [c], rest, .short escape, rfl, ?_⟩
        rw [← TextState.take_of_phase st .escape (.char e)]
        exact h

/-- The pieces that are left of a string, its closing quote, and blanks. -/
theorem pieces_of_scan {st : TextState} (phase : st.phase = .plain) {cs : List Char}
    {content : Option String} (h : scan (.text st) cs = [.text content]) :
    ∃ written ps after, cs = written ++ '"' :: after ∧ SpellsPieces written ps ∧
      (∀ c ∈ after, isSpace c = true) ∧ (ps.foldl TextState.take st).close = .text content := by
  -- An escape is several characters, so the induction is on the length of the text.
  induction hlen : cs.length using Nat.strongRecOn generalizing cs st with
  | ind len ih =>
    cases cs with
    | nil => exact absurd h not_broken
    | cons c cs =>
      rw [List.length_cons] at hlen
      have hstep : (Mode.text st).step c cs =
          if c = '"' then .emit st.close
          else if c = '\\' then .go (.text { st with phase := .escape })
          else if c.toNat < 0x20 then .stop (st.dropHigh.breakOff .malformed)
          else .go (.text (st.push c)) := by
        show st.step c cs = _
        unfold TextState.step
        rw [phase]
      by_cases quote : c = '"'
      · rw [if_pos quote] at hstep
        rw [scan_cons, hstep] at h
        injection h with hclose hrest
        exact ⟨[], [], cs, by rw [quote]; rfl, .nil, blank_of_scan hrest, hclose⟩
      · rw [if_neg quote] at hstep
        by_cases slash : c = '\\'
        · rw [if_pos slash] at hstep
          rw [scan_go hstep] at h
          obtain ⟨p, escape, rest, hp, rfl, hrest⟩ := escape_of_scan h
          rw [List.length_append] at hlen
          obtain ⟨written, ps, after, rfl, hps, hafter, hclose⟩ :=
            ih rest.length (by omega) (st.take_phase p) hrest rfl
          refine ⟨('\\' :: escape) ++ written, p :: ps, after, ?_, .cons hp hps, hafter, hclose⟩
          rw [slash, List.append_assoc]
          rfl
        · rw [if_neg slash] at hstep
          by_cases control : c.toNat < 0x20
          · rw [if_pos control] at hstep
            rw [scan_cons, hstep] at h
            exact absurd h not_broken
          · rw [if_neg control] at hstep
            rw [scan_go hstep] at h
            obtain ⟨written, ps, after, rfl, hps, hafter, hclose⟩ :=
              ih cs.length (by omega) (st.take_phase (.char c)) h rfl
            exact ⟨[c] ++ written, .char c :: ps, after, rfl,
              .cons (.plain (Nat.le_of_not_lt control) quote slash) hps, hafter, hclose⟩

/-- A text that is read as one string. -/
theorem scan_eq_text {cs : List Char} {content : Option String}
    (h : scan .between cs = [.text content]) :
    ∃ before written after, cs = before ++ (written ++ after) ∧
      (∀ c ∈ before, isSpace c = true) ∧ (∀ c ∈ after, isSpace c = true) ∧
      SpellsText written content := by
  induction cs with
  | nil => exact absurd h (by simp [scan, Mode.finish])
  | cons c cs ih =>
    rw [scan_cons] at h
    have hstart := begun_start c
    change (start c).tokens ++ ((start c).mode.map (scan · cs)).getD [] = _ at h
    have number : ∀ st : NumberState, scan (.number st) cs ≠ [.text content] := by
      intro st hst
      obtain ⟨t, ts, hts, hyields⟩ := scan_busy (m := .number st) rfl cs
      rw [hst] at hts
      cases hts
      exact absurd hyields (by simp [Mode.Yields])
    generalize start c = step at h hstart
    cases hstart with
    | blank blank =>
      obtain ⟨before, written, after, rfl, hbefore, hafter, hw⟩ := ih h
      exact ⟨c :: before, written, after, rfl, List.forall_mem_cons.mpr ⟨blank, hbefore⟩, hafter,
        hw⟩
    | mark ht =>
      injection h with ht'
      rw [ht'] at ht
      exact absurd ht (by simp)
    | stray => exact absurd h (by simp [Step.stop])
    | minus => exact absurd h (number _)
    | zero => exact absurd h (number _)
    | digit => exact absurd h (number _)
    | quote hc =>
      obtain ⟨written, ps, after, rfl, hps, hafter, hclose⟩ := pieces_of_scan rfl h
      rw [TextState.close_taken] at hclose
      have hcontent : (said none ps).map String.ofList = content := Token.text.inj hclose
      refine ⟨[], '"' :: (written ++ ['"']), after, ?_, by simp, hafter, hcontent ▸ .quoted hps⟩
      rw [hc]
      simp
    | @word left t ht =>
      obtain ⟨t', ts, hts, hyields⟩ := scan_busy (m := .word left t) rfl cs
      rw [show scan (.word left t) cs = [.text content] from h] at hts
      cases hts
      rcases hyields with rfl | ⟨k, s, hbroken⟩
      · exact absurd ht (by simp)
      · exact absurd hbroken (by simp)

/-! ## One value -/

/-- Whether a value is an array or an object. -/
def Draft.IsContainer : Draft → Prop
  | .array _ _ | .object _ _ => True
  | _ => False

namespace Assembly

/-- Whether an array or an object has begun, so that the value will be one. -/
def Holds : Assembly → Prop
  | .value stack => stack ≠ []
  | .done v _ => v.IsContainer
  | _ => True

theorem isContainer_enclose {stack : List Frame} {v : Draft} (h : stack ≠ [] ∨ v.IsContainer) :
    (enclose stack v).IsContainer := by
  induction stack generalizing v with
  | nil => exact h.resolve_left (not_not_intro rfl)
  | cons frame stack ih =>
    cases frame with
    | item items => exact ih (Or.inr trivial)
    | member members name => exact ih (Or.inr trivial)

theorem holds_place {stack : List Frame} {v : Draft} (h : stack ≠ [] ∨ v.IsContainer) :
    (place stack v).Holds := by
  match stack with
  | [] => exact h.resolve_left (not_not_intro rfl)
  | .item items :: stack => exact trivial
  | .member members name :: stack => exact trivial

theorem holds_enter {stack : List Frame} (h : stack ≠ []) (t : Token) :
    (enter stack t).Holds := by
  cases t with
  | null | bool | number | text => exact holds_place (Or.inl h)
  | openArray | openObject => exact trivial
  | _ => exact isContainer_enclose (Or.inl h)

theorem Holds.feed {a : Assembly} (h : a.Holds) (t : Token) : (a.feed t).Holds := by
  have aborted : ∀ {stack : List Frame} {v : Draft}, v.IsContainer → (abort stack v).Holds :=
    fun hv => isContainer_enclose (Or.inr hv)
  have placed : ∀ {stack : List Frame} {v : Draft}, v.IsContainer → (place stack v).Holds :=
    fun hv => holds_place (Or.inr hv)
  have more : ∀ (frame : Frame) (stack : List Frame), frame :: stack ≠ [] :=
    fun frame stack => List.cons_ne_nil frame stack
  cases a with
  | value stack => exact holds_enter h t
  | firstItem stack =>
    by_cases ht : t = .closeArray
    · rw [ht]
      exact placed trivial
    · rw [feed_firstItem stack ht]
      exact holds_enter (more (.item []) stack) t
  | afterItem items stack =>
    cases t with
    | comma => exact more _ _
    | closeArray => exact placed trivial
    | _ => exact aborted trivial
  | firstName stack =>
    cases t with
    | closeObject => exact placed trivial
    | text name => exact trivial
    | _ => exact aborted trivial
  | nextName members stack =>
    cases t with
    | text name => exact trivial
    | _ => exact aborted trivial
  | colon members name stack =>
    cases t with
    | colon => exact more _ _
    | _ => exact aborted trivial
  | afterMember members stack =>
    cases t with
    | comma => exact trivial
    | closeObject => exact placed trivial
    | _ => exact aborted trivial
  | done v trailing =>
    rw [feed_done]
    exact h

theorem Holds.feedAll {a : Assembly} (h : a.Holds) (ts : List Token) : (a.feedAll ts).Holds := by
  induction ts generalizing a with
  | nil => exact h
  | cons t ts ih => exact ih (h.feed t)

theorem Holds.finish {a : Assembly} (h : a.Holds) : a.finish.1.IsContainer := by
  cases a with
  | value stack => exact isContainer_enclose (Or.inl h)
  | done v trailing => exact h
  | _ => exact isContainer_enclose (Or.inr trivial)

/-- Behind a complete value every token is too much. -/
theorem feedAll_done (v : Draft) (ts : List Token) :
    (Assembly.done v true).feedAll ts = .done v true := by
  induction ts with
  | nil => rfl
  | cons t ts ih =>
    show ((Assembly.done v true).feed t).feedAll ts = _
    rw [feed_done]
    exact ih

end Assembly

/-- A value that is no container and has nothing behind it is put together from its one
token, unless no value begins at all. -/
theorem lone_token {ts : List Token} {d : Draft} (simple : ¬ d.IsContainer)
    (h : ((Assembly.value []).feedAll ts).finish = (d, false)) :
    d = .absent .truncated ∨ ∃ t, ts = [t] ∧ enter [] t = .done d false := by
  match ts with
  | [] => exact Or.inl (congrArg Prod.fst h).symm
  | t :: ts =>
    right
    change ((enter [] t).feedAll ts).finish = (d, false) at h
    have begun : ¬ (enter [] t).Holds := by
      intro holds
      have hcontainer := (holds.feedAll ts).finish
      rw [h] at hcontainer
      exact simple hcontainer
    obtain ⟨v, trailing, hv⟩ : ∃ v trailing, enter [] t = .done v trailing := by
      cases t with
      | openArray | openObject => exact absurd trivial begun
      | _ => exact ⟨_, _, rfl⟩
    rw [hv] at h
    cases ts with
    | nil =>
      cases h
      exact ⟨t, rfl, hv⟩
    | cons t' ts =>
      change (((Assembly.done v trailing).feed t').feedAll ts).finish = (d, false) at h
      rw [feed_done, feedAll_done] at h
      exact absurd (congrArg Prod.snd h) (by simp [finish])

/-! ## The whole text -/

theorem spelled_between {cs : List Char} {d : Draft} (spelled : Spells cs (.value d))
    {before after : List Char} (hbefore : ∀ c ∈ before, isSpace c = true)
    (hafter : ∀ c ∈ after, isSpace c = true) :
    Spells (before ++ (cs ++ after)) (.value d) := by
  have behind : ∀ {cs : List Char}, Spells cs (.value d) → Spells (cs ++ after) (.value d) := by
    induction after with
    | nil =>
      intro cs h
      rw [List.append_nil]
      exact h
    | cons c after ih =>
      intro cs h
      obtain ⟨hc, hafter⟩ := List.forall_mem_cons.mp hafter
      have hmore := ih hafter (.blankAfter hc h)
      rw [List.append_assoc] at hmore
      exact hmore
  induction before with
  | nil => exact behind spelled
  | cons c before ih =>
    obtain ⟨hc, hbefore⟩ := List.forall_mem_cons.mp hbefore
    exact .blankBefore hc (ih hbefore)

/-- What is read as one whole number without a sign is a JSON text of it. -/
theorem source_of_number {cs : List Char} {n : Numeral} (positive : n.negative = false)
    (whole : n.IsWhole) (h : draft cs = (.number n, false)) :
    ∃ s : Source, s.chars = cs ∧ s.meaning = .number n := by
  rcases lone_token (d := .number n) id h with habsent | ⟨t, htokens, ht⟩
  · exact absurd habsent (by simp)
  · have htoken : t = .number n := by
      cases t with
      | number m =>
        cases ht
        rfl
      | _ => cases ht
    rw [htoken] at htokens
    obtain ⟨before, ds, after, rfl, hbefore, hafter, hds⟩ := scan_eq_number positive whole htokens
    exact ⟨⟨_, _, spelled_between (.number hds) hbefore hafter⟩, rfl, rfl⟩

/-- What is read as one string is a JSON text of it. -/
theorem source_of_text {cs : List Char} {content : Option String}
    (h : draft cs = (.text content, false)) :
    ∃ s : Source, s.chars = cs ∧ s.meaning = .text content := by
  rcases lone_token (d := .text content) id h with habsent | ⟨t, htokens, ht⟩
  · exact absurd habsent (by simp)
  · have htoken : t = .text content := by
      cases t with
      | text content' =>
        cases ht
        rfl
      | _ => cases ht
    rw [htoken] at htokens
    obtain ⟨before, written, after, rfl, hbefore, hafter, hw⟩ := scan_eq_text htokens
    exact ⟨⟨_, _, spelled_between (.text hw) hbefore hafter⟩, rfl, rfl⟩

end VoiceGateway.Json
