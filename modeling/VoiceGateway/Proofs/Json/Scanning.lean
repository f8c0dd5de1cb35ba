import VoiceGateway.Proofs.Json.Grammar

/-!
# The tokens of a JSON text

A text of the grammar is read as the tokens of what it says, and what stands behind it is
read as if it stood alone. A string, a word and a container say themselves where they end;
a number ends where something else begins, which is a blank, a comma, a colon, a closing
bracket or the end of the text.

> `scan_text`: a string in quotes is one token, whatever escapes it is written with.
> `scan_numeral`: a number is one token.
> `scan_phrase`: the tokens of a phrase.
-/

namespace VoiceGateway.Json

/-! ## Tokens of values -/

namespace Draft

mutual

/-- The tokens that a value consists of. -/
def tokens : Draft → List Token
  | .null => [.null]
  | .bool b => [.bool b]
  | .number n => [.number n]
  | .text content => [.text content]
  | .array items _ => .openArray :: tokensOfItems items ++ [.closeArray]
  | .object members _ => .openObject :: tokensOfMembers members ++ [.closeObject]
  | .absent _ => [.stray]
  | .brokenText k s => [.brokenText k s]
  | .broken k s => [.broken k s]

/-- The tokens of array items and of the commas between them. -/
def tokensOfItems : List Draft → List Token
  | [] => []
  | [d] => tokens d
  | d :: e :: ds => tokens d ++ .comma :: tokensOfItems (e :: ds)

/-- The tokens of object members and of the commas between them. -/
def tokensOfMembers : List (Option String × Draft) → List Token
  | [] => []
  | [(name, d)] => .text name :: .colon :: tokens d
  | (name, d) :: m :: ms => .text name :: .colon :: tokens d ++ .comma :: tokensOfMembers (m :: ms)

end

end Draft

def Phrase.tokens : Phrase → List Token
  | .value d => d.tokens
  | .items d ds => Draft.tokensOfItems (d :: ds)
  | .members m ms => Draft.tokensOfMembers (m :: ms)

/-- Whether a character may stand behind a number. -/
def isDelimiter (c : Char) : Bool :=
  isSpace c || c == ',' || c == ':' || c == ']' || c == '\x7d'

/-- Whether a text begins with what may stand behind a value. -/
def Delimits : List Char → Prop
  | [] => True
  | c :: _ => isDelimiter c = true

/-! ## One character -/

theorem scan_go {m m' : Mode} {c : Char} {cs : List Char} (h : m.step c cs = .go m') :
    scan m (c :: cs) = scan m' cs := by
  rw [scan_cons, h]
  rfl

/-- A blank between tokens is passed over. -/
theorem scan_blank {c : Char} (blank : isSpace c = true) (cs : List Char) :
    scan .between (c :: cs) = scan .between cs := by
  refine scan_go ?_
  show start c = _
  unfold start
  rw [if_pos blank]

theorem scan_blanks {blanks : List Char} (blank : ∀ c ∈ blanks, isSpace c = true)
    (rest : List Char) : scan .between (blanks ++ rest) = scan .between rest := by
  induction blanks with
  | nil => rfl
  | cons c blanks ih =>
    obtain ⟨hc, hblanks⟩ := List.forall_mem_cons.mp blank
    rw [List.cons_append, scan_blank hc]
    exact ih hblanks

/-! ## Strings -/

namespace TextState

variable {st : TextState}

/-- Takes in a piece of the string. -/
def take (st : TextState) : Piece → TextState
  | .char c => st.push c
  | .unit n => st.unit n

/-- A code unit behind the first half of a surrogate pair. -/
theorem unit_of_high {high : Nat} (waiting : st.high = some high) (n : Nat) :
    st.unit n =
      if isLow n then
        { st with chars := pairChar high n :: st.chars, high := none, phase := .plain }
      else { st.dropHigh with phase := .plain } := by
  unfold unit
  rw [waiting]
  rfl

theorem unit_of_none (waiting : st.high = none) (n : Nat) :
    st.unit n =
      if isHigh n then { st with high := some n, phase := .plain }
      else if isLow n then { st with lone := true, phase := .plain }
      else { st with chars := Char.ofNat n :: st.chars, phase := .plain } := by
  unfold unit
  rw [waiting]
  rfl

theorem take_phase (st : TextState) (p : Piece) : (st.take p).phase = .plain := by
  cases p with
  | char c => rfl
  | unit n =>
    show (st.unit n).phase = .plain
    cases waiting : st.high with
    | some high =>
      rw [unit_of_high waiting]
      by_cases low : isLow n = true
      · rw [if_pos low]
      · rw [if_neg low]
    | none =>
      rw [unit_of_none waiting]
      by_cases high : isHigh n = true
      · rw [if_pos high]
      · rw [if_neg high]
        by_cases low : isLow n = true
        · rw [if_pos low]
        · rw [if_neg low]

/-- What a piece does to the string does not depend on how it is written. -/
theorem take_of_phase (st : TextState) (phase : TextPhase) (p : Piece) :
    TextState.take { st with phase } p = st.take p := by
  obtain ⟨chars, high, lone, _⟩ := st
  cases p with
  | char c => cases high <;> rfl
  | unit n => cases high <;> rfl

/-- What a string says that is closed after some pieces. -/
theorem close_taken (st : TextState) (ps : List Piece) :
    (ps.foldl take st).close = .text (if st.lone then none else
      (said st.high ps).map fun cs => String.ofList (st.chars.reverse ++ cs)) := by
  induction ps generalizing st with
  | nil =>
    obtain ⟨chars, high, lone, phase⟩ := st
    cases high with
    | none =>
      show Token.text (if lone then none else some (String.ofList chars.reverse)) = _
      simp [said]
    | some high =>
      show Token.text none = _
      simp [said]
  | cons p ps ih =>
    -- Once half a pair stands alone, nothing behind it mends the string.
    rw [List.foldl_cons, ih]
    obtain ⟨chars, high, lone, phase⟩ := st
    cases p with
    | char c =>
      cases high with
      | none => simp [take, push, dropHigh, said, Function.comp_def]
      | some high => simp [take, push, dropHigh, said]
    | unit n =>
      cases high with
      | none =>
        show Token.text (if (TextState.unit _ n).lone then none else _) = _
        rw [take, unit_of_none rfl]
        by_cases high : isHigh n = true
        · simp [said, high]
        · by_cases low : isLow n = true
          · simp [said, high, low]
          · simp [said, high, low, Function.comp_def]
      | some high =>
        show Token.text (if (TextState.unit _ n).lone then none else _) = _
        rw [take, unit_of_high rfl]
        by_cases low : isLow n = true
        · simp [said, low, Function.comp_def]
        · simp [said, low, dropHigh]

end TextState

/-- Four characters are at least four bytes. -/
theorem fourBytesLeft_of_four (a b c d : Char) (rest : List Char) :
    fourBytesLeft (a :: b :: c :: d :: rest) = true := by
  have ha := a.utf8Size_pos
  have hb := b.utf8Size_pos
  have hc := c.utf8Size_pos
  have hd := d.utf8Size_pos
  show decide (4 ≤ 0 + a.utf8Size + b.utf8Size + c.utf8Size + d.utf8Size) = true
  rw [decide_eq_true_iff]
  omega

/-- The next digit of a hexadecimal escape. -/
theorem step_hex {st : TextState} {left value d : Nat} {c : Char}
    (phase : st.phase = .hex left value) (hd : Text.hexDigit? c = some d) (rest : List Char) :
    (Mode.text st).step c rest =
      if left ≤ 1 then .go (.text (st.unit (value * 16 + d)))
      else .go (.text { st with phase := .hex (left - 1) (value * 16 + d) }) := by
  show st.step _ _ = _
  unfold TextState.step
  rw [phase]
  simp only [hd]

theorem scan_hex {c₁ c₂ c₃ c₄ : Char} {d₁ d₂ d₃ d₄ : Nat} (h₁ : Text.hexDigit? c₁ = some d₁)
    (h₂ : Text.hexDigit? c₂ = some d₂) (h₃ : Text.hexDigit? c₃ = some d₃)
    (h₄ : Text.hexDigit? c₄ = some d₄) {st : TextState} (plain : st.phase = .plain)
    (rest : List Char) :
    scan (.text st) ('\\' :: 'u' :: c₁ :: c₂ :: c₃ :: c₄ :: rest) =
      scan (.text (st.unit (((d₁ * 16 + d₂) * 16 + d₃) * 16 + d₄))) rest := by
  have hslash : (Mode.text st).step '\\' ('u' :: c₁ :: c₂ :: c₃ :: c₄ :: rest) =
      .go (.text { st with phase := .escape }) := by
    show st.step _ _ = _
    unfold TextState.step
    rw [plain]
    rfl
  have hu : (Mode.text { st with phase := .escape }).step 'u' (c₁ :: c₂ :: c₃ :: c₄ :: rest) =
      .go (.text { st with phase := .hex 4 0 }) := by
    show (if fourBytesLeft _ then _ else _) = _
    rw [if_pos (fourBytesLeft_of_four _ _ _ _ _)]
  have hfirst : (Mode.text { st with phase := .hex 4 0 }).step c₁ (c₂ :: c₃ :: c₄ :: rest) =
      .go (.text { st with phase := .hex 3 d₁ }) := by
    rw [step_hex rfl h₁, if_neg (by decide), Nat.zero_mul, Nat.zero_add]
  have hsecond : (Mode.text { st with phase := .hex 3 d₁ }).step c₂ (c₃ :: c₄ :: rest) =
      .go (.text { st with phase := .hex 2 (d₁ * 16 + d₂) }) := by
    rw [step_hex rfl h₂, if_neg (by decide)]
  have hthird : (Mode.text { st with phase := .hex 2 (d₁ * 16 + d₂) }).step c₃ (c₄ :: rest) =
      .go (.text { st with phase := .hex 1 ((d₁ * 16 + d₂) * 16 + d₃) }) := by
    rw [step_hex rfl h₃, if_neg (by decide)]
  have hfourth : (Mode.text { st with phase := .hex 1 ((d₁ * 16 + d₂) * 16 + d₃) }).step c₄ rest =
      .go (.text (st.unit (((d₁ * 16 + d₂) * 16 + d₃) * 16 + d₄))) := by
    rw [step_hex rfl h₄, if_pos (by decide)]
    exact congrArg (fun st => Step.go (.text st)) (TextState.take_of_phase st _ (.unit _))
  rw [scan_go hslash, scan_go hu, scan_go hfirst, scan_go hsecond, scan_go hthird,
    scan_go hfourth]

theorem scan_piece {cs : List Char} {p : Piece} (h : SpellsPiece cs p) {st : TextState}
    (plain : st.phase = .plain) (rest : List Char) :
    scan (.text st) (cs ++ rest) = scan (.text (st.take p)) rest := by
  cases h with
  | @plain c printed quote slash =>
    refine scan_go ?_
    show st.step _ _ = _
    unfold TextState.step
    rw [plain]
    show (if c = '"' then _ else if c = '\\' then _ else if c.toNat < 0x20 then _ else _) = _
    rw [if_neg quote, if_neg slash, if_neg (Nat.not_lt.mpr printed)]
    rfl
  | @short letter c escape =>
    have hslash : (Mode.text st).step '\\' (letter :: rest) =
        .go (.text { st with phase := .escape }) := by
      show st.step _ _ = _
      unfold TextState.step
      rw [plain]
      rfl
    have hu : letter ≠ 'u' := by
      rintro rfl
      exact absurd (escape.symm.trans (show shortEscape? 'u' = none from rfl)) (by simp)
    have hletter : (Mode.text { st with phase := .escape }).step letter rest =
        .go (.text (st.push c)) := by
      show TextState.step { st with phase := .escape } letter rest = _
      unfold TextState.step
      dsimp only
      rw [if_neg hu, escape]
      exact congrArg (fun st => Step.go (.text st)) (TextState.take_of_phase st _ (.char c))
    show scan (.text st) ('\\' :: letter :: rest) = _
    rw [scan_go hslash, scan_go hletter]
    rfl
  | hex first second third fourth => exact scan_hex first second third fourth plain rest

theorem scan_pieces {cs : List Char} {ps : List Piece} (h : SpellsPieces cs ps) {st : TextState}
    (plain : st.phase = .plain) (rest : List Char) :
    scan (.text st) (cs ++ rest) = scan (.text (ps.foldl TextState.take st)) rest ∧
      (ps.foldl TextState.take st).phase = .plain := by
  induction h generalizing st with
  | nil => exact ⟨rfl, plain⟩
  | @cons cs cs' p ps first others ih =>
    rw [List.append_assoc, scan_piece first plain]
    exact ih (st.take_phase p)

/-- A string in quotes is one token. -/
theorem scan_text {cs : List Char} {content : Option String} (h : SpellsText cs content)
    (rest : List Char) : scan .between (cs ++ rest) = .text content :: scan .between rest := by
  cases h with
  | @quoted cs ps pieces =>
    obtain ⟨hpieces, plain⟩ := scan_pieces pieces (show ({} : TextState).phase = .plain from rfl)
      ('"' :: rest)
    have hclose : (Mode.text (ps.foldl TextState.take {})).step '"' rest =
        .emit (.text ((said none ps).map String.ofList)) := by
      show TextState.step _ _ _ = _
      unfold TextState.step
      rw [plain, TextState.close_taken]
      rfl
    show scan (.text {}) ((cs ++ ['"']) ++ rest) = _
    rw [List.append_assoc]
    show scan (.text {}) (cs ++ '"' :: rest) = _
    rw [hpieces, scan_cons, hclose]
    rfl

/-! ## Numbers -/

/-- A character that may stand behind a number does not go on with it. -/
theorem ne_of_delimiter {c : Char} (h : isDelimiter c = true) {x : Char}
    (hx : isDelimiter x = false) : c ≠ x := by
  rintro rfl
  exact absurd (h.symm.trans hx) (by simp)

theorem isDigit_of_delimiter {c : Char} (h : isDelimiter c = true) : c.isDigit = false := by
  unfold isDelimiter isSpace at h
  simp only [Bool.or_eq_true, beq_iff_eq] at h
  rcases h with ((((((rfl | rfl) | rfl) | rfl) | rfl) | rfl) | rfl) | rfl <;> rfl

theorem next?_of_delimiter {st : NumberState} (ends : st.mayEnd = true) {c : Char}
    (h : isDelimiter c = true) : st.next? c = none := by
  have hdigit : ¬ c.isDigit = true := by simp [isDigit_of_delimiter h]
  have hpoint : c ≠ '.' := ne_of_delimiter h rfl
  have hmark : ¬ (c = 'e' ∨ c = 'E') := not_or.mpr ⟨ne_of_delimiter h rfl, ne_of_delimiter h rfl⟩
  unfold NumberState.mayEnd at ends
  unfold NumberState.next?
  cases hp : st.phase with
  | zero =>
    dsimp only
    rw [if_neg hpoint, if_neg hmark]
  | whole =>
    dsimp only
    rw [if_neg hdigit, if_neg hpoint, if_neg hmark]
  | fraction =>
    dsimp only
    rw [if_neg hdigit, if_neg hmark]
  | power =>
    dsimp only
    rw [if_neg hdigit]
  | sign | point | mark | markSign =>
    rw [hp] at ends
    exact absurd ends (by simp)

/-- What may stand behind a number ends it. -/
theorem scan_number_end {st : NumberState} (ends : st.mayEnd = true) {rest : List Char}
    (h : Delimits rest) :
    scan (.number st) rest = .number st.numeral :: scan .between rest := by
  cases rest with
  | nil =>
    show (if st.mayEnd then _ else _) = _
    rw [if_pos ends]
    rfl
  | cons c rest =>
    have hstep : (Mode.number st).step c rest =
        { start c with tokens := .number st.numeral :: (start c).tokens } := by
      show st.step c = _
      unfold NumberState.step
      rw [next?_of_delimiter ends h, isDigit_of_delimiter h, Bool.and_false, ends]
      rfl
    -- The character that ends the number begins what follows it.
    rw [scan_cons, hstep, scan_cons]
    rfl

/-- A character that belongs to the number. -/
theorem scan_next {st st' : NumberState} {c : Char} (h : st.next? c = some st')
    (rest : List Char) : scan (.number st) (c :: rest) = scan (.number st') rest := by
  refine scan_go ?_
  show st.step c = _
  unfold NumberState.step
  rw [h]

/-- Digits go on with a part of a number as long as that part takes digits. -/
theorem scan_more (grow : List Char → NumberState)
    (more : ∀ (ds : List Char) (c : Char), c.isDigit = true →
      (grow ds).next? c = some (grow (c :: ds)))
    {cs : List Char} (digits : ∀ c ∈ cs, c.isDigit = true) (ds rest : List Char) :
    scan (.number (grow ds)) (cs ++ rest) = scan (.number (grow (cs.reverse ++ ds))) rest := by
  induction cs generalizing ds with
  | nil => rfl
  | cons c cs ih =>
    obtain ⟨hc, hcs⟩ := List.forall_mem_cons.mp digits
    rw [List.cons_append, scan_next (more ds c hc), ih hcs, List.reverse_cons, List.append_assoc]
    rfl

theorem ne_of_isDigit {c x : Char} (digit : c.isDigit = true) (hx : x.isDigit = false) :
    c ≠ x := by
  rintro rfl
  exact absurd (digit.symm.trans hx) (by simp)

/-- The digits of a power, from the first one on. -/
theorem scan_power_digits {st : NumberState} {c : Char} {cs : List Char}
    (first : st.next? c = some { st with power := [c], phase := .power })
    (digits : ∀ x ∈ c :: cs, x.isDigit = true) {rest : List Char} (h : Delimits rest) :
    scan (.number st) (c :: cs ++ rest) =
      .number { st with power := (c :: cs).reverse, phase := .power }.numeral ::
        scan .between rest := by
  have more : ∀ (ds : List Char) (x : Char), x.isDigit = true →
      NumberState.next? { st with power := ds, phase := .power } x =
        some { st with power := x :: ds, phase := .power } := by
    intro ds x hx
    show (if x.isDigit then _ else _) = _
    rw [if_pos hx]
  rw [List.cons_append, scan_next first,
    scan_more (fun ds => { st with power := ds, phase := .power }) more
      (fun x hx => digits x (List.mem_cons_of_mem c hx)) [c],
    scan_number_end rfl h, List.reverse_cons]

/-- The rest of a number behind its whole part and its fraction. -/
theorem scan_power {st : NumberState}
    (ends : st.phase = .zero ∨ st.phase = .whole ∨ st.phase = .fraction)
    (unmarked : st.hasPower = false) (unsigned : st.powerNegative = false) {ps : List Char}
    {power : Option (Bool × List Char)} (spelled : SpellsPower ps power) {rest : List Char}
    (h : Delimits rest) :
    scan (.number st) (ps ++ rest) =
      .number { st.numeral with power := power } :: scan .between rest := by
  have hnumeral : st.numeral = ⟨st.negative, st.whole.reverse, st.numeral.fraction, none⟩ := by
    unfold NumberState.numeral
    rw [unmarked]
    rfl
  have hmark : ∀ e, e = 'e' ∨ e = 'E' →
      st.next? e = some { st with hasPower := true, phase := .mark } := by
    rintro e (rfl | rfl) <;> unfold NumberState.next? <;> rcases ends with hp | hp | hp <;>
      rw [hp] <;> rfl
  cases spelled with
  | none =>
    have hend : st.mayEnd = true := by
      unfold NumberState.mayEnd
      rcases ends with hp | hp | hp <;> rw [hp]
    rw [List.nil_append, scan_number_end hend h, hnumeral]
  | @unsigned e c cs mark digits =>
    have digit : c.isDigit = true := digits c List.mem_cons_self
    have hfirst : NumberState.next? { st with hasPower := true, phase := .mark } c =
        some { st with hasPower := true, power := [c], phase := .power } := by
      show (if c = '+' then _ else if c = '-' then _ else if c.isDigit then _ else _) = _
      rw [if_neg (ne_of_isDigit digit rfl), if_neg (ne_of_isDigit digit rfl), if_pos digit]
    rw [List.cons_append, scan_next (hmark e mark), scan_power_digits hfirst digits h]
    simp [NumberState.numeral, unsigned]
  | @positive e c cs mark digits =>
    have digit : c.isDigit = true := digits c List.mem_cons_self
    have hfirst : NumberState.next? { st with hasPower := true, phase := .markSign } c =
        some { st with hasPower := true, power := [c], phase := .power } := by
      show (if c.isDigit then _ else _) = _
      rw [if_pos digit]
    rw [List.cons_append, List.cons_append, scan_next (hmark e mark), scan_next rfl,
      scan_power_digits hfirst digits h]
    simp [NumberState.numeral, unsigned]
  | @negative e c cs mark digits =>
    have digit : c.isDigit = true := digits c List.mem_cons_self
    have hfirst : NumberState.next?
          { st with hasPower := true, powerNegative := true, phase := .markSign } c = some
        { st with hasPower := true, powerNegative := true, power := [c], phase := .power } := by
      show (if c.isDigit then _ else _) = _
      rw [if_pos digit]
    rw [List.cons_append, List.cons_append, scan_next (hmark e mark), scan_next rfl,
      scan_power_digits hfirst digits h]
    simp [NumberState.numeral]

/-- The rest of a number behind its whole part. -/
theorem scan_fraction {negative : Bool} {whole : List Char} {phase : NumberPhase}
    (ends : phase = .zero ∨ phase = .whole) {fs ps : List Char} {fraction : Option (List Char)}
    {power : Option (Bool × List Char)} (fraction_spelled : SpellsFraction fs fraction)
    (power_spelled : SpellsPower ps power) {rest : List Char} (h : Delimits rest) :
    scan (.number { negative, whole, phase }) (fs ++ ps ++ rest) =
      .number ⟨negative, whole.reverse, fraction, power⟩ :: scan .between rest := by
  cases fraction_spelled with
  | none =>
    have ends' : phase = .zero ∨ phase = .whole ∨ phase = .fraction := by
      rcases ends with hp | hp
      · exact Or.inl hp
      · exact Or.inr (Or.inl hp)
    rw [List.nil_append, scan_power ends' rfl rfl power_spelled h]
    rfl
  | @some c cs digits =>
    have digit : c.isDigit = true := digits c List.mem_cons_self
    have hpoint : NumberState.next? { negative, whole, phase } '.' =
        some { negative, whole, hasFraction := true, phase := .point } := by
      rcases ends with rfl | rfl <;> rfl
    have hfirst : NumberState.next? { negative, whole, hasFraction := true, phase := .point } c =
        some { negative, whole, fraction := [c], hasFraction := true, phase := .fraction } := by
      show (if c.isDigit then _ else _) = _
      rw [if_pos digit]
    have more : ∀ (ds : List Char) (x : Char), x.isDigit = true → NumberState.next?
          { negative, whole, fraction := ds, hasFraction := true, phase := .fraction } x =
        some { negative, whole, fraction := x :: ds, hasFraction := true, phase := .fraction } := by
      intro ds x hx
      show (if x.isDigit then _ else _) = _
      rw [if_pos hx]
    rw [List.append_assoc, List.cons_append, List.cons_append, scan_next hpoint, scan_next hfirst,
      scan_more
        (fun ds => { negative, whole, fraction := ds, hasFraction := true, phase := .fraction })
        more (fun x hx => digits x (List.mem_cons_of_mem c hx)) [c],
      scan_power (Or.inr (Or.inr rfl)) rfl rfl power_spelled h]
    simp [NumberState.numeral]

/-- A digit is none of the characters that stand for something else. -/
theorem start_of_digit {c : Char} (digit : c.isDigit = true) (hc : c ≠ '0') :
    start c = .go (.number { whole := [c], phase := .whole }) := by
  have hspace : ¬ isSpace c = true := by
    simp [isSpace, ne_of_isDigit digit (x := ' ') rfl, ne_of_isDigit digit (x := '\n') rfl,
      ne_of_isDigit digit (x := '\t') rfl, ne_of_isDigit digit (x := '\r') rfl]
  unfold start
  rw [if_neg hspace]
  split
  case h_9 => exact absurd rfl hc
  case h_13 => rw [if_pos digit]
  -- The other characters that begin a token are no digits.
  all_goals exact absurd digit (by decide)

/-- A number, after its sign if it has one. -/
theorem scan_whole {m : Mode} {negative : Bool}
    (zero : ∀ cs, m.step '0' cs = .go (.number { negative, whole := ['0'], phase := .zero }))
    (digit : ∀ c cs, c.isDigit = true → c ≠ '0' →
      m.step c cs = .go (.number { negative, whole := [c], phase := .whole }))
    {whole fs ps : List Char} {fraction : Option (List Char)} {power : Option (Bool × List Char)}
    (whole_spelled : SpellsWhole whole) (fraction_spelled : SpellsFraction fs fraction)
    (power_spelled : SpellsPower ps power) {rest : List Char} (h : Delimits rest) :
    scan m (whole ++ (fs ++ ps) ++ rest) =
      .number ⟨negative, whole, fraction, power⟩ :: scan .between rest := by
  rw [List.append_assoc]
  cases whole_spelled with
  | zero =>
    show scan m ('0' :: (fs ++ ps ++ rest)) = _
    rw [scan_go (zero _), scan_fraction (Or.inl rfl) fraction_spelled power_spelled h]
    rfl
  | @digits c cs first digits =>
    have more : ∀ (ds : List Char) (x : Char), x.isDigit = true →
        NumberState.next? { negative, whole := ds, phase := .whole } x =
          some { negative, whole := x :: ds, phase := .whole } := by
      intro ds x hx
      show (if x.isDigit then _ else _) = _
      rw [if_pos hx]
    rw [List.cons_append, scan_go (digit c _ (digits c List.mem_cons_self) first),
      scan_more (fun ds => { negative, whole := ds, phase := .whole }) more
        (fun x hx => digits x (List.mem_cons_of_mem c hx)) [c],
      scan_fraction (Or.inr rfl) fraction_spelled power_spelled h]
    simp

/-- A number is one token. -/
theorem scan_numeral {cs : List Char} {n : Numeral} (spelled : SpellsNumeral cs n)
    {rest : List Char} (h : Delimits rest) :
    scan .between (cs ++ rest) = .number n :: scan .between rest := by
  cases spelled with
  | unsigned whole_spelled fraction_spelled power_spelled =>
    have hdigit : ∀ c cs, c.isDigit = true → c ≠ '0' →
        Mode.between.step c cs = .go (.number { whole := [c], phase := .whole }) :=
      fun c _ hd hc => start_of_digit hd hc
    exact scan_whole (fun _ => rfl) hdigit whole_spelled fraction_spelled power_spelled h
  | @negative whole fs ps _ _ whole_spelled fraction_spelled power_spelled =>
    have hdigit : ∀ c cs, c.isDigit = true → c ≠ '0' →
        (Mode.number { negative := true, phase := .sign }).step c cs =
          .go (.number { negative := true, whole := [c], phase := .whole }) := by
      intro c cs hd hc
      have hnext : NumberState.next? { negative := true, phase := .sign } c =
          some { negative := true, whole := [c], phase := .whole } := by
        show (if c = '0' then _ else if c.isDigit then _ else _) = _
        rw [if_neg hc, if_pos hd]
      show NumberState.step _ c = _
      unfold NumberState.step
      rw [hnext]
    rw [List.cons_append, scan_go (show Mode.between.step '-' _ =
      .go (.number { negative := true, phase := .sign }) from rfl)]
    exact scan_whole (fun _ => rfl) hdigit whole_spelled fraction_spelled power_spelled h

/-! ## Phrases -/

/-- A text of the grammar is read as the tokens of what it says. -/
theorem scan_phrase {cs : List Char} {p : Phrase} (spelled : Spells cs p) :
    ∀ {rest : List Char}, Delimits rest →
      scan .between (cs ++ rest) = p.tokens ++ scan .between rest := by
  -- What the grammar puts behind a value may stand behind a number, should the value be one.
  induction spelled with
  | nullWord | trueWord | falseWord => exact fun _ => rfl
  | number numeral => exact fun h => scan_numeral numeral h
  | text text => exact fun _ => scan_text text _
  | emptyArray blank =>
    intro rest h
    rw [List.cons_append, List.append_assoc]
    show Token.openArray :: scan .between (_ ++ ']' :: rest) = _
    rw [scan_blanks blank]
    rfl
  | array items ih =>
    intro rest h
    rw [List.cons_append, List.append_assoc]
    show Token.openArray :: scan .between (_ ++ ']' :: rest) = .openArray :: _ ++ _ ++ _
    rw [ih (show Delimits (']' :: rest) from rfl), List.append_assoc]
    rfl
  | emptyObject blank =>
    intro rest h
    rw [List.cons_append, List.append_assoc]
    show Token.openObject :: scan .between (_ ++ '\x7d' :: rest) = _
    rw [scan_blanks blank]
    rfl
  | object members ih =>
    intro rest h
    rw [List.cons_append, List.append_assoc]
    show Token.openObject :: scan .between (_ ++ '\x7d' :: rest) = .openObject :: _ ++ _ ++ _
    rw [ih (show Delimits ('\x7d' :: rest) from rfl), List.append_assoc]
    rfl
  | blankBefore blank value ih =>
    intro rest h
    rw [List.cons_append, scan_blank blank]
    exact ih h
  | @blankAfter c cs d blank value ih =>
    intro rest h
    have hblank : Delimits (c :: rest) := by
      show isDelimiter c = true
      simp [isDelimiter, blank]
    rw [List.append_assoc]
    show scan .between (cs ++ c :: rest) = _
    rw [ih hblank, scan_blank blank]
  | lastItem value ih => exact ih
  | @item cs cs' d d' ds value others ih ih' =>
    intro rest h
    rw [List.append_assoc]
    show scan .between (cs ++ ',' :: (cs' ++ rest)) = (d.tokens ++ .comma :: _) ++ _
    rw [ih (show Delimits (',' :: _) from rfl), List.append_assoc]
    show _ ++ Token.comma :: scan .between (cs' ++ rest) = _
    rw [ih' h]
    rfl
  | @lastMember cs cs' name d named value ih ih' =>
    intro rest h
    rw [List.append_assoc]
    show scan .between (cs ++ ':' :: (cs' ++ rest)) = _
    rw [ih (show Delimits (':' :: _) from rfl)]
    show Token.text name :: .colon :: scan .between (cs' ++ rest) = _
    rw [ih' h]
    rfl
  | @member cs cs' cs'' name d m ms named value others ih ih' ih'' =>
    intro rest h
    rw [List.append_assoc, List.cons_append, List.append_assoc, List.cons_append,
      ih (show Delimits (':' :: _) from rfl)]
    show Token.text name :: .colon :: scan .between (cs' ++ ',' :: (cs'' ++ rest)) =
      (.text name :: .colon :: d.tokens ++ .comma :: _) ++ _
    rw [ih' (show Delimits (',' :: _) from rfl), List.append_assoc]
    show _ :: _ :: (_ ++ Token.comma :: scan .between (cs'' ++ rest)) = _
    rw [ih'' h]
    rfl

end VoiceGateway.Json
