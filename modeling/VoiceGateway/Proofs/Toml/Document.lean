import VoiceGateway.Proofs.Reading
import VoiceGateway.Proofs.Toml.Numbers
import VoiceGateway.Proofs.Toml.Quoting

/-!
# Written documents are read back

A document of sections, each a header and lines with a key and a value, blank lines
between: line by line the reader adds to the table what the line says, a section always
at the end of the document and an entry always at the end of its section. So the table
is that of the sections in order, as long as no name is given twice.

A value counts as written if it is read from its text at the end of a line (`Written`);
strings, numbers and truth values are.

> `read_document`: a document is read from its text.
-/

namespace VoiceGateway.Toml

/-! ## Values -/

/-- At the end of a line the text is read as the value. -/
structure Written (cs : List Char) (v : Value) : Prop where
  reads : ∀ depth rest, readValue depth (cs ++ '\n' :: rest) = some (v, '\n' :: rest)
  visible : ∀ rest, skipGap (cs ++ '\n' :: rest) = cs ++ '\n' :: rest

theorem skipGap_of_head {c : Char} (h : isGap c = false) (cs : List Char) :
    skipGap (c :: cs) = c :: cs := by
  unfold skipGap
  rw [List.dropWhile_cons, h]
  rfl

theorem written_number {cs : List Char} {v : Value} (h : readNumber cs = some (v, []))
    (numeric : Numeric cs) : Written cs v where
  reads := readValue_number h numeric
  visible rest := by
    cases cs with
    | nil => rfl
    | cons c cs =>
      have hc := numeric.head c cs rfl
      refine skipGap_of_head ?_ _
      unfold isGap
      rw [Bool.or_eq_false_iff, beq_eq_false_iff_ne, beq_eq_false_iff_ne]
      constructor
      · rintro rfl
        exact hc (by decide)
      · rintro rfl
        exact hc (by decide)

theorem written_integer {n : Nat} (h : n < 0x8000000000000000) :
    Written (Decimal.digits n) (.integer n) :=
  written_number (readNumber_digits h)
    (numeric_of_digits (fun _ hc => Or.inl (Decimal.isDigit_of_mem_digits hc)) false)

theorem written_float {x : Float} (ordinary : ReadsBack x) : Written (writeFloat x) (.float x) :=
  written_number (readNumber_writeFloat ordinary) (numeric_writeFloat x)

theorem written_bool (b : Bool) : Written (writeBool b) (.bool b) where
  reads depth rest := by
    cases b with
    | true =>
      show readValue depth ('t' :: 'r' :: 'u' :: 'e' :: '\n' :: rest) = _
      unfold readValue
      rfl
    | false =>
      show readValue depth ('f' :: 'a' :: 'l' :: 's' :: 'e' :: '\n' :: rest) = _
      unfold readValue
      rfl
  visible rest := by
    cases b with
    | true => exact skipGap_of_head (by decide) _
    | false => exact skipGap_of_head (by decide) _

theorem written_text (s : String) : Written (writeText s) (.text s) where
  reads depth rest := by
    have hread := readText_writeText s rest
    obtain ⟨cs, h | h⟩ := writeText_head s
    · rw [h] at hread ⊢
      rw [List.cons_append] at hread ⊢
      unfold readValue
      simp only [hread, Option.map_some, String.ofList_toList]
    · rw [h] at hread ⊢
      rw [List.cons_append] at hread ⊢
      unfold readValue
      simp only [hread, Option.map_some, String.ofList_toList]
  visible rest := by
    obtain ⟨cs, h | h⟩ := writeText_head s
    · rw [h]
      exact skipGap_of_head (by decide) _
    · rw [h]
      exact skipGap_of_head (by decide) _

/-! ## Keys -/

/-- A key that needs no quotes. -/
structure Bare (key : String) : Prop where
  nonempty : key.toList ≠ []
  bare : ∀ c ∈ key.toList, isBareKey c = true

instance (key : String) : Decidable (Bare key) :=
  decidable_of_iff (key.toList ≠ [] ∧ key.toList.all isBareKey = true)
    ⟨fun h => ⟨h.1, List.all_eq_true.mp h.2⟩, fun h => ⟨h.nonempty, List.all_eq_true.mpr h.bare⟩⟩

/-- What may stand in a bare key is none of the characters that mean something. -/
theorem ne_of_isBareKey {c d : Char} (h : isBareKey c = true) (hd : isBareKey d = false) :
    c ≠ d := by
  rintro rfl
  exact absurd (h.symm.trans hd) (by simp)

theorem isGap_of_isBareKey {c : Char} (h : isBareKey c = true) : isGap c = false := by
  unfold isGap
  rw [Bool.or_eq_false_iff, beq_eq_false_iff_ne, beq_eq_false_iff_ne]
  exact ⟨ne_of_isBareKey h (by decide), ne_of_isBareKey h (by decide)⟩

theorem Bare.head {key : String} (h : Bare key) :
    ∃ c cs, key.toList = c :: cs ∧ isBareKey c = true := by
  cases hk : key.toList with
  | nil => exact absurd hk h.nonempty
  | cons c cs => exact ⟨c, cs, rfl, h.bare c (hk ▸ List.mem_cons_self)⟩

theorem Bare.visible {key : String} (h : Bare key) (rest : List Char) :
    skipGap (key.toList ++ rest) = key.toList ++ rest := by
  obtain ⟨c, cs, hk, hc⟩ := h.head
  rw [hk]
  exact skipGap_of_head (isGap_of_isBareKey hc) _

/-- A bare key ends where something else begins. -/
theorem readKeyPart_bare {key : String} (h : Bare key) {x : Char} (stop : isBareKey x = false)
    (rest : List Char) : readKeyPart (key.toList ++ x :: rest) = some (key, x :: rest) := by
  have htake : (key.toList ++ x :: rest).takeWhile isBareKey = key.toList := by
    rw [List.takeWhile_append_of_pos h.bare, List.takeWhile_cons_of_neg (by simp [stop]),
      List.append_nil]
  have hdrop : (key.toList ++ x :: rest).dropWhile isBareKey = x :: rest := by
    rw [List.dropWhile_append_of_pos h.bare, List.dropWhile_cons_of_neg (by simp [stop])]
  obtain ⟨c, cs, hk, hc⟩ := h.head
  have hquote : ¬ (c = '"' ∨ c = '\x27') := by
    rintro (rfl | rfl)
    · exact absurd hc (by decide)
    · exact absurd hc (by decide)
  unfold readKeyPart
  split
  · next d t he =>
    have hd : d = c := by
      rw [hk] at he
      exact (List.cons.inj he).1.symm
    rw [hd, if_neg hquote, htake, hdrop, if_neg (by simp [h.nonempty]), String.ofList_toList]
  · next he => exact absurd he (by simp)

/-- A bare key without dots is the only part of its path. -/
theorem readKey_bare {key : String} (h : Bare key) {x y : Char} {rest more : List Char}
    (stop : isBareKey x = false) (gap : skipGap (x :: rest) = y :: more) (dot : y ≠ '.') :
    readKey (key.toList ++ x :: rest) = some (([], key), y :: more) := by
  have hparts : ∀ fuel, readKeyParts (fuel + 1) (key.toList ++ x :: rest) =
      some ([key], y :: more) := by
    intro fuel
    rw [readKeyParts, h.visible, readKeyPart_bare h stop]
    simp only [Option.bind_eq_bind, Option.bind_some, gap]
    split
    · next he => exact absurd (List.cons.inj he).1 dot
    · rfl
  unfold readKey
  rw [show nestingLimit - 1 = 78 + 1 from rfl, hparts]
  rfl

/-! ## Tables that grow at their end -/

theorem update_last {t : Table} {key : String} {change : Option Value → Option Value}
    {v w : Value} (fresh : key ∉ t.map (·.1)) (h : change (some v) = some w) :
    Table.update key change (t ++ [(key, v)]) = some (t ++ [(key, w)]) := by
  induction t with
  | nil =>
    show Table.update key change [(key, v)] = _
    rw [Table.update, if_pos rfl, h]
    rfl
  | cons e t ih =>
    obtain ⟨k, u⟩ := e
    rw [List.map_cons, List.mem_cons, not_or] at fresh
    show Table.update key change ((k, u) :: (t ++ [(key, v)])) = _
    rw [Table.update, if_neg (Ne.symm fresh.1), ih fresh.2]
    rfl

/-- A table that was not mentioned is opened at the end. -/
theorem openTable_fresh {t : Table} {name : String} (fresh : name ∉ t.map (·.1)) :
    t.openTable [] name = some (t ++ [(name, .table .header [])]) := by
  unfold Table.openTable
  rw [Table.descend, lookup_eq_none.mpr fresh]

/-- An entry with a new key goes to the end of the table opened last. -/
theorem insertUnder_last {t sub : Table} {name key : String} (v : Value)
    (freshName : name ∉ t.map (·.1)) (freshKey : key ∉ sub.map (·.1)) :
    Table.insertUnder [name] [] key v (t ++ [(name, .table .header sub)]) =
      some (t ++ [(name, .table .header (sub ++ [(key, v)]))]) := by
  have hinsert : Table.insertDotted [] key v sub = some (sub ++ [(key, v)]) := by
    unfold Table.insertDotted Table.insert
    rw [Table.descend, if_neg (by simp), if_neg]
    rw [List.any_eq_true]
    rintro ⟨e, he, hk⟩
    exact freshKey (eq_of_beq hk ▸ List.mem_map_of_mem he)
  unfold Table.insertUnder
  rw [Table.descend]
  refine update_last freshName ?_
  show (if _ then none else _) = _
  rw [if_neg (by simp), Table.descend, hinsert]
  rfl

/-! ## Lines -/

/-- A key, the text of its value and the value. -/
structure Entry where
  key : String
  text : List Char
  value : Value

namespace Entry

def line (e : Entry) : List Char := entryLine e.key e.text

/-- The line of the entry can be read. -/
structure Legible (e : Entry) : Prop where
  bare : Bare e.key
  written : Written e.text e.value

end Entry

theorem readLineEnd_newline (cs : List Char) : readLineEnd ('\n' :: cs) = some cs := rfl

/-- A line that begins with none of the marks is an entry. -/
theorem readLine_bare {c : Char} (hc : isBareKey c = true) (d : Document) (cs : List Char) :
    readLine d (c :: cs) = readEntry d (c :: cs) := by
  have hcomment : c ≠ '#' := ne_of_isBareKey hc (by decide)
  have hheader : c ≠ '[' := ne_of_isBareKey hc (by decide)
  have hblank : c ≠ '\n' := ne_of_isBareKey hc (by decide)
  have hreturn : c ≠ '\r' := ne_of_isBareKey hc (by decide)
  unfold readLine
  split
  · next he => exact absurd (List.cons.inj he).1 hcomment
  · next he => exact absurd (List.cons.inj he).1 hheader
  · next he => exact absurd (List.cons.inj he).1 hheader
  · next he => exact absurd (List.cons.inj he).1 hblank
  · next he => exact absurd (List.cons.inj he).1 hreturn
  · rfl

theorem readLine_entry {e : Entry} (h : e.Legible) (d : Document) {t : Table}
    (insert : d.root.insertUnder d.header [] e.key e.value = some t) (rest : List Char) :
    readLine d (e.line ++ rest) = some (⟨t, d.header⟩, rest) := by
  have hline : e.line ++ rest =
      e.key.toList ++ ' ' :: '=' :: ' ' :: (e.text ++ '\n' :: rest) := by
    simp [Entry.line, entryLine]
  have hkey : readKey (e.line ++ rest) =
      some (([], e.key), '=' :: ' ' :: (e.text ++ '\n' :: rest)) := by
    rw [hline]
    exact readKey_bare h.bare (by decide) rfl (by decide)
  have hpair : readPair (readValue (nestingLimit - 1)) (e.line ++ rest) =
      some (([], e.key), e.value, '\n' :: rest) := by
    unfold readPair
    rw [hkey]
    show (readValue _ (skipGap (e.text ++ '\n' :: rest))).bind _ = _
    rw [h.written.visible, h.written.reads]
    rfl
  obtain ⟨c, cs, hc, bare⟩ := h.bare.head
  have hentry : readLine d (e.line ++ rest) = readEntry d (e.line ++ rest) := by
    rw [hline, hc]
    exact readLine_bare bare d _
  rw [hentry]
  unfold readEntry
  rw [hpair]
  simp only [Option.bind_eq_bind, Option.bind_some, readLineEnd_newline, insert]
  rfl

theorem readLine_header {name : String} (h : Bare name) (d : Document) {t : Table}
    (opened : d.root.openTable [] name = some t) (rest : List Char) :
    readLine d (headerLine name ++ rest) = some (⟨t, [name]⟩, rest) := by
  have hline : headerLine name ++ rest = '[' :: (name.toList ++ ']' :: '\n' :: rest) := by
    simp [headerLine]
  have hkey : readKey (name.toList ++ ']' :: '\n' :: rest) =
      some (([], name), ']' :: '\n' :: rest) :=
    readKey_bare h (by decide) rfl (by decide)
  have hheader : readLine d (headerLine name ++ rest) =
      readHeader d (name.toList ++ ']' :: '\n' :: rest) := by
    obtain ⟨c, cs, hc, bare⟩ := h.head
    have hrow : c ≠ '[' := ne_of_isBareKey bare (by decide)
    rw [hline, hc]
    unfold readLine
    split
    · next he => exact absurd (List.cons.inj he).1 (by decide)
    · next he => exact absurd (List.cons.inj (List.cons.inj he).2).1 hrow
    · next he => rw [(List.cons.inj he).2]
    · next he => exact absurd (List.cons.inj he).1 (by decide)
    · next he => exact absurd (List.cons.inj he).1 (by decide)
    · next hno _ _ => exact absurd rfl (hno _)
  rw [hheader]
  unfold readHeader
  rw [hkey]
  have hbracket : readChar ']' (']' :: '\n' :: rest) = some ('\n' :: rest) := rfl
  simp only [Option.bind_eq_bind, Option.bind_some, hbracket, readLineEnd_newline, opened]
  rfl

/-! ## Sections -/

/-- A header and the entries under it. -/
structure Part where
  name : String
  entries : List Entry

namespace Part

def lines (p : Part) : List Char := headerLine p.name ++ p.entries.flatMap Entry.line

def table (p : Part) : Table := p.entries.map fun e => (e.key, e.value)

structure Legible (p : Part) : Prop where
  bare : Bare p.name
  entries : ∀ e ∈ p.entries, e.Legible
  distinct : (p.entries.map (·.key)).Nodup

end Part

/-- A section after the other, with a blank line between. -/
def documentText (first : Part) (others : List Part) : List Char :=
  first.lines ++ others.flatMap fun p => '\n' :: p.lines

/-- What a document of sections says. -/
def documentTable (parts : List Part) : Table :=
  parts.map fun p => (p.name, .table .header p.table)

/-- From this document the lines lead to the table, given fuel for each. -/
def LeadsTo (d : Document) (cs : List Char) (t : Table) : Prop :=
  ∀ fuel, cs.length < fuel → (readLines fuel d cs).map (·.root) = some t

theorem leadsTo_end (t : Table) (header : List String) : LeadsTo ⟨t, header⟩ [] t := by
  intro fuel hfuel
  cases fuel with
  | zero => exact absurd hfuel (Nat.lt_irrefl 0)
  | succ fuel => rfl

theorem leadsTo_line {d d' : Document} {c : Char} {cs rest : List Char} {t : Table}
    (visible : isGap c = false) (line : readLine d (c :: cs) = some (d', rest))
    (shorter : rest.length ≤ cs.length) (h : LeadsTo d' rest t) : LeadsTo d (c :: cs) t := by
  intro fuel hfuel
  cases fuel with
  | zero => exact absurd hfuel (Nat.not_lt_zero _)
  | succ fuel =>
    have hrest : rest.length < fuel :=
      Nat.lt_of_le_of_lt shorter (Nat.lt_of_succ_lt_succ hfuel)
    rw [readLines, skipGap_of_head visible]
    simp only [line]
    exact h fuel hrest

/-- The entries of the section opened last are added to it in their order. -/
theorem leadsTo_entries {name : String} {done t : Table} (fresh : name ∉ done.map (·.1))
    {rest : List Char} (entries : List Entry) (sub : Table)
    (legible : ∀ e ∈ entries, e.Legible)
    (distinct : (sub.map (·.1) ++ entries.map (·.key)).Nodup)
    (h : LeadsTo ⟨done ++ [(name, .table .header (sub ++ entries.map fun e => (e.key, e.value)))],
      [name]⟩ rest t) :
    LeadsTo ⟨done ++ [(name, .table .header sub)], [name]⟩
      (entries.flatMap Entry.line ++ rest) t := by
  induction entries generalizing sub with
  | nil =>
    rw [List.map_nil, List.append_nil] at h
    exact h
  | cons e entries ih =>
    have hlegible : e.Legible := legible e List.mem_cons_self
    have hfresh : e.key ∉ sub.map (·.1) := fun hmem =>
      (List.nodup_append.mp distinct).2.2 e.key hmem e.key List.mem_cons_self rfl
    have hnext : LeadsTo ⟨done ++ [(name, .table .header (sub ++ [(e.key, e.value)]))], [name]⟩
        (entries.flatMap Entry.line ++ rest) t := by
      refine ih (sub ++ [(e.key, e.value)])
        (fun f hf => legible f (List.mem_cons_of_mem _ hf)) ?_ ?_
      · rw [List.map_append, List.append_assoc]
        exact distinct
      · rw [List.append_assoc]
        exact h
    have hread := readLine_entry hlegible ⟨done ++ [(name, .table .header sub)], [name]⟩
      (insertUnder_last e.value fresh hfresh) (entries.flatMap Entry.line ++ rest)
    rw [List.flatMap_cons, List.append_assoc]
    obtain ⟨c, cs, hc, bare⟩ := hlegible.bare.head
    have hline : ∃ more, e.line ++ (entries.flatMap Entry.line ++ rest) = c :: more ∧
        (entries.flatMap Entry.line ++ rest).length ≤ more.length := by
      refine ⟨cs ++ " = ".toList ++ e.text ++ ['\n'] ++ (entries.flatMap Entry.line ++ rest),
        ?_, ?_⟩
      · rw [Entry.line, entryLine, hc]
        rfl
      · exact (List.suffix_append _ _).length_le
    obtain ⟨more, hmore, hlength⟩ := hline
    rw [hmore] at hread ⊢
    exact leadsTo_line (isGap_of_isBareKey bare) hread hlength hnext

/-- A section is added at the end of the document. -/
theorem leadsTo_part {p : Part} (legible : p.Legible) {done t : Table}
    (fresh : p.name ∉ done.map (·.1)) {header : List String} {rest : List Char}
    (h : LeadsTo ⟨done ++ [(p.name, .table .header p.table)], [p.name]⟩ rest t) :
    LeadsTo ⟨done, header⟩ (p.lines ++ rest) t := by
  have hentries := leadsTo_entries fresh p.entries [] legible.entries legible.distinct h
  have hread := readLine_header legible.bare ⟨done, header⟩ (openTable_fresh fresh)
    (p.entries.flatMap Entry.line ++ rest)
  have hlines : p.lines ++ rest =
      '[' :: (p.name.toList ++ [']', '\n'] ++ (p.entries.flatMap Entry.line ++ rest)) := by
    simp [Part.lines, headerLine]
  rw [hlines]
  exact leadsTo_line (by decide) hread (List.suffix_append _ _).length_le hentries

theorem leadsTo_others (others : List Part) (legible : ∀ p ∈ others, p.Legible) (done : Table)
    (distinct : (done.map (·.1) ++ others.map (·.name)).Nodup) (header : List String) :
    LeadsTo ⟨done, header⟩ (others.flatMap fun p => '\n' :: p.lines)
      (done ++ documentTable others) := by
  induction others generalizing done header with
  | nil =>
    show LeadsTo _ [] (done ++ [])
    rw [List.append_nil]
    exact leadsTo_end done header
  | cons p others ih =>
    have hfresh : p.name ∉ done.map (·.1) := fun hmem =>
      (List.nodup_append.mp distinct).2.2 p.name hmem p.name List.mem_cons_self rfl
    have hnext := ih (fun q hq => legible q (List.mem_cons_of_mem _ hq))
      (done ++ [(p.name, .table .header p.table)]) (by
        rw [List.map_append, List.append_assoc]
        exact distinct) [p.name]
    rw [List.append_assoc] at hnext
    rw [List.flatMap_cons, List.cons_append]
    exact leadsTo_line (by decide) rfl (Nat.le_refl _)
      (leadsTo_part (legible p List.mem_cons_self) hfresh hnext)

/-- A document is read from its text. -/
theorem read_document (first : Part) (others : List Part)
    (legible : ∀ p ∈ first :: others, p.Legible)
    (distinct : ((first :: others).map (·.name)).Nodup) :
    read (String.ofList (documentText first others)) = some (documentTable (first :: others)) := by
  have hothers := leadsTo_others others (fun p hp => legible p (List.mem_cons_of_mem _ hp))
    [(first.name, .table .header first.table)] distinct [first.name]
  have hdocument : LeadsTo {} (documentText first others) (documentTable (first :: others)) :=
    leadsTo_part (legible first List.mem_cons_self) List.not_mem_nil hothers
  have hmark : skipMark (documentText first others) = documentText first others := rfl
  unfold read
  rw [String.toList_ofList, hmark]
  exact hdocument _ (Nat.lt_succ_self _)

end VoiceGateway.Toml
