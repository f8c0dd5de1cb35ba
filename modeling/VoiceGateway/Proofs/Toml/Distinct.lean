import Mathlib.Data.List.Nodup
import VoiceGateway.Proofs.Reading
import VoiceGateway.Toml.Reader

/-!
# A document gives every key once

What is read has no key twice, in no table that a path can lead to. Keys only come in
where they were looked for and not found: `Table.update` changes a value in place or adds
its key at the end (`update_cases`), and the other steps append under a key that is not
there. So every way to change a table keeps it (`Table.Keeps`), a line of a document
changes its table in one of these ways, and the lines start from the empty table.

> `read_distinct`: the tables of a document have distinct keys.
-/

namespace VoiceGateway.Toml

/-- No key is given twice, neither in the table nor in those below it. The items of arrays
are left aside, as no path leads into them. -/
inductive Distinct : Table → Prop
  | intro {t : Table} (keys : (t.map (·.1)).Nodup)
    (tables : ∀ key origin sub, (key, Value.table origin sub) ∈ t → Distinct sub)
    (rows : ∀ key subs, (key, Value.tables subs) ∈ t → ∀ sub ∈ subs, Distinct sub) : Distinct t

/-- The tables of a value have distinct keys. -/
def Value.Distinct : Value → Prop
  | .table _ sub => Toml.Distinct sub
  | .tables rows => ∀ row ∈ rows, Toml.Distinct row
  | _ => True

variable {t t' : Table} {key : String} {v : Value}

theorem distinct_iff : Distinct t ↔ (t.map (·.1)).Nodup ∧ ∀ e ∈ t, e.2.Distinct := by
  constructor
  · rintro ⟨keys, tables, rows⟩
    refine ⟨keys, fun ⟨key, v⟩ he => ?_⟩
    cases v with
    | table origin sub => exact tables key origin sub he
    | tables subs => exact rows key subs he
    | text | integer | float | bool | moment | array => trivial
  · rintro ⟨keys, values⟩
    exact ⟨keys, fun key origin sub he => values _ he, fun key subs he => values _ he⟩

theorem Distinct.nil : Distinct [] :=
  distinct_iff.mpr ⟨List.nodup_nil, fun _ he => absurd he List.not_mem_nil⟩

theorem Distinct.keys (h : Distinct t) : (t.map (·.1)).Nodup := (distinct_iff.mp h).1

theorem Distinct.value (h : Distinct t) {e : String × Value} (he : e ∈ t) : e.2.Distinct :=
  (distinct_iff.mp h).2 e he

/-! ## Changes of tables -/

theorem Distinct.append (h : Distinct t) (fresh : key ∉ t.map (·.1)) (hv : v.Distinct) :
    Distinct (t ++ [(key, v)]) := by
  refine distinct_iff.mpr ⟨?_, fun e he => ?_⟩
  · rw [List.map_append, List.map_singleton, ← List.concat_eq_append]
    exact h.keys.concat fresh
  · rcases List.mem_append.mp he with he | he
    · exact h.value he
    · rw [List.mem_singleton.mp he]
      exact hv

namespace Table

/-- An update changes the value of the key in place, or adds a key that is not there. -/
theorem update_cases {change : Option Value → Option Value}
    (h : update key change t = some t') :
    (∃ t₁ u t₂ w, t = t₁ ++ (key, u) :: t₂ ∧ change (some u) = some w ∧
      t' = t₁ ++ (key, w) :: t₂) ∨
    (key ∉ t.map (·.1) ∧ ∃ w, change none = some w ∧ t' = t ++ [(key, w)]) := by
  induction t generalizing t' with
  | nil =>
    obtain ⟨w, hw, rfl⟩ := Option.map_eq_some_iff.mp h
    exact .inr ⟨List.not_mem_nil, w, hw, rfl⟩
  | cons e t ih =>
    obtain ⟨k, u⟩ := e
    rw [update] at h
    split at h
    · next hk =>
      obtain ⟨w, hw, rfl⟩ := Option.map_eq_some_iff.mp h
      exact .inl ⟨[], u, t, w, by rw [hk]; rfl, hw, by rw [hk]; rfl⟩
    · next hk =>
      obtain ⟨s, hs, rfl⟩ := Option.map_eq_some_iff.mp h
      rcases ih hs with ⟨t₁, v, t₂, w, rfl, hw, rfl⟩ | ⟨fresh, w, hw, rfl⟩
      · exact .inl ⟨(k, u) :: t₁, v, t₂, w, rfl, hw, rfl⟩
      · refine .inr ⟨?_, w, hw, rfl⟩
        rw [List.map_cons, List.mem_cons, not_or]
        exact ⟨Ne.symm hk, fresh⟩

theorem distinct_update {change : Option Value → Option Value} (h : Distinct t)
    (added : ∀ w, change none = some w → w.Distinct)
    (changed : ∀ u w, u.Distinct → change (some u) = some w → w.Distinct)
    (hupdate : update key change t = some t') : Distinct t' := by
  rcases update_cases hupdate with ⟨t₁, u, t₂, w, rfl, hw, rfl⟩ | ⟨fresh, w, hw, rfl⟩
  · have hu : u.Distinct := h.value (List.mem_append_right _ List.mem_cons_self)
    refine distinct_iff.mpr ⟨?_, fun e he => ?_⟩
    · have hkeys := h.keys
      rw [List.map_append, List.map_cons] at hkeys ⊢
      exact hkeys
    · rcases List.mem_append.mp he with he | he
      · exact h.value (List.mem_append_left _ he)
      · rcases List.mem_cons.mp he with rfl | he
        · exact changed u w hu hw
        · exact h.value (List.mem_append_right _ (List.mem_cons_of_mem _ he))
  · exact h.append fresh (added w hw)

theorem distinct_insert (h : Distinct t) (hv : v.Distinct) (hinsert : t.insert key v = some t') :
    Distinct t' := by
  unfold insert at hinsert
  split at hinsert
  · cases hinsert
  · next hfresh =>
    cases hinsert
    refine h.append (fun hmem => hfresh ?_) hv
    obtain ⟨e, he, hk⟩ := List.mem_map.mp hmem
    exact List.any_eq_true.mpr ⟨e, he, beq_iff_eq.mpr hk⟩

/-- The change leaves distinct keys distinct. -/
def Keeps (change : Change) : Prop :=
  ∀ origin t t', Distinct t → change origin t = some t' → Distinct t'

/-- By induction on the path: on its way it updates one key of every table. -/
theorem keeps_descend {change : Change} (h : Keeps change) (dotted : Bool) (path : List String) :
    Keeps (descend dotted change path) := by
  induction path with
  | nil => exact h
  | cons key path ih =>
    intro origin t t' ht hdescend
    refine distinct_update ht (fun w hw => ?_) (fun u w hu hw => ?_) hdescend
    · obtain ⟨sub, hsub, rfl⟩ := Option.map_eq_some_iff.mp hw
      exact ih _ [] sub .nil hsub
    · cases u with
      | table origin sub =>
        simp only at hw
        split at hw
        · cases hw
        · obtain ⟨sub', hsub, rfl⟩ := Option.map_eq_some_iff.mp hw
          exact ih origin sub sub' hu hsub
      | tables rows =>
        simp only at hw
        cases hlast : rows.getLast? with
        | none =>
          rw [hlast] at hw
          cases hw
        | some row =>
          rw [hlast] at hw
          obtain ⟨row', hrow, rfl⟩ := Option.map_eq_some_iff.mp hw
          intro r hr
          rcases List.mem_append.mp hr with hr | hr
          · exact hu r (List.dropLast_subset rows hr)
          · rw [List.mem_singleton.mp hr]
            exact ih .header row row' (hu row (List.mem_of_getLast? hlast)) hrow
      | text | integer | float | bool | moment | array => cases hw

theorem distinct_insertDotted {path : List String} (h : Distinct t) (hv : v.Distinct)
    (hinsert : insertDotted path key v t = some t') : Distinct t' := by
  refine keeps_descend (fun origin sub sub' hsub hchange => ?_) true path .header t t' h hinsert
  split at hchange
  · cases hchange
  · exact distinct_insert hsub hv hchange

theorem distinct_insertUnder {header path : List String} (h : Distinct t) (hv : v.Distinct)
    (hinsert : insertUnder header path key v t = some t') : Distinct t' :=
  keeps_descend (fun _ _ _ hsub hchange => distinct_insertDotted hsub hv hchange)
    false header .header t t' h hinsert

theorem distinct_openTable {path : List String} (h : Distinct t)
    (hopen : openTable path key t = some t') : Distinct t' := by
  refine keeps_descend (fun _ sub sub' hsub hchange => ?_) false path .header t t' h hopen
  cases hlookup : sub.lookup key with
  | none =>
    rw [hlookup] at hchange
    cases hchange
    exact hsub.append (lookup_eq_none.mp hlookup) .nil
  | some v =>
    rw [hlookup] at hchange
    split at hchange
    · next heq => cases heq
    -- A table mentioned on the way moves to the end: it is taken out under its key first.
    · next entries heq =>
      cases heq
      cases hchange
      have hentries : Distinct entries := hsub.value (mem_of_lookup hlookup)
      have hothers : Distinct (sub.filter (·.1 != key)) :=
        distinct_iff.mpr ⟨hsub.keys.sublist (List.filter_sublist.map _),
          fun e he => hsub.value (List.mem_of_mem_filter he)⟩
      refine hothers.append (fun hmem => ?_) hentries
      obtain ⟨e, he, rfl⟩ := List.mem_map.mp hmem
      exact absurd (List.mem_filter.mp he).2 (by simp)
    · cases hchange

theorem distinct_openRow {path : List String} (h : Distinct t)
    (hopen : openRow path key t = some t') : Distinct t' := by
  refine keeps_descend (fun _ sub sub' hsub hchange => ?_) false path .header t t' h hopen
  refine distinct_update hsub (fun w hw => ?_) (fun u w hu hw => ?_) hchange
  · cases hw
    intro row hrow
    rw [List.mem_singleton.mp hrow]
    exact .nil
  · cases u with
    | tables rows =>
      cases hw
      intro row hrow
      rcases List.mem_append.mp hrow with hrow | hrow
      · exact hu row hrow
      · rw [List.mem_singleton.mp hrow]
        exact .nil
    | text | integer | float | bool | moment | array | table => cases hw

end Table

/-! ## Values -/

/-- Whatever is read has distinct keys. -/
def Tidy (reader : List Char → Option (Value × List Char)) : Prop :=
  ∀ cs v rest, reader cs = some (v, rest) → v.Distinct

theorem distinct_integer {negative : Bool} {size : Nat} (h : integer? negative size = some v) :
    v.Distinct := by
  unfold integer? at h
  split at h <;> split at h <;> cases h <;> trivial

theorem distinct_float {negative : Bool} {whole fraction : List Char} {power : Int}
    (h : float? negative whole fraction power = some v) : v.Distinct := by
  unfold float? at h
  simp only at h
  split at h
  · cases h
    trivial
  · split at h <;> cases h
    trivial

theorem tidy_readDecimal (negative : Bool) : Tidy (readDecimal negative) := by
  intro cs v rest h
  unfold readDecimal at h
  obtain ⟨⟨whole, _⟩, -, h⟩ := Option.bind_eq_some_iff.mp h
  obtain ⟨⟨fraction, _⟩, -, h⟩ := Option.bind_eq_some_iff.mp h
  obtain ⟨⟨power, _⟩, -, h⟩ := Option.bind_eq_some_iff.mp h
  simp only at h
  split at h
  · obtain ⟨w, hw, h⟩ := Option.bind_eq_some_iff.mp h
    cases h
    exact distinct_integer hw
  · obtain ⟨w, hw, h⟩ := Option.bind_eq_some_iff.mp h
    cases h
    exact distinct_float hw

theorem tidy_readUnsigned (negative : Bool) : Tidy (readUnsigned negative) := by
  intro cs v rest h
  unfold readUnsigned at h
  split at h
  · cases h
    trivial
  · cases h
    trivial
  · exact tidy_readDecimal negative _ _ _ h

theorem tidy_readNumber : Tidy readNumber := by
  intro cs v rest h
  unfold readNumber at h
  split at h
  · split at h
    · split at h
      · cases h
      · obtain ⟨w, hw, he⟩ := Option.map_eq_some_iff.mp h
        cases he
        exact distinct_integer hw
    · exact tidy_readUnsigned _ _ _ _ h
  · exact tidy_readUnsigned _ _ _ _ h

theorem tidy_readMoment : Tidy readMoment := by
  intro cs v rest h
  obtain ⟨r, -, he⟩ := Option.map_eq_some_iff.mp h
  cases he
  trivial

theorem distinct_readPair {reader : List Char → Option (Value × List Char)} (tidy : Tidy reader)
    {cs rest : List Char} {key : List String × String}
    (h : readPair reader cs = some (key, v, rest)) : v.Distinct := by
  unfold readPair at h
  obtain ⟨⟨_, _⟩, -, h⟩ := Option.bind_eq_some_iff.mp h
  obtain ⟨_, -, h⟩ := Option.bind_eq_some_iff.mp h
  obtain ⟨⟨w, _⟩, hw, h⟩ := Option.bind_eq_some_iff.mp h
  cases h
  exact tidy _ _ _ hw

theorem distinct_readEntries {reader : List Char → Option (Value × List Char)}
    (tidy : Tidy reader) {fuel : Nat} {cs rest : List Char} (h : Distinct t)
    (hread : readEntries reader fuel t cs = some (t', rest)) : Distinct t' := by
  induction fuel generalizing t cs with
  | zero => cases hread
  | succ fuel ih =>
    rw [readEntries] at hread
    split at hread
    · cases hread
    · next path key v afterValue hpair =>
      split at hread
      · cases hread
      · next s hinsert =>
        have hs : Distinct s :=
          Table.distinct_insertDotted h (distinct_readPair tidy hpair) hinsert
        split at hread
        · exact ih hs hread
        · cases hread
          exact hs
        · cases hread

/-- By induction on the depth: only inline tables have entries, and these are read at a
smaller depth. -/
theorem tidy_readValue (depth : Nat) : Tidy (readValue depth) := by
  induction depth using Nat.strongRecOn with
  | ind depth ih =>
  intro cs v rest h
  unfold readValue at h
  split at h
  -- text in either kind of quotes
  · obtain ⟨_, -, he⟩ := Option.map_eq_some_iff.mp h
    cases he
    trivial
  · obtain ⟨_, -, he⟩ := Option.map_eq_some_iff.mp h
    cases he
    trivial
  -- arrays
  · split at h
    · cases h
    · obtain ⟨_, -, he⟩ := Option.map_eq_some_iff.mp h
      cases he
      trivial
  -- inline tables
  · split at h
    · cases h
    · next depth =>
      split at h
      · cases h
        exact Distinct.nil
      · obtain ⟨_, hentries, he⟩ := Option.map_eq_some_iff.mp h
        cases he
        exact distinct_readEntries (ih depth (Nat.lt_succ_self depth)) .nil hentries
  -- truth values
  · cases h
    trivial
  · cases h
    trivial
  · split at h
    · next hmoment =>
      cases h
      exact tidy_readMoment _ _ _ hmoment
    · exact tidy_readNumber _ _ _ h

/-! ## Lines -/

section Lines

variable {d d' : Document} {cs rest : List Char}

theorem readHeader_distinct (h : Distinct d.root) (hread : readHeader d cs = some (d', rest)) :
    Distinct d'.root := by
  unfold readHeader at hread
  obtain ⟨⟨⟨_, _⟩, _⟩, -, hread⟩ := Option.bind_eq_some_iff.mp hread
  obtain ⟨_, -, hread⟩ := Option.bind_eq_some_iff.mp hread
  obtain ⟨_, -, hread⟩ := Option.bind_eq_some_iff.mp hread
  obtain ⟨root, hroot, hread⟩ := Option.bind_eq_some_iff.mp hread
  cases hread
  exact Table.distinct_openTable h hroot

theorem readRowHeader_distinct (h : Distinct d.root)
    (hread : readRowHeader d cs = some (d', rest)) : Distinct d'.root := by
  unfold readRowHeader at hread
  obtain ⟨⟨⟨_, _⟩, _⟩, -, hread⟩ := Option.bind_eq_some_iff.mp hread
  obtain ⟨_, -, hread⟩ := Option.bind_eq_some_iff.mp hread
  obtain ⟨_, -, hread⟩ := Option.bind_eq_some_iff.mp hread
  obtain ⟨_, -, hread⟩ := Option.bind_eq_some_iff.mp hread
  obtain ⟨root, hroot, hread⟩ := Option.bind_eq_some_iff.mp hread
  cases hread
  exact Table.distinct_openRow h hroot

theorem readEntry_distinct (h : Distinct d.root) (hread : readEntry d cs = some (d', rest)) :
    Distinct d'.root := by
  unfold readEntry at hread
  obtain ⟨⟨⟨_, _⟩, v, _⟩, hpair, hread⟩ := Option.bind_eq_some_iff.mp hread
  obtain ⟨_, -, hread⟩ := Option.bind_eq_some_iff.mp hread
  obtain ⟨root, hroot, hread⟩ := Option.bind_eq_some_iff.mp hread
  cases hread
  exact Table.distinct_insertUnder h (distinct_readPair (tidy_readValue _) hpair) hroot

theorem readLine_distinct (h : Distinct d.root) (hread : readLine d cs = some (d', rest)) :
    Distinct d'.root := by
  unfold readLine at hread
  split at hread
  · obtain ⟨_, -, he⟩ := Option.map_eq_some_iff.mp hread
    cases he
    exact h
  · exact readRowHeader_distinct h hread
  · exact readHeader_distinct h hread
  · cases hread
    exact h
  · cases hread
    exact h
  · exact readEntry_distinct h hread

theorem readLines_distinct {fuel : Nat} (h : Distinct d.root)
    (hread : readLines fuel d cs = some d') : Distinct d'.root := by
  induction fuel generalizing d cs with
  | zero => cases hread
  | succ fuel ih =>
    rw [readLines] at hread
    split at hread
    · cases hread
      exact h
    · split at hread
      · cases hread
      · next hline => exact ih (readLine_distinct h hline) hread

end Lines

/-- However a document opens its tables and gives its keys, it gives none twice. -/
theorem read_distinct {s : String} (h : read s = some t) : Distinct t := by
  obtain ⟨d, hd, rfl⟩ := Option.map_eq_some_iff.mp h
  exact readLines_distinct .nil hd

end VoiceGateway.Toml
