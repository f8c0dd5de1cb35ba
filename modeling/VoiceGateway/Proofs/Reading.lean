/-!
# Reading in steps

When a reading in steps succeeds, and what the named values that were read have under a
name; for whatever is read.
-/

namespace VoiceGateway

/-! ## Results -/

section Results

variable {ε α β : Type}

/-- What is done in two steps succeeds if both do. -/
theorem bind_eq_ok {x : Except ε α} {f : α → Except ε β} {b : β} :
    (x >>= f) = .ok b ↔ ∃ a, x = .ok a ∧ f a = .ok b := by
  constructor
  · intro h
    cases x with
    | error e => cases h
    | ok a => exact ⟨a, rfl, h⟩
  · rintro ⟨a, rfl, h⟩
    exact h

theorem map_eq_ok {x : Except ε α} {f : α → β} {b : β} :
    x.map f = .ok b ↔ ∃ a, x = .ok a ∧ f a = b := by
  constructor
  · intro h
    cases x with
    | error e => cases h
    | ok a => exact ⟨a, rfl, Except.ok.inj h⟩
  · rintro ⟨a, rfl, rfl⟩
    rfl

/-- Putting a result somewhere and looking there. -/
theorem map_map_eq_self {f : α → β} {g : β → α} (h : ∀ a, g (f a) = a) (x : Except ε α) :
    (x.map f).map g = x := by
  cases x with
  | error e => rfl
  | ok a => exact congrArg Except.ok (h a)

/-- A step of a fold that goes well. -/
theorem foldlM_of_ok {f : α → β → Except ε α} {a a' : α} {b : β} (h : f a b = .ok a')
    (bs : List β) : (b :: bs).foldlM f a = bs.foldlM f a' := by
  rw [List.foldlM_cons, h]
  rfl

end Results

/-! ## Named values -/

section Entries

variable {α : Type} {entries : List (String × α)} {name : String}

theorem mem_of_lookup {v : α} (h : entries.lookup name = some v) : (name, v) ∈ entries := by
  obtain ⟨before, after, rfl, -⟩ := List.lookup_eq_some_iff.mp h
  exact List.mem_append_right _ List.mem_cons_self

theorem lookup_eq_none : entries.lookup name = none ↔ name ∉ entries.map (·.1) := by
  rw [List.lookup_eq_none_iff]
  constructor
  · intro h hmem
    obtain ⟨e, he, rfl⟩ := List.mem_map.mp hmem
    exact bne_iff_ne.mp (h e he) rfl
  · intro h e he
    exact bne_iff_ne.mpr fun hname => h (List.mem_map.mpr ⟨e, he, hname.symm⟩)

end Entries

end VoiceGateway
