/-!
# Directories

A directory holds at most one value for each key. New keys go to the end, so the
order is that in which the keys present were first put.

> `find?_put`, `find?_remove`: a change of one key is seen under that key only.
> `find?_eq_some_iff`: what is found under a key are the entries with that key.
-/

namespace VoiceGateway

/-- A finite map, as its entries in order; no two have the same key. -/
structure Directory (κ ν : Type) where
  entries : List (κ × ν)
  nodup : (entries.map (·.1)).Nodup
deriving DecidableEq, Repr

namespace Directory

variable {κ ν : Type}

/-- The map without entries. -/
def empty : Directory κ ν := ⟨[], List.nodup_nil⟩

theorem nodup_filter (p : κ × ν → Bool) {l : List (κ × ν)} (h : (l.map (·.1)).Nodup) :
    ((l.filter p).map (·.1)).Nodup :=
  List.Nodup.sublist (List.filter_sublist.map _) h

variable [DecidableEq κ]

/-- The value under a key in a list of entries. -/
def lookup (key : κ) : List (κ × ν) → Option ν
  | [] => none
  | (k, v) :: rest => if k = key then some v else lookup key rest

/-- Replaces the value under a key, or adds the key at the end. -/
def replace (key : κ) (value : ν) : List (κ × ν) → List (κ × ν)
  | [] => [(key, value)]
  | (k, v) :: rest => if k = key then (k, value) :: rest else (k, v) :: replace key value rest

theorem mem_keys_replace (key k : κ) (value : ν) (l : List (κ × ν)) :
    k ∈ (replace key value l).map (·.1) ↔ k = key ∨ k ∈ l.map (·.1) := by
  induction l with
  | nil => simp [replace]
  | cons e rest ih =>
    obtain ⟨k', v⟩ := e
    rw [replace]
    split
    · next h =>
      subst h
      simp only [List.map_cons, List.mem_cons]
      constructor
      · exact Or.inr
      · rintro (h | h)
        · exact Or.inl h
        · exact h
    · simp only [List.map_cons, List.mem_cons, ih]
      exact or_left_comm

theorem nodup_replace (key : κ) (value : ν) {l : List (κ × ν)} (h : (l.map (·.1)).Nodup) :
    ((replace key value l).map (·.1)).Nodup := by
  induction l with
  | nil => simp [replace]
  | cons e rest ih =>
    obtain ⟨k, v⟩ := e
    rw [List.map_cons, List.nodup_cons] at h
    rw [replace]
    split
    · next hk =>
      rw [List.map_cons, List.nodup_cons]
      exact h
    · next hk =>
      rw [List.map_cons, List.nodup_cons, mem_keys_replace]
      refine ⟨?_, ih h.2⟩
      rintro (he | hm)
      · exact hk he
      · exact h.1 hm

/-- The value under a key. -/
def find? (d : Directory κ ν) (key : κ) : Option ν := lookup key d.entries

/-- Whether a key has a value. -/
def contains (d : Directory κ ν) (key : κ) : Bool := (d.find? key).isSome

/-- Sets the value under a key. -/
def put (d : Directory κ ν) (key : κ) (value : ν) : Directory κ ν :=
  ⟨replace key value d.entries, nodup_replace key value d.nodup⟩

/-- Takes a key and its value out. -/
def remove (d : Directory κ ν) (key : κ) : Directory κ ν :=
  ⟨d.entries.filter fun e => e.1 ≠ key, nodup_filter _ d.nodup⟩

/-- The number of keys. -/
def size (d : Directory κ ν) : Nat := d.entries.length

theorem lookup_replace (key key' : κ) (value : ν) (l : List (κ × ν)) :
    lookup key' (replace key value l) = if key = key' then some value else lookup key' l := by
  induction l with
  | nil => simp [replace, lookup]
  | cons e rest ih =>
    obtain ⟨k, v⟩ := e
    by_cases hk : k = key
    · subst hk
      by_cases h : k = key' <;> simp [replace, lookup, h]
    · by_cases h : k = key'
      · subst h
        simp [replace, lookup, hk, Ne.symm hk]
      · simp [replace, lookup, hk, h, ih]

theorem lookup_filter_ne (key key' : κ) (l : List (κ × ν)) :
    lookup key' (l.filter fun e => e.1 ≠ key) = if key = key' then none else lookup key' l := by
  induction l with
  | nil => simp [lookup]
  | cons e rest ih =>
    obtain ⟨k, v⟩ := e
    by_cases hk : k = key
    · subst hk
      by_cases h : k = key' <;> simp_all [lookup]
    · by_cases h : k = key'
      · subst h
        simp_all [lookup, Ne.symm hk]
      · simp_all [lookup]

theorem find?_put (d : Directory κ ν) (key key' : κ) (value : ν) :
    (d.put key value).find? key' = if key = key' then some value else d.find? key' :=
  lookup_replace key key' value d.entries

theorem find?_remove (d : Directory κ ν) (key key' : κ) :
    (d.remove key).find? key' = if key = key' then none else d.find? key' :=
  lookup_filter_ne key key' d.entries

theorem lookup_eq_some_iff {l : List (κ × ν)} (h : (l.map (·.1)).Nodup) (key : κ) (value : ν) :
    lookup key l = some value ↔ (key, value) ∈ l := by
  induction l with
  | nil => simp [lookup]
  | cons e rest ih =>
    obtain ⟨k, v⟩ := e
    rw [List.map_cons, List.nodup_cons] at h
    rw [lookup, List.mem_cons, Prod.mk.injEq]
    split
    · next hk =>
      subst hk
      -- The key stands here, so it stands nowhere in the rest.
      have hr : (k, value) ∉ rest := fun hm => h.1 (List.mem_map.mpr ⟨_, hm, rfl⟩)
      simp [hr, eq_comm]
    · next hk =>
      rw [ih h.2]
      constructor
      · exact Or.inr
      · rintro (⟨he, _⟩ | hm)
        · exact absurd he.symm hk
        · exact hm

theorem find?_eq_some_iff (d : Directory κ ν) (key : κ) (value : ν) :
    d.find? key = some value ↔ (key, value) ∈ d.entries :=
  lookup_eq_some_iff d.nodup key value

end Directory

end VoiceGateway
