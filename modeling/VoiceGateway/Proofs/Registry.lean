import Mathlib.Data.List.Basic
import Mathlib.Data.List.Perm.Basic
import VoiceGateway.Registry

/-!
# What registries keep

A registry changes in two ways only: a session is registered, or one is evicted.
Both keep it *lawful*: what a guild has is a session of that guild, marked as
connected, and every session that is marked as connected is what its guild has.
So being connected and being registered are the same, object by object.

Between an earlier registry and a later one nothing is forgotten (`Evolves`): a
session keeps its place and its facts, and one that is disconnected stays so.

> `Lawful.connected_iff`: a session is connected exactly while its guild has it.
> `Lawful.not_registered`: a disconnected session is what no guild has.
> `Lawful.list_guilds`, `Lawful.of_mem_list`: the list shows every guild that has
> a session once, and every session in it is connected.
-/

namespace VoiceGateway

namespace Registry

/-! ## The two operations, case by case -/

theorem tryRegister_of_some {r : Registry} {x : Session} {w : SessionRef}
    (h : r.get? x.guild = some w) : r.tryRegister x = (.lost w, r) := by
  unfold tryRegister
  rw [h]

theorem tryRegister_of_none {r : Registry} {x : Session} (h : r.get? x.guild = none) :
    r.tryRegister x =
      (.won r.nextRef, ⟨r.records ++ [⟨x, .connected⟩], r.byGuild.put x.guild r.nextRef⟩) := by
  unfold tryRegister
  rw [h]

theorem evict_of_none {r : Registry} {g : Snowflake} (h : r.get? g = none) :
    r.evict g = (false, r) := by
  unfold evict
  rw [h]

theorem evict_of_some {r : Registry} {g : Snowflake} {s : SessionRef} (h : r.get? g = some s) :
    r.evict g = (true, { r with byGuild := r.byGuild.remove g }.markDisconnected s) := by
  unfold evict
  rw [h]

theorem get?_tryRegister_of_ne {r : Registry} {x : Session} {g : Snowflake} (h : x.guild ≠ g) :
    (r.tryRegister x).2.get? g = r.get? g := by
  unfold tryRegister
  split
  · rfl
  · show (r.byGuild.put x.guild r.nextRef).find? g = _
    rw [Directory.find?_put, if_neg h]
    rfl

theorem get?_tryRegister_of_none {r : Registry} {x : Session} (h : r.get? x.guild = none) :
    (r.tryRegister x).2.get? x.guild = some r.nextRef := by
  rw [get?_tryRegister, tryRegister_of_none h]
  rfl

/-- A registration leaves the sessions that guilds have. -/
theorem get?_tryRegister_of_some {r : Registry} {x : Session} {g : Snowflake} {s : SessionRef}
    (h : r.get? g = some s) : (r.tryRegister x).2.get? g = some s := by
  by_cases hg : x.guild = g
  · rw [tryRegister_of_some (hg ▸ h)]
    exact h
  · rw [get?_tryRegister_of_ne hg]
    exact h

/-- A registration leaves the records that are there as they are. -/
theorem record?_tryRegister {r : Registry} {x : Session} {s : SessionRef} {y : SessionRecord}
    (h : r.record? s = some y) : (r.tryRegister x).2.record? s = some y := by
  unfold tryRegister
  split
  · exact h
  · have hlt : s.index < r.records.length := (List.getElem?_eq_some_iff.mp h).1
    show (r.records ++ [_])[s.index]? = some y
    rw [List.getElem?_append_left hlt]
    exact h

/-- A record after a registration was there before, or it is that of the newly
registered session. -/
theorem of_record?_tryRegister {r : Registry} {x : Session} {s : SessionRef} {y : SessionRecord}
    (h : (r.tryRegister x).2.record? s = some y) :
    r.record? s = some y ∨ (r.get? x.guild = none ∧ s = r.nextRef ∧ y = ⟨x, .connected⟩) := by
  cases hg : r.get? x.guild with
  | some w =>
    rw [tryRegister_of_some hg] at h
    exact Or.inl h
  | none =>
    rw [tryRegister_of_none hg] at h
    have h' : (r.records ++ [⟨x, .connected⟩])[s.index]? = some y := h
    rcases Nat.lt_trichotomy s.index r.records.length with hlt | heq | hgt
    · rw [List.getElem?_append_left hlt] at h'
      exact Or.inl h'
    · rw [heq, List.getElem?_concat_length] at h'
      injection h' with hy
      obtain ⟨i⟩ := s
      exact Or.inr ⟨rfl, congrArg SessionRef.mk heq, hy.symm⟩
    · rw [List.getElem?_eq_none (by simp; omega)] at h'
      exact absurd h' (by simp)

/-- After an eviction a session has the record it had, marked as disconnected if
it is the one evicted. -/
theorem record?_evict (r : Registry) (g : Snowflake) (s : SessionRef) :
    (r.evict g).2.record? s =
      if r.get? g = some s then (r.record? s).map fun x => { x with state := .disconnected }
      else r.record? s := by
  cases hg : r.get? g with
  | none =>
    rw [evict_of_none hg, if_neg (by simp)]
  | some w =>
    rw [evict_of_some hg]
    show (r.records.modify w.index _)[s.index]? = _
    rw [List.getElem?_modify]
    by_cases hws : w = s
    · subst hws
      simp [record?]
    · have hne : w.index ≠ s.index := by
        intro hi
        obtain ⟨i⟩ := w
        obtain ⟨j⟩ := s
        exact hws (congrArg SessionRef.mk hi)
      rw [if_neg (by simpa using hws)]
      simp [hne, record?]

/-- An eviction leaves what other guilds have. -/
theorem get?_evict_of_ne {r : Registry} {g g' : Snowflake} (h : g' ≠ g) :
    (r.evict g').2.get? g = r.get? g := by
  rw [get?_evict, if_neg h]

/-! ## Lawful registries -/

/-- What a guild has is a connected session of its own, and a connected session is
what its guild has. -/
structure Lawful (r : Registry) : Prop where
  live : ∀ g s, r.get? g = some s →
    ∃ x, r.record? s = some x ∧ x.session.guild = g ∧ x.state = .connected
  held : ∀ s x, r.record? s = some x → x.state = .connected →
    r.get? x.session.guild = some s

theorem lawful_empty : Lawful {} := by
  constructor
  · intro g s h
    exact absurd (show none = some s from h) (by simp)
  · intro s x h
    exact absurd h (by simp [record?])

theorem Lawful.tryRegister {r : Registry} (h : r.Lawful) (x : Session) :
    (r.tryRegister x).2.Lawful := by
  cases hg : r.get? x.guild with
  | some w =>
    rw [tryRegister_of_some hg]
    exact h
  | none =>
    have hrec : (r.tryRegister x).2.record? r.nextRef = some ⟨x, .connected⟩ := by
      rw [tryRegister_of_none hg]
      exact List.getElem?_concat_length
    have hself := get?_tryRegister_of_none hg
    constructor
    · intro g s hs
      by_cases hxg : x.guild = g
      · subst hxg
        rw [hself] at hs
        injection hs with hs
        subst hs
        exact ⟨_, hrec, rfl, rfl⟩
      · rw [get?_tryRegister_of_ne hxg] at hs
        obtain ⟨y, hy, hyg, hyc⟩ := h.live g s hs
        exact ⟨y, record?_tryRegister hy, hyg, hyc⟩
    · intro s y hy hc
      rcases of_record?_tryRegister hy with hold | ⟨-, rfl, rfl⟩
      · have hys := h.held s y hold hc
        have hne : x.guild ≠ y.session.guild := by
          intro he
          rw [he, hys] at hg
          exact absurd hg (by simp)
        rw [get?_tryRegister_of_ne hne]
        exact hys
      · exact hself

theorem Lawful.evict {r : Registry} (h : r.Lawful) (g : Snowflake) : (r.evict g).2.Lawful := by
  constructor
  · intro g' s hs
    rw [get?_evict] at hs
    split at hs
    · exact absurd hs (by simp)
    · next hne =>
      obtain ⟨x, hx, hxg, hxc⟩ := h.live g' s hs
      -- The session of another guild is not the one that goes.
      have hns : r.get? g ≠ some s := by
        intro hgs
        obtain ⟨y, hy, hyg, -⟩ := h.live g s hgs
        rw [hx] at hy
        injection hy with hxy
        rw [← hxy, hxg] at hyg
        exact hne hyg.symm
      refine ⟨x, ?_, hxg, hxc⟩
      rw [record?_evict, if_neg hns]
      exact hx
  · intro s x hx hc
    rw [record?_evict] at hx
    split at hx
    · obtain ⟨y, -, rfl⟩ := Option.map_eq_some_iff.mp hx
      exact absurd hc (by simp)
    · next hns =>
      have hs := h.held s x hx hc
      have hne : g ≠ x.session.guild := by
        intro he
        exact hns (he ▸ hs)
      rw [get?_evict, if_neg hne]
      exact hs

/-- A session is connected exactly while its guild has it. -/
theorem Lawful.connected_iff {r : Registry} (h : r.Lawful) {s : SessionRef} {x : SessionRecord}
    (hx : r.record? s = some x) :
    x.state = .connected ↔ r.get? x.session.guild = some s := by
  constructor
  · exact h.held s x hx
  · intro hs
    obtain ⟨y, hy, -, hc⟩ := h.live _ s hs
    rw [hx] at hy
    injection hy with hxy
    rw [hxy]
    exact hc

/-- A disconnected session is what no guild has. -/
theorem Lawful.not_registered {r : Registry} (h : r.Lawful) {s : SessionRef} {x : SessionRecord}
    (hx : r.record? s = some x) (hd : x.state = .disconnected) (g : Snowflake) :
    r.get? g ≠ some s := by
  intro hg
  obtain ⟨y, hy, -, hc⟩ := h.live g s hg
  rw [hx] at hy
  injection hy with hxy
  rw [← hxy, hd] at hc
  exact absurd hc (by simp)

/-! ## Later registries -/

/-- What is known of a session in an earlier registry is known in a later one,
save that it may have been disconnected in between. -/
structure Evolves (r r' : Registry) : Prop where
  record : ∀ s x, r.record? s = some x →
    ∃ x', r'.record? s = some x' ∧ x'.session = x.session ∧
      (x.state = .disconnected → x'.state = .disconnected)
  lawful : r.Lawful → r'.Lawful

theorem evolves_refl (r : Registry) : Evolves r r :=
  ⟨fun _ x hx => ⟨x, hx, rfl, id⟩, id⟩

theorem evolves_trans {r₁ r₂ r₃ : Registry} (h₁ : Evolves r₁ r₂) (h₂ : Evolves r₂ r₃) :
    Evolves r₁ r₃ := by
  refine ⟨fun s x hx => ?_, fun h => h₂.lawful (h₁.lawful h)⟩
  obtain ⟨y, hy, hyx, hyd⟩ := h₁.record s x hx
  obtain ⟨z, hz, hzy, hzd⟩ := h₂.record s y hy
  exact ⟨z, hz, hzy.trans hyx, fun hd => hzd (hyd hd)⟩

theorem evolves_tryRegister (r : Registry) (x : Session) : Evolves r (r.tryRegister x).2 :=
  ⟨fun _ y hy => ⟨y, record?_tryRegister hy, rfl, id⟩, fun h => h.tryRegister x⟩

theorem evolves_evict (r : Registry) (g : Snowflake) : Evolves r (r.evict g).2 := by
  refine ⟨fun s x hx => ?_, fun h => h.evict g⟩
  rw [record?_evict, hx]
  split
  · exact ⟨_, rfl, rfl, fun _ => rfl⟩
  · exact ⟨x, rfl, rfl, id⟩

theorem Evolves.session {r r' : Registry} (h : Evolves r r') {s : SessionRef} {x : Session}
    {state : SessionState} (hs : r.record? s = some ⟨x, state⟩) :
    ∃ state', r'.record? s = some ⟨x, state'⟩ := by
  obtain ⟨⟨x', state'⟩, hs', rfl, -⟩ := h.record s _ hs
  exact ⟨state', hs'⟩

theorem Evolves.disconnected {r r' : Registry} (h : Evolves r r') {s : SessionRef} {x : Session}
    (hs : r.record? s = some ⟨x, .disconnected⟩) : r'.record? s = some ⟨x, .disconnected⟩ := by
  obtain ⟨⟨x', state'⟩, hs', rfl, hstate⟩ := h.record s _ hs
  have he : state' = .disconnected := hstate rfl
  rw [hs', he]

/-- The session was registered at some time, for the given guild. -/
def Knows (r : Registry) (g : Snowflake) (s : SessionRef) : Prop :=
  ∃ x, r.record? s = some x ∧ x.session.guild = g

theorem Evolves.knows {r r' : Registry} (h : Evolves r r') {g : Snowflake} {s : SessionRef}
    (hs : r.Knows g s) : r'.Knows g s := by
  obtain ⟨x, hx, hg⟩ := hs
  obtain ⟨x', hx', hxx, -⟩ := h.record s x hx
  exact ⟨x', hx', (congrArg Session.guild hxx).trans hg⟩

theorem Lawful.knows {r : Registry} (h : r.Lawful) {g : Snowflake} {s : SessionRef}
    (hs : r.get? g = some s) : r.Knows g s := by
  obtain ⟨x, hx, hg, -⟩ := h.live g s hs
  exact ⟨x, hx, hg⟩

theorem knows_nextRef {r : Registry} {x : Session} (h : r.get? x.guild = none) :
    (r.tryRegister x).2.Knows x.guild r.nextRef := by
  rw [tryRegister_of_none h]
  exact ⟨⟨x, .connected⟩, List.getElem?_concat_length, rfl⟩

/-- What an attempt to register is answered with is a session of the guild. -/
theorem Lawful.knows_holder {r : Registry} (h : r.Lawful) (x : Session) :
    (r.tryRegister x).2.Knows x.guild (r.tryRegister x).1.holder :=
  (h.tryRegister x).knows (get?_tryRegister r x)

/-! ## The sessions of one guild -/

/-- The sessions that were ever registered for a guild, in order. -/
def sessionsOf (r : Registry) (g : Snowflake) : List Session :=
  (r.records.map (·.session)).filter fun x => x.guild = g

theorem sessionsOf_tryRegister_of_ne {r : Registry} {x : Session} {g : Snowflake}
    (h : x.guild ≠ g) : (r.tryRegister x).2.sessionsOf g = r.sessionsOf g := by
  cases hg : r.get? x.guild with
  | some w => rw [tryRegister_of_some hg]
  | none =>
    rw [tryRegister_of_none hg]
    unfold sessionsOf
    simp [h]

theorem sessionsOf_tryRegister_of_none {r : Registry} {x : Session} (h : r.get? x.guild = none) :
    (r.tryRegister x).2.sessionsOf x.guild = r.sessionsOf x.guild ++ [x] := by
  rw [tryRegister_of_none h]
  unfold sessionsOf
  simp

/-- An eviction leaves the facts of all sessions as they are. -/
theorem sessionsOf_evict (r : Registry) (g g' : Snowflake) :
    (r.evict g').2.sessionsOf g = r.sessionsOf g := by
  cases hg : r.get? g' with
  | none => rw [evict_of_none hg]
  | some s =>
    rw [evict_of_some hg]
    have hm : (r.records.modify s.index fun x => { x with state := .disconnected }).map
        (·.session) = r.records.map (·.session) := by
      refine List.ext_getElem? fun i => ?_
      rw [List.getElem?_map, List.getElem?_map, List.getElem?_modify]
      cases r.records[i]? with
      | none => rfl
      | some x =>
        by_cases hi : s.index = i <;> simp [hi]
    unfold sessionsOf markDisconnected
    rw [hm]

/-! ## The list of sessions -/

/-- In a lawful registry the snapshots are those of the entries, in the order of
the list. -/
theorem Lawful.list_eq {r : Registry} (h : r.Lawful) :
    ∀ (l : List (Snowflake × SessionRef)), (∀ e ∈ l, e ∈ r.byGuild.entries) →
      ((l.map (·.2)).filterMap r.info?).map (·.guild) = l.map (·.1)
  | [], _ => rfl
  | (g, s) :: l, hl => by
    obtain ⟨x, hx, hxg, -⟩ :=
      h.live g s ((Directory.find?_eq_some_iff _ _ _).mpr (hl _ (List.mem_cons_self ..)))
    have hi : r.info? s = some (x.session.info x.state) := by
      unfold info?
      rw [hx]
      rfl
    rw [List.map_cons, List.filterMap_cons_some hi, List.map_cons, List.map_cons,
      h.list_eq l fun e he => hl e (List.mem_cons_of_mem _ he)]
    exact congrArg (· :: l.map (·.1)) hxg

/-- The guilds on the list, each as often as it is on it, are those that have a
session. -/
theorem Lawful.list_guilds {r : Registry} (h : r.Lawful) :
    (r.list.map (·.guild)).Perm (r.byGuild.entries.map (·.1)) := by
  have hp := r.byGuild.entries.mergeSort_perm fun a b => a.1.raw ≤ b.1.raw
  unfold list registered
  rw [h.list_eq _ fun e he => hp.mem_iff.mp he]
  exact hp.map _

/-- What is on the list is known of a session that a guild has. -/
theorem mem_list_iff {r : Registry} {i : SessionInfo} :
    i ∈ r.list ↔ ∃ g s, r.get? g = some s ∧ r.info? s = some i := by
  have hp := r.byGuild.entries.mergeSort_perm fun a b => a.1.raw ≤ b.1.raw
  unfold list registered
  rw [List.mem_filterMap]
  constructor
  · rintro ⟨s, hs, hsi⟩
    obtain ⟨⟨g, s'⟩, he, rfl⟩ := List.mem_map.mp hs
    exact ⟨g, s', (Directory.find?_eq_some_iff _ _ _).mpr (hp.mem_iff.mp he), hsi⟩
  · rintro ⟨g, s, hg, hsi⟩
    have he := (Directory.find?_eq_some_iff _ _ _).mp hg
    exact ⟨s, List.mem_map.mpr ⟨(g, s), hp.mem_iff.mpr he, rfl⟩, hsi⟩

/-- What the list shows is the connected session that a guild has. -/
theorem Lawful.of_mem_list {r : Registry} (h : r.Lawful) {i : SessionInfo} (hi : i ∈ r.list) :
    i.state = .connected ∧ ∃ s, r.get? i.guild = some s ∧ r.info? s = some i := by
  obtain ⟨g, s, hg, hsi⟩ := mem_list_iff.mp hi
  obtain ⟨x, hx, hxg, hxc⟩ := h.live g s hg
  have hix : i = x.session.info x.state := by
    unfold info? at hsi
    rw [hx] at hsi
    exact (Option.some.inj hsi).symm
  have hig : i.guild = g := by rw [hix]; exact hxg
  refine ⟨by rw [hix]; exact hxc, s, ?_, hsi⟩
  rw [hig]
  exact hg

theorem size_eq_zero {r : Registry} (free : ∀ g, r.get? g = none) : r.size = 0 := by
  refine List.length_eq_zero_iff.mpr (List.eq_nil_iff_forall_not_mem.mpr fun e he => ?_)
  have hfound : r.get? e.1 = some e.2 := (Directory.find?_eq_some_iff _ _ _).mpr he
  exact absurd (hfound.symm.trans (free e.1)) (by simp)

/-- A registry that has had one guild, which is gone, has none. -/
theorem get?_evict_only (x : Session) (g : Snowflake) :
    ((({} : Registry).tryRegister x).2.evict x.guild).2.get? g = none := by
  rw [get?_evict]
  split
  · rfl
  · next hne => rw [get?_tryRegister_of_ne hne]; rfl

end Registry

end VoiceGateway
