import VoiceGateway.Proofs.Registry

/-!
# The share of a guild in a registry

The sessions of one guild, among those that were ever registered, are numbered by their
order (`rank`). So the share that a guild has in a registry can be kept apart in a
registry of its own, under these numbers (`Share`), and whatever is done for the guild
may be done there as well; what is done for others changes nothing about the share.

> `Share.tryRegister`, `Share.evict`: both registries give the same answers to the guild.
> `Share.record?`, `rank_injective`: the sessions of the guild are the same, one by one.
-/

namespace VoiceGateway

/-! ## One kind of elements in a list -/

section Kind

variable {α : Type} {p : α → Bool} {f : α → α}

/-- An element of a kind has as many of its kind before it as there are before it among
its kind. -/
theorem getElem?_filter_countP {l : List α} {i : Nat} {x : α} (h : l[i]? = some x)
    (hx : p x = true) : (l.filter p)[(l.take i).countP p]? = some x := by
  induction l generalizing i with
  | nil => exact absurd h (by simp)
  | cons y l ih =>
    cases i with
    | zero =>
      injection h with h
      subst h
      rw [List.filter_cons_of_pos hx]
      rfl
    | succ i =>
      rw [List.getElem?_cons_succ] at h
      rw [List.take_succ_cons, List.countP_cons]
      by_cases hy : p y = true
      · rw [List.filter_cons_of_pos hy, if_pos hy, List.getElem?_cons_succ]
        exact ih h
      · rw [List.filter_cons_of_neg hy, if_neg hy]
        exact ih h

/-- A change of an element of the kind, seen among its kind. -/
theorem filter_modify_of_pos (keeps : ∀ x, p (f x) = p x) {l : List α} {i : Nat} {x : α}
    (h : l[i]? = some x) (hx : p x = true) :
    (l.modify i f).filter p = (l.filter p).modify ((l.take i).countP p) f := by
  induction l generalizing i with
  | nil => exact absurd h (by simp)
  | cons y l ih =>
    cases i with
    | zero =>
      injection h with h
      subst h
      rw [List.modify_zero_cons, List.filter_cons_of_pos hx,
        List.filter_cons_of_pos ((keeps y).trans hx)]
      rfl
    | succ i =>
      rw [List.getElem?_cons_succ] at h
      rw [List.modify_succ_cons, List.take_succ_cons, List.countP_cons]
      by_cases hy : p y = true
      · rw [List.filter_cons_of_pos hy, List.filter_cons_of_pos hy, if_pos hy,
          List.modify_succ_cons, ih h]
      · rw [List.filter_cons_of_neg hy, List.filter_cons_of_neg hy, if_neg hy, ih h]
        rfl

/-- A change of another element is not seen. -/
theorem filter_modify_of_neg (keeps : ∀ x, p (f x) = p x) {l : List α} {i : Nat} {x : α}
    (h : l[i]? = some x) (hx : p x = false) : (l.modify i f).filter p = l.filter p := by
  induction l generalizing i with
  | nil => exact absurd h (by simp)
  | cons y l ih =>
    cases i with
    | zero =>
      injection h with h
      subst h
      have hfx : p (f y) = false := (keeps y).trans hx
      rw [List.modify_zero_cons, List.filter_cons_of_neg (by simp [hfx]),
        List.filter_cons_of_neg (by simp [hx])]
    | succ i =>
      rw [List.getElem?_cons_succ] at h
      rw [List.modify_succ_cons, List.filter_cons, List.filter_cons, ih h]

end Kind

/-- The answer to an attempt to register, under other names. -/
def Registration.rename (ρ : SessionRef → SessionRef) : Registration → Registration
  | .won s => .won (ρ s)
  | .lost s => .lost (ρ s)

namespace Registry

/-! ## Numbers -/

/-- The facts of the sessions that were ever registered, in order. -/
def sessions (r : Registry) : List Session := r.records.map (·.session)

theorem Evolves.sessions {r r' : Registry} (h : r.Evolves r') : r.sessions <+: r'.sessions := by
  rw [List.prefix_iff_getElem?]
  intro i hi
  have hlt : i < r.records.length := by
    unfold Registry.sessions at hi
    rwa [List.length_map] at hi
  obtain ⟨x, hx, hsame, -⟩ := h.record ⟨i⟩ _ (List.getElem?_eq_getElem hlt)
  have hget : r'.sessions[i]? = some x.session := by
    unfold Registry.sessions
    rw [List.getElem?_map, show r'.records[i]? = some x from hx]
    rfl
  rw [hget, hsame]
  simp [Registry.sessions]

/-- The number of a session among those of a guild. -/
def rank (g : Snowflake) (sessions : List Session) (s : SessionRef) : SessionRef :=
  ⟨(sessions.take s.index).countP (·.guild = g)⟩

/-- Sessions that come later have no part in it. -/
theorem rank_of_prefix {g : Snowflake} {l l' : List Session} (h : l <+: l') {s : SessionRef}
    (hs : s.index ≤ l.length) : rank g l' s = rank g l s := by
  obtain ⟨more, rfl⟩ := h
  unfold rank
  rw [List.take_append_of_le_length hs]

/-- Sessions of the guild have numbers of their own. -/
theorem rank_injective {r : Registry} {g : Snowflake} {s s' : SessionRef} (hs : r.Knows g s)
    (hs' : r.Knows g s') (h : rank g r.sessions s = rank g r.sessions s') : s = s' := by
  -- Whoever comes later has one more of the guild before it.
  have later : ∀ {s s' : SessionRef}, r.Knows g s → s.index < s'.index →
      (rank g r.sessions s).index < (rank g r.sessions s').index := by
    rintro s s' ⟨x, hx, hg⟩ hlt
    have hget : r.sessions[s.index]? = some x.session := by
      unfold sessions
      rw [List.getElem?_map, show r.records[s.index]? = some x from hx]
      rfl
    have htake : (r.sessions.take (s.index + 1)).countP (·.guild = g) =
        (r.sessions.take s.index).countP (·.guild = g) + 1 := by
      rw [List.take_add_one, hget, List.countP_append]
      simp [hg]
    have hmono : (r.sessions.take (s.index + 1)).Sublist (r.sessions.take s'.index) :=
      (List.take_prefix_take_left hlt).sublist
    have hle := hmono.countP_le (p := fun x => decide (x.guild = g))
    unfold rank
    dsimp only
    omega
  rcases Nat.lt_trichotomy s.index s'.index with hlt | heq | hgt
  · exact absurd (congrArg SessionRef.index h) (Nat.ne_of_lt (later hs hlt))
  · obtain ⟨i⟩ := s
    obtain ⟨j⟩ := s'
    exact congrArg SessionRef.mk heq
  · exact absurd (congrArg SessionRef.index h) (Nat.ne_of_gt (later hs' hgt))

/-- Names for the sessions of a registry and the one that comes next: their numbers among
those of a guild. -/
def Numbers (ρ : SessionRef → SessionRef) (g : Snowflake) (r : Registry) : Prop :=
  ∀ s, s.index ≤ r.records.length → ρ s = rank g r.sessions s

theorem numbers_of_prefix {r : Registry} {l : List Session} (h : r.sessions <+: l)
    (g : Snowflake) : Numbers (rank g l) g r := by
  intro s hs
  refine rank_of_prefix h ?_
  unfold sessions
  rwa [List.length_map]

/-! ## Shares -/

/-- The second registry holds the sessions of a guild out of the first one, under names of
its own. -/
structure Share (ρ : SessionRef → SessionRef) (g : Snowflake) (r r' : Registry) : Prop where
  records : r'.records = r.records.filter (·.session.guild = g)
  entry : r'.get? g = (r.get? g).map ρ

variable {ρ : SessionRef → SessionRef} {g : Snowflake} {r r' : Registry}

theorem share_empty (ρ : SessionRef → SessionRef) (g : Snowflake) : Share ρ g {} {} :=
  ⟨rfl, rfl⟩

theorem countP_sessions (r : Registry) (g : Snowflake) (n : Nat) :
    (r.sessions.take n).countP (·.guild = g) =
      (r.records.take n).countP (·.session.guild = g) := by
  unfold sessions
  rw [← List.map_take, List.countP_map]
  rfl

/-- A session of the guild is the same in both registries. -/
theorem Share.record? (h : Share ρ g r r') (names : Numbers ρ g r) {s : SessionRef}
    (hs : r.Knows g s) : r'.record? (ρ s) = r.record? s := by
  obtain ⟨x, hx, hg⟩ := hs
  have hlt : s.index < r.records.length := (List.getElem?_eq_some_iff.mp hx).1
  rw [names s (Nat.le_of_lt hlt), hx]
  unfold Registry.record? rank
  rw [h.records, countP_sessions]
  exact getElem?_filter_countP hx (decide_eq_true hg)

/-- The next session of the guild gets the name of the one that comes next. -/
theorem Share.nextRef (h : Share ρ g r r') (names : Numbers ρ g r) :
    r'.nextRef = ρ r.nextRef := by
  rw [names r.nextRef (Nat.le_refl _)]
  unfold Registry.nextRef rank
  rw [countP_sessions, List.take_length, List.countP_eq_length_filter, h.records]

theorem Share.tryRegister (h : Share ρ g r r') (names : Numbers ρ g r) {x : Session}
    (own : x.guild = g) :
    (r'.tryRegister x).1 = (r.tryRegister x).1.rename ρ ∧
      Share ρ g (r.tryRegister x).2 (r'.tryRegister x).2 := by
  have hentry := h.entry
  subst own
  cases hr : r.get? x.guild with
  | some s =>
    rw [hr] at hentry
    rw [tryRegister_of_some hr, tryRegister_of_some hentry]
    exact ⟨rfl, h⟩
  | none =>
    rw [hr] at hentry
    have hrecords : (r'.tryRegister x).2.records =
        (r.tryRegister x).2.records.filter (·.session.guild = x.guild) := by
      rw [tryRegister_of_none hr, tryRegister_of_none hentry, List.filter_append, h.records]
      simp
    refine ⟨?_, hrecords, ?_⟩
    · rw [tryRegister_of_none hr, tryRegister_of_none hentry, h.nextRef names]
      rfl
    · rw [get?_tryRegister_of_none hr, get?_tryRegister_of_none hentry, h.nextRef names]
      rfl

theorem Share.tryRegister_other (h : Share ρ g r r') {x : Session} (other : x.guild ≠ g) :
    Share ρ g (r.tryRegister x).2 r' := by
  refine ⟨?_, ?_⟩
  · cases hr : r.get? x.guild with
    | some s =>
      rw [tryRegister_of_some hr]
      exact h.records
    | none =>
      rw [tryRegister_of_none hr, List.filter_append, h.records]
      simp [other]
  · rw [get?_tryRegister_of_ne other]
    exact h.entry

theorem Share.evict (h : Share ρ g r r') (names : Numbers ρ g r) (lawful : r.Lawful) :
    (r'.evict g).1 = (r.evict g).1 ∧ Share ρ g (r.evict g).2 (r'.evict g).2 := by
  have hentry := h.entry
  cases hr : r.get? g with
  | none =>
    rw [hr] at hentry
    rw [evict_of_none hr, evict_of_none hentry]
    exact ⟨rfl, h⟩
  | some s =>
    rw [hr] at hentry
    obtain ⟨x, hx, hg, -⟩ := lawful.live g s hr
    have hlt : s.index < r.records.length := (List.getElem?_eq_some_iff.mp hx).1
    refine ⟨by rw [evict_of_some hr, evict_of_some hentry], ?_, ?_⟩
    · rw [evict_of_some hr, evict_of_some hentry]
      unfold markDisconnected
      dsimp only
      have hkeeps : ∀ y : SessionRecord, decide
          (({ y with state := .disconnected } : SessionRecord).session.guild = g) =
            decide (y.session.guild = g) := fun _ => rfl
      have hfilter := filter_modify_of_pos (p := fun y => decide (y.session.guild = g)) hkeeps hx
        (decide_eq_true hg)
      rw [hfilter, h.records, names s (Nat.le_of_lt hlt)]
      unfold rank
      rw [countP_sessions]
    · rw [get?_evict, get?_evict, if_pos rfl, if_pos rfl]
      rfl

theorem Share.evict_other (h : Share ρ g r r') (lawful : r.Lawful) {g' : Snowflake}
    (other : g' ≠ g) : Share ρ g (r.evict g').2 r' := by
  refine ⟨?_, ?_⟩
  · cases hr : r.get? g' with
    | none =>
      rw [evict_of_none hr]
      exact h.records
    | some s =>
      obtain ⟨x, hx, hg, -⟩ := lawful.live g' s hr
      have hother : decide (x.session.guild = g) = false :=
        decide_eq_false fun he => other (hg.symm.trans he)
      rw [evict_of_some hr]
      unfold markDisconnected
      dsimp only
      have hkeeps : ∀ y : SessionRecord, decide
          (({ y with state := .disconnected } : SessionRecord).session.guild = g) =
            decide (y.session.guild = g) := fun _ => rfl
      have hfilter := filter_modify_of_neg (p := fun y => decide (y.session.guild = g)) hkeeps hx
        hother
      rw [hfilter, h.records]
  · rw [get?_evict_of_ne other]
    exact h.entry

end Registry

end VoiceGateway
