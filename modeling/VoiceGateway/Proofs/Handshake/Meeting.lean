import VoiceGateway.Handshake.Rendezvous
import VoiceGateway.Proofs.Stream

/-!
# What a rendezvous comes to

Each stream has a first match for a rendezvous among the events that it can still
read, or has none. No turn changes that: a turn passes over an event that does not
match, or over a gap, or takes the match (`turn_spec`). So whatever order the two
streams are asked in, a rendezvous that is left alone with them takes exactly these
two events, or ends at a stream that has ended without one, or waits.

> `meet_spec`: how a meeting goes, by the two first matches alone.
-/

namespace VoiceGateway

namespace Stream

variable {α : Type}

/-- The events that a cursor has still before it and that can still be read. -/
def unread (s : Stream α) (c : Cursor) : List α := s.history.drop (max c.passed s.windowStart)

theorem unread_of_event {s : Stream α} {c c' : Cursor} {e : α}
    (h : s.receive c = (.event e, c')) : s.unread c = e :: s.unread c' := by
  unfold receive at h
  split at h
  · exact absurd (congrArg Prod.fst h) (by simp)
  · next hin =>
    split at h
    · next e' he =>
      injection h with h₁ h₂
      injection h₁ with h₁
      subst h₁ h₂
      obtain ⟨hlt, hget⟩ := List.getElem?_eq_some_iff.mp he
      have hw : max c.passed s.windowStart = c.passed := by omega
      have hw' : max (c.passed + 1) s.windowStart = c.passed + 1 := by omega
      unfold unread
      rw [hw, hw', List.drop_eq_getElem_cons hlt, hget]
    · injection h with h₁ h₂
      split at h₁ <;> exact absurd h₁ (by simp)

theorem unread_of_lagged {s : Stream α} {c c' : Cursor} {n : Nat}
    (h : s.receive c = (.lagged n, c')) : s.unread c' = s.unread c := by
  unfold receive at h
  split at h
  · next hlt =>
    injection h with h₁ h₂
    subst h₂
    have hw : max c.passed s.windowStart = s.windowStart := by omega
    unfold unread
    rw [Nat.max_self, hw]
  · split at h
    · exact absurd (congrArg Prod.fst h) (by simp)
    · injection h with h₁ h₂
      split at h₁ <;> exact absurd h₁ (by simp)

/-- A stream that has nothing to deliver has nothing left to read. -/
theorem unread_of_end {s : Stream α} {c c' : Cursor} {d : Delivery α}
    (h : s.receive c = (d, c')) (hd : d = .nothing ∨ d = .closed) :
    s.unread c = [] ∧ (d = .closed ↔ s.closed = true) := by
  unfold receive at h
  split at h
  · injection h with h₁ h₂
    rw [← h₁] at hd
    exact absurd hd (by simp)
  · split at h
    · injection h with h₁ h₂
      rw [← h₁] at hd
      exact absurd hd (by simp)
    · next hnone =>
      injection h with h₁ h₂
      constructor
      · have hlen : s.history.length ≤ c.passed := List.getElem?_eq_none_iff.mp hnone
        unfold unread
        rw [List.drop_eq_nil_iff]
        omega
      · subst h₁
        split <;> simp_all

end Stream

namespace Rendezvous

/-- The state that a rendezvous has, or will take if nothing else happens. -/
def soonState (r : Rendezvous) (b : EventBus) : Option StateEvent :=
  r.state.or ((b.states.unread r.states).find? (·.isOwn r.guild r.selfId))

/-- The server that a rendezvous has, or will take if nothing else happens. -/
def soonServer (r : Rendezvous) (b : EventBus) : Option ServerEvent :=
  r.server.or ((b.servers.unread r.servers).find? (·.assigns r.guild))

/-- Whether a stream has ended without what a rendezvous wants of it. -/
def Barred (r : Rendezvous) (b : EventBus) : StreamName → Prop
  | .state => r.soonState b = none ∧ b.states.closed = true
  | .server => r.soonServer b = none ∧ b.servers.closed = true

/-- A rendezvous some turns later: it is about the same, will take the same, and has
not gone back or too far. -/
structure Onward (b : EventBus) (r r' : Rendezvous) : Prop where
  guild : r'.guild = r.guild
  selfId : r'.selfId = r.selfId
  state : r'.soonState b = r.soonState b
  server : r'.soonServer b = r.soonServer b
  states_le : r.states.passed ≤ r'.states.passed
  states_le_length : r.states.passed ≤ b.states.history.length →
    r'.states.passed ≤ b.states.history.length
  servers_le : r.servers.passed ≤ r'.servers.passed
  servers_le_length : r.servers.passed ≤ b.servers.history.length →
    r'.servers.passed ≤ b.servers.history.length

theorem onward_refl (b : EventBus) (r : Rendezvous) : Onward b r r :=
  ⟨rfl, rfl, rfl, rfl, Nat.le_refl _, id, Nat.le_refl _, id⟩

theorem onward_trans {b : EventBus} {r₁ r₂ r₃ : Rendezvous} (h₁ : Onward b r₁ r₂)
    (h₂ : Onward b r₂ r₃) : Onward b r₁ r₃ :=
  ⟨h₂.guild.trans h₁.guild, h₂.selfId.trans h₁.selfId, h₂.state.trans h₁.state,
    h₂.server.trans h₁.server, Nat.le_trans h₁.states_le h₂.states_le,
    fun h => h₂.states_le_length (h₁.states_le_length h),
    Nat.le_trans h₁.servers_le h₂.servers_le,
    fun h => h₂.servers_le_length (h₁.servers_le_length h)⟩

/-- What asking the state stream comes to. -/
theorem askStates_spec (b : EventBus) (r : Rendezvous) :
    match r.askStates b with
    | .took r' => Onward b r r' ∧ r'.ahead b < r.ahead b
    | .nothing => r.state = r.soonState b ∧ (r.soonState b = none → b.states.closed = false)
    | .closed stream => stream = .state ∧ r.Barred b .state := by
  have hadv := b.states.receive_advances r.states
  unfold askStates
  by_cases hs : r.state.isSome
  · rw [if_pos hs]
    obtain ⟨e, he⟩ := Option.isSome_iff_exists.mp hs
    have hsoon : r.soonState b = some e := by
      unfold soonState
      rw [he]
      rfl
    exact ⟨he.trans hsoon.symm, fun hn => absurd (hsoon.symm.trans hn) (by simp)⟩
  · rw [if_neg hs]
    have hnone : r.state = none := Option.not_isSome_iff_eq_none.mp hs
    have hsoon : r.soonState b =
        (b.states.unread r.states).find? (·.isOwn r.guild r.selfId) := by
      unfold soonState
      rw [hnone]
      rfl
    rcases hr : b.states.receive r.states with ⟨d, c⟩
    rw [hr] at hadv
    cases d with
    | event e =>
      obtain ⟨hlt, hle⟩ := hadv (Or.inl ⟨e, rfl⟩)
      refine ⟨⟨rfl, rfl, ?_, rfl, Nat.le_of_lt hlt, fun _ => hle, Nat.le_refl _, id⟩, ?_⟩
      · rw [hsoon, Stream.unread_of_event hr, List.find?_cons]
        unfold soonState
        dsimp only
        cases e.isOwn r.guild r.selfId with
        | true => rfl
        | false => rfl
      · unfold ahead
        dsimp only at hlt hle ⊢
        omega
    | lagged n =>
      obtain ⟨hlt, hle⟩ := hadv (Or.inr ⟨n, rfl⟩)
      refine ⟨⟨rfl, rfl, ?_, rfl, Nat.le_of_lt hlt, fun _ => hle, Nat.le_refl _, id⟩, ?_⟩
      · unfold soonState
        dsimp only
        rw [Stream.unread_of_lagged hr]
      · unfold ahead
        dsimp only at hlt hle ⊢
        omega
    | nothing =>
      obtain ⟨hend, hopen⟩ := Stream.unread_of_end hr (Or.inl rfl)
      rw [hend] at hsoon
      refine ⟨hnone.trans hsoon.symm, fun _ => ?_⟩
      cases hc : b.states.closed with
      | true => exact absurd (hopen.mpr hc) (by simp)
      | false => rfl
    | closed =>
      obtain ⟨hend, hclosed⟩ := Stream.unread_of_end hr (Or.inr rfl)
      rw [hend] at hsoon
      exact ⟨rfl, hsoon, hclosed.mp rfl⟩

/-- What asking the server stream comes to. -/
theorem askServers_spec (b : EventBus) (r : Rendezvous) :
    match r.askServers b with
    | .took r' => Onward b r r' ∧ r'.ahead b < r.ahead b
    | .nothing => r.server = r.soonServer b ∧ (r.soonServer b = none → b.servers.closed = false)
    | .closed stream => stream = .server ∧ r.Barred b .server := by
  have hadv := b.servers.receive_advances r.servers
  unfold askServers
  by_cases hs : r.server.isSome
  · rw [if_pos hs]
    obtain ⟨v, hv⟩ := Option.isSome_iff_exists.mp hs
    have hsoon : r.soonServer b = some v := by
      unfold soonServer
      rw [hv]
      rfl
    exact ⟨hv.trans hsoon.symm, fun hn => absurd (hsoon.symm.trans hn) (by simp)⟩
  · rw [if_neg hs]
    have hnone : r.server = none := Option.not_isSome_iff_eq_none.mp hs
    have hsoon : r.soonServer b =
        (b.servers.unread r.servers).find? (·.assigns r.guild) := by
      unfold soonServer
      rw [hnone]
      rfl
    rcases hr : b.servers.receive r.servers with ⟨d, c⟩
    rw [hr] at hadv
    cases d with
    | event v =>
      obtain ⟨hlt, hle⟩ := hadv (Or.inl ⟨v, rfl⟩)
      refine ⟨⟨rfl, rfl, rfl, ?_, Nat.le_refl _, id, Nat.le_of_lt hlt, fun _ => hle⟩, ?_⟩
      · rw [hsoon, Stream.unread_of_event hr, List.find?_cons]
        unfold soonServer
        dsimp only
        cases v.assigns r.guild with
        | true => rfl
        | false => rfl
      · unfold ahead
        dsimp only at hlt hle ⊢
        omega
    | lagged n =>
      obtain ⟨hlt, hle⟩ := hadv (Or.inr ⟨n, rfl⟩)
      refine ⟨⟨rfl, rfl, rfl, ?_, Nat.le_refl _, id, Nat.le_of_lt hlt, fun _ => hle⟩, ?_⟩
      · unfold soonServer
        dsimp only
        rw [Stream.unread_of_lagged hr]
      · unfold ahead
        dsimp only at hlt hle ⊢
        omega
    | nothing =>
      obtain ⟨hend, hopen⟩ := Stream.unread_of_end hr (Or.inl rfl)
      rw [hend] at hsoon
      refine ⟨hnone.trans hsoon.symm, fun _ => ?_⟩
      cases hc : b.servers.closed with
      | true => exact absurd (hopen.mpr hc) (by simp)
      | false => rfl
    | closed =>
      obtain ⟨hend, hclosed⟩ := Stream.unread_of_end hr (Or.inr rfl)
      rw [hend] at hsoon
      exact ⟨rfl, hsoon, hclosed.mp rfl⟩

/-- A turn changes nothing about what a rendezvous will take; one that takes nothing
leaves it with all that there is, and open streams where it still waits. -/
theorem turn_spec (b : EventBus) (first : StreamName) (r : Rendezvous) :
    match r.turn b first with
    | .took r' => Onward b r r' ∧ r'.ahead b < r.ahead b
    | .nothing => r.state = r.soonState b ∧ r.server = r.soonServer b ∧ ∀ n, ¬ r.Barred b n
    | .closed stream => r.Barred b stream := by
  have hs := askStates_spec b r
  have hv := askServers_spec b r
  have neither : r.askStates b = .nothing → r.askServers b = .nothing →
      r.state = r.soonState b ∧ r.server = r.soonServer b ∧ ∀ n, ¬ r.Barred b n := by
    intro h₁ h₂
    rw [h₁] at hs
    rw [h₂] at hv
    refine ⟨hs.1, hv.1, fun n => ?_⟩
    cases n with
    | state => exact fun ⟨hn, hc⟩ => absurd ((hs.2 hn).symm.trans hc) (by simp)
    | server => exact fun ⟨hn, hc⟩ => absurd ((hv.2 hn).symm.trans hc) (by simp)
  cases first with
  | state =>
    unfold turn
    dsimp only
    cases h₁ : r.askStates b with
    | took r' =>
      rw [h₁] at hs
      exact hs
    | closed stream =>
      rw [h₁] at hs
      exact hs.1 ▸ hs.2
    | nothing =>
      cases h₂ : r.askServers b with
      | took r' =>
        rw [h₂] at hv
        exact hv
      | closed stream =>
        rw [h₂] at hv
        exact hv.1 ▸ hv.2
      | nothing => exact neither h₁ h₂
  | server =>
    unfold turn
    dsimp only
    cases h₂ : r.askServers b with
    | took r' =>
      rw [h₂] at hv
      exact hv
    | closed stream =>
      rw [h₂] at hv
      exact hv.1 ▸ hv.2
    | nothing =>
      cases h₁ : r.askStates b with
      | took r' =>
        rw [h₁] at hs
        exact hs
      | closed stream =>
        rw [h₁] at hs
        exact hs.1 ▸ hs.2
      | nothing => exact neither h₁ h₂

/-- How a meeting has gone that began with a rendezvous: it has taken the two first
matches; or it waits with those that there are, for events of open streams; or it has
come to a stream that has ended without one. -/
def Met (b : EventBus) (r : Rendezvous) : Meeting → Prop
  | .complete e v => r.soonState b = some e ∧ r.soonServer b = some v
  | .pending r' => Onward b r r' ∧ r'.state = r.soonState b ∧ r'.server = r.soonServer b ∧
      (r.soonState b = none ∨ r.soonServer b = none) ∧ ∀ n, ¬ r.Barred b n
  | .closed stream => r.Barred b stream

/-- Some turns do not change how the meeting goes. -/
theorem Met.of_onward {b : EventBus} {r r' : Rendezvous} {m : Meeting} (h : Onward b r r')
    (hm : Met b r' m) : Met b r m := by
  have barred : ∀ n, r'.Barred b n ↔ r.Barred b n := by
    intro n
    cases n with
    | state => exact and_congr_left' (by rw [h.state])
    | server => exact and_congr_left' (by rw [h.server])
  cases m with
  | complete e v => exact ⟨h.state.symm.trans hm.1, h.server.symm.trans hm.2⟩
  | pending r'' =>
    obtain ⟨hon, hs, hv, hwant, hopen⟩ := hm
    rw [h.state] at hs hwant
    rw [h.server] at hv hwant
    exact ⟨onward_trans h hon, hs, hv, hwant, fun n hn => hopen n ((barred n).mpr hn)⟩
  | closed stream => exact (barred stream).mp hm

theorem meetWithin_spec (b : EventBus) (order : TurnOrder) :
    ∀ (fuel : Nat) (r : Rendezvous), r.ahead b < fuel → Met b r (r.meetWithin b order fuel)
  | 0, r, h => by omega
  | fuel + 1, r, h => by
    unfold meetWithin
    split
    · next e v he hv =>
      constructor
      · unfold soonState
        rw [he]
        rfl
      · unfold soonServer
        rw [hv]
        rfl
    · next hwant =>
      have ht := turn_spec b (order fuel) r
      split
      · next r' hr =>
        rw [hr] at ht
        obtain ⟨hon, hless⟩ := ht
        have hfuel : r'.ahead b < fuel := by omega
        exact (meetWithin_spec b order fuel r' hfuel).of_onward hon
      · next hr =>
        rw [hr] at ht
        obtain ⟨hs, hv, hopen⟩ := ht
        refine ⟨onward_refl b r, hs, hv, ?_, hopen⟩
        rw [← hs, ← hv]
        cases he : r.state with
        | none => exact Or.inl rfl
        | some e =>
          cases hv' : r.server with
          | none => exact Or.inr rfl
          | some v => exact absurd hv' (hwant e v he)
      · next stream hr =>
        rw [hr] at ht
        exact ht

/-- How a meeting goes. There are turns for everything that is ahead and one more. -/
theorem meet_spec (b : EventBus) (order : TurnOrder) (r : Rendezvous) :
    Met b r (r.meet b order) :=
  meetWithin_spec b order _ r (by omega)

end Rendezvous

end VoiceGateway
