import VoiceGateway.Handshake.Coordinator
import VoiceGateway.Proofs.Handshake.Meeting

/-!
# What a rendezvous has taken

A join is after the first match on each stream among the events since its
subscriptions (`Sought`). Its rendezvous, however often it was gone on with and in
whatever order the streams were asked, holds either that first match or nothing, and
then no event that it has passed matches (`Sought.Faithful`): it never takes a later
event, and never has to go back. Events that come do not change this.

> `Sought.Faithful.meets`: how a rendezvous goes on that has not fallen behind, by the
> first matches alone: they complete it, a stream that has ended without one fails
> it, and otherwise it waits.
-/

namespace VoiceGateway

namespace Stream

variable {α : Type}

/-- What a slot may hold of the events since a subscription: the first match of all, or
nothing while no event before the cursor matches. -/
def Kept (s : Stream α) (p : α → Bool) (since : Nat) (c : Cursor) : Option α → Prop
  | some e => (s.heard since).find? p = some e
  | none => since ≤ c.passed ∧ c.passed ≤ s.history.length ∧
      ((s.history.take c.passed).drop since).find? p = none

variable {s s' : Stream α} {p : α → Bool} {since : Nat} {c : Cursor} {slot : Option α}

theorem kept_begin (hs : since ≤ s.history.length) : s.Kept p since ⟨since⟩ none := by
  refine ⟨Nat.le_refl _, hs, ?_⟩
  rw [List.drop_eq_nil_of_le (List.length_take_le _ _)]
  rfl

theorem Kept.of_grows (h : s.Kept p since c slot) (grows : s.Grows s') :
    s'.Kept p since c slot := by
  cases slot with
  | some e => exact find?_heard_of_grows grows h
  | none =>
    obtain ⟨hle, hlen, hnone⟩ := h
    obtain ⟨l, hl⟩ := grows.history
    refine ⟨hle, Nat.le_trans hlen grows.history.length_le, ?_⟩
    rw [← hl, List.take_append_of_le_length hlen]
    exact hnone

/-- What a slot holds or will hold is the first match of all. -/
theorem Kept.or_unread (h : s.Kept p since c slot)
    (reach : slot = none → s.windowStart ≤ c.passed) :
    slot.or ((s.unread c).find? p) = (s.heard since).find? p := by
  cases slot with
  | some e => exact h.symm
  | none =>
    obtain ⟨hle, hlen, hnone⟩ := h
    have hsplit : s.heard since = (s.history.take c.passed).drop since ++ s.unread c := by
      unfold heard unread
      rw [Nat.max_eq_left (reach rfl)]
      have hlen' : since ≤ (s.history.take c.passed).length := by
        rw [List.length_take]
        omega
      rw [← List.drop_append_of_le_length hlen', List.take_append_drop]
    rw [hsplit, List.find?_append, hnone]

/-- Where there is no match a slot is empty and its cursor is in place. -/
theorem Kept.of_none (h : s.Kept p since c slot) (hn : (s.heard since).find? p = none) :
    slot = none ∧ since ≤ c.passed ∧ c.passed ≤ s.history.length := by
  cases slot with
  | some e => exact absurd (hn.symm.trans h) (by simp)
  | none => exact ⟨rfl, h.1, h.2.1⟩

/-- A slot that holds the first match, or nothing where there is none, may do so. -/
theorem kept_of_eq (h : slot = (s.heard since).find? p)
    (hc : slot = none → since ≤ c.passed ∧ c.passed ≤ s.history.length) :
    s.Kept p since c slot := by
  cases slot with
  | some e => exact h.symm
  | none =>
    refine ⟨(hc rfl).1, (hc rfl).2, ?_⟩
    rw [List.find?_eq_none]
    intro e he
    exact List.find?_eq_none.mp h.symm e
      (((List.take_sublist _ _).drop since).subset he)

end Stream

/-- What a join is after: the confirmations for a guild and a user id, of the events
since its subscriptions, which are the events after the first so many of each stream. -/
structure Sought where
  guild : Snowflake
  selfId : Snowflake
  states : Nat
  servers : Nat

/-- Whether a rendezvous still can read on each stream what it has not passed, unless it
does not ask the stream any more. -/
structure Rendezvous.InReach (r : Rendezvous) (b : EventBus) : Prop where
  states : r.state = none → b.states.windowStart ≤ r.states.passed
  servers : r.server = none → b.servers.windowStart ≤ r.servers.passed

namespace Sought

/-- The first state event since the subscription that is the user's own. -/
def state? (k : Sought) (b : EventBus) : Option StateEvent :=
  (b.states.heard k.states).find? (·.isOwn k.guild k.selfId)

/-- The first server event since the subscription that assigns a server. -/
def server? (k : Sought) (b : EventBus) : Option ServerEvent :=
  (b.servers.heard k.servers).find? (·.assigns k.guild)

/-- Whether a stream has ended without a match. -/
def Missed (k : Sought) (b : EventBus) : StreamName → Prop
  | .state => k.state? b = none ∧ b.states.closed = true
  | .server => k.server? b = none ∧ b.servers.closed = true

/-- The rendezvous that a join begins with. -/
def rendezvous (k : Sought) : Rendezvous :=
  ⟨k.guild, k.selfId, ⟨k.states⟩, ⟨k.servers⟩, none, none⟩

theorem state?_of_grows {k : Sought} {b b' : EventBus} (h : b.Grows b') {e : StateEvent}
    (he : k.state? b = some e) : k.state? b' = some e :=
  Stream.find?_heard_of_grows h.states he

theorem server?_of_grows {k : Sought} {b b' : EventBus} (h : b.Grows b') {v : ServerEvent}
    (hv : k.server? b = some v) : k.server? b' = some v :=
  Stream.find?_heard_of_grows h.servers hv

/-- What was missed stays missed. -/
theorem Missed.of_grows {k : Sought} {b b' : EventBus} {n : StreamName} (h : k.Missed b n)
    (grows : b.Grows b') : k.Missed b' n := by
  cases n with
  | state =>
    exact ⟨Stream.find?_heard_of_ended grows.states h.2 h.1, grows.states.closed h.2⟩
  | server =>
    exact ⟨Stream.find?_heard_of_ended grows.servers h.2 h.1, grows.servers.closed h.2⟩

/-- What was missed on either stream is not there on both. -/
theorem Missed.not_matched {k : Sought} {b : EventBus} {n : StreamName} (h : k.Missed b n)
    {e : StateEvent} {v : ServerEvent} (he : k.state? b = some e) (hv : k.server? b = some v) :
    False := by
  cases n with
  | state => exact absurd (h.1.symm.trans he) (by simp)
  | server => exact absurd (h.1.symm.trans hv) (by simp)

/-- Whether a rendezvous has taken what is sought and nothing else. -/
structure Faithful (k : Sought) (b : EventBus) (r : Rendezvous) : Prop where
  guild : r.guild = k.guild
  selfId : r.selfId = k.selfId
  state : b.states.Kept (·.isOwn k.guild k.selfId) k.states r.states r.state
  server : b.servers.Kept (·.assigns k.guild) k.servers r.servers r.server

variable {k : Sought} {b b' : EventBus} {r : Rendezvous}

theorem faithful_rendezvous (hs : k.states ≤ b.states.history.length)
    (hv : k.servers ≤ b.servers.history.length) : k.Faithful b k.rendezvous :=
  ⟨rfl, rfl, Stream.kept_begin hs, Stream.kept_begin hv⟩

theorem Faithful.of_grows (h : k.Faithful b r) (grows : b.Grows b') : k.Faithful b' r :=
  ⟨h.guild, h.selfId, h.state.of_grows grows.states, h.server.of_grows grows.servers⟩

theorem Faithful.soonState (h : k.Faithful b r) (reach : r.InReach b) :
    r.soonState b = k.state? b := by
  unfold Rendezvous.soonState
  rw [h.guild, h.selfId]
  exact h.state.or_unread reach.states

theorem Faithful.soonServer (h : k.Faithful b r) (reach : r.InReach b) :
    r.soonServer b = k.server? b := by
  unfold Rendezvous.soonServer
  rw [h.guild]
  exact h.server.or_unread reach.servers

/-- A stream that bars a rendezvous is one that has ended without what is sought. -/
theorem Faithful.barred_iff (h : k.Faithful b r) (reach : r.InReach b) (n : StreamName) :
    r.Barred b n ↔ k.Missed b n := by
  cases n with
  | state => exact and_congr_left' (by rw [h.soonState reach])
  | server => exact and_congr_left' (by rw [h.soonServer reach])

/-- Turns in which nothing was lost leave a rendezvous faithful and in reach. -/
theorem Faithful.of_onward {r' : Rendezvous} (h : k.Faithful b r) (reach : r.InReach b)
    (onward : Rendezvous.Onward b r r') (hs : r'.state = k.state? b)
    (hv : r'.server = k.server? b) : k.Faithful b r' ∧ r'.InReach b := by
  have hstates : r'.state = none → r.state = none ∧ k.states ≤ r.states.passed ∧
      r.states.passed ≤ b.states.history.length :=
    fun hn => h.state.of_none (hs.symm.trans hn)
  have hservers : r'.server = none → r.server = none ∧ k.servers ≤ r.servers.passed ∧
      r.servers.passed ≤ b.servers.history.length :=
    fun hn => h.server.of_none (hv.symm.trans hn)
  have hstatesLe := onward.states_le
  have hserversLe := onward.servers_le
  refine ⟨⟨onward.guild.trans h.guild, onward.selfId.trans h.selfId,
    Stream.kept_of_eq hs fun hn => ?_, Stream.kept_of_eq hv fun hn => ?_⟩, fun hn => ?_,
    fun hn => ?_⟩
  · obtain ⟨-, hle, hlen⟩ := hstates hn
    exact ⟨by omega, onward.states_le_length hlen⟩
  · obtain ⟨-, hle, hlen⟩ := hservers hn
    exact ⟨by omega, onward.servers_le_length hlen⟩
  · have hin := reach.states (hstates hn).1
    omega
  · have hin := reach.servers (hservers hn).1
    omega

/-- How a rendezvous goes on: by the first matches if both are there, by an end without
one, or not at all. -/
def Meets (k : Sought) (b : EventBus) : Meeting → Prop
  | .complete e v => k.state? b = some e ∧ k.server? b = some v
  | .pending r => (k.Faithful b r ∧ r.InReach b) ∧
      (k.state? b = none ∨ k.server? b = none) ∧ ∀ n, ¬ k.Missed b n
  | .closed n => k.Missed b n

theorem Faithful.meets (h : k.Faithful b r) (reach : r.InReach b) {order : TurnOrder}
    {m : Meeting} (hm : r.meet b order = m) : k.Meets b m := by
  have hmet := Rendezvous.meet_spec b order r
  rw [hm] at hmet
  cases m with
  | complete e v =>
    exact ⟨(h.soonState reach).symm.trans hmet.1, (h.soonServer reach).symm.trans hmet.2⟩
  | pending r' =>
    obtain ⟨onward, hs, hv, hwant, hopen⟩ := hmet
    rw [h.soonState reach] at hs hwant
    rw [h.soonServer reach] at hv hwant
    exact ⟨h.of_onward reach onward hs hv, hwant,
      fun n hn => hopen n ((h.barred_iff reach n).mpr hn)⟩
  | closed n => exact (h.barred_iff reach n).mp hmet

end Sought

end VoiceGateway
