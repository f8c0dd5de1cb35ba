import Mathlib.Logic.Function.Basic
import VoiceGateway.Proofs.Handshake.Passage
import VoiceGateway.Proofs.Handshake.Routing

/-!
# Calls over the loopback transport

Over the loopback transport all that a call waits for is published while its command is
being sent. So calls that are made one after another do not wait, and what becomes of them
can be written into a book that knows of no streams, cursors or deadlines (`Book`): how
many commands there were, which sessions were made, and which of them each guild has.

What is left over on the streams from earlier calls is not seen by later ones, since they
subscribe before they send; and that the streams have a window does not matter either,
since what a call wants is the last event of each.

> `Stream.find?_unread_last`: the last event on a stream can be read by whoever has not
> passed it.
> `join_hit`, `join_miss`, `disconnect_loopback`: a call ends when it is first run.
> `Kept.serve`: a book that is true stays true when one more wish is served.
> `loopback_book`: any number of wishes.
-/

namespace VoiceGateway

/-! ## Streams that deliver -/

namespace Stream

variable {α : Type}

/-- A stream that has not ended and has room for an event. -/
structure Live (s : Stream α) : Prop where
  opened : s.closed = false
  room : 0 < s.window

theorem live_create? {capacity : Nat} {s : Stream α} (h : Stream.create? capacity = some s) :
    s.Live := by
  unfold create? at h
  split at h
  · exact absurd h (by simp)
  · injection h with h
    subst h
    exact ⟨rfl, Nat.pos_of_isPowerOfTwo (Nat.isPowerOfTwo_nextPowerOfTwo capacity)⟩

/-- Whoever has not passed the last event can read it, and finds it if nothing before it
is what is looked for. -/
theorem find?_unread_last {s : Stream α} {c : Cursor} {l : List α} {e : α} {p : α → Bool}
    (room : 0 < s.window) (history : s.history = l ++ [e]) (here : c.passed ≤ l.length)
    (others : (l.drop c.passed).find? p = none) (he : p e = true) :
    (s.unread c).find? p = some e := by
  have hlen : s.history.length = l.length + 1 := by rw [history, List.length_append]; rfl
  have hstart : max c.passed s.windowStart ≤ l.length := by
    unfold windowStart
    omega
  have hothers : (l.drop (max c.passed s.windowStart)).find? p = none := by
    rw [List.find?_eq_none] at others ⊢
    intro x hx
    exact others x ((List.drop_sublist_drop_left l (Nat.le_max_left ..)).subset hx)
  unfold unread
  rw [history, List.drop_append_of_le_length hstart, List.find?_append, hothers,
    List.find?_cons_of_pos he]
  rfl

/-- A wait for such an event does not have to wait. -/
theorem Live.wait {s : Stream α} (h : s.Live) {c : Cursor} {e : α} {p : α → Bool}
    (found : (s.unread c).find? p = some e) : ∃ c', s.wait (Option.guard p) c = .found e c' := by
  have hsome : (s.unread c).findSome? (Option.guard p) = some e := by
    rw [List.findSome?_guard, found]
  have hspec := wait_spec s (Option.guard p) c
  cases hw : s.wait (Option.guard p) c with
  | found e' c' =>
    rw [hw] at hspec
    have he : e' = e := Option.some.inj (hspec.symm.trans hsome)
    exact ⟨c', by rw [he]⟩
  | pending c' =>
    rw [hw] at hspec
    exact absurd (hspec.1.symm.trans hsome) (by simp)
  | closed =>
    rw [hw] at hspec
    exact absurd (hspec.symm.trans h.opened) (by simp)

end Stream

namespace EventBus

/-- A bus whose streams deliver. -/
structure Live (b : EventBus) : Prop where
  states : b.states.Live
  servers : b.servers.Live

theorem live_create? {capacity : Nat} {b : EventBus} (h : EventBus.create? capacity = some b) :
    b.Live := by
  obtain ⟨states, hs, h⟩ := Option.bind_eq_some_iff.mp h
  obtain ⟨servers, hv, h⟩ := Option.bind_eq_some_iff.mp h
  injection h with h
  subst h
  exact ⟨Stream.live_create? hs, Stream.live_create? hv⟩

/-- A bus goes on to deliver if no stream of it ends. -/
theorem Live.later {b b' : EventBus} (h : b.Live) (grows : b.Grows b')
    (ended : ∀ stream, b'.ended stream = b.ended stream) : b'.Live := by
  constructor
  · exact ⟨(ended .state).trans h.states.opened, grows.states.window ▸ h.states.room⟩
  · exact ⟨(ended .server).trans h.servers.opened, grows.servers.window ▸ h.servers.room⟩

/-- What a subscriber of the state stream gets of the answer to a command. -/
theorem Live.states_answered {b : EventBus} (h : b.Live) (waited : b.states.subscribers ≠ 0)
    (user : Snowflake) (n : Nat) (u : VoiceUpdate) :
    (b.publishAll (Loopback.events user true n u)).2.states.history =
      b.states.history ++ [Loopback.echo user n u] := by
  have hstates : (b.publishAll (Loopback.events user true n u)).2.states =
      (b.states.publish (Loopback.echo user n u)).2 := by
    unfold Loopback.events
    split <;> rfl
  rw [hstates, Stream.publish_delivered h.states.opened waited]

/-- What a subscriber of the server stream gets of the answer to a join. -/
theorem Live.servers_answered {b : EventBus} (h : b.Live) (waited : b.servers.subscribers ≠ 0)
    (user : Snowflake) (n : Nat) {u : VoiceUpdate} (joins : u.isLeave = false) :
    (b.publishAll (Loopback.events user true n u)).2.servers.history =
      b.servers.history ++ Loopback.assignments n u := by
  let spare : ServerEvent := ⟨u.guild, none, ""⟩
  let server : ServerEvent := ⟨u.guild, some Loopback.endpoint, Loopback.token n⟩
  have hservers : (b.publishAll (Loopback.events user true n u)).2.servers =
      ((b.servers.publish spare).2.publish server).2 := by
    unfold Loopback.events
    rw [joins]
    rfl
  have hserver := Stream.publish_delivered
    (s := { b.servers with history := b.servers.history ++ [spare] }) h.servers.opened waited server
  rw [hservers, Stream.publish_delivered h.servers.opened waited, hserver]
  exact List.append_assoc ..

end EventBus

/-! ## The book -/

namespace Loopback

/-- What a client may wish for. -/
inductive Wish where
  | join (request : JoinRequest)
  | disconnect (guild : Snowflake)

def Wish.job : Wish → Job
  | .join request => .join request
  | .disconnect guild => .disconnect guild

/-- What there is to know: the number of commands so far, the sessions that were ever
made, oldest first, and which of them each guild has. -/
structure Book where
  commands : Nat := 0
  sessions : List SessionRecord := []
  current : Snowflake → Option SessionRef := fun _ => none

namespace Book

variable (user : Snowflake) (count : UInt32)

/-- The session that a join makes. -/
def newSession (b : Book) (q : JoinRequest) : Session where
  guild := q.guild
  channel := q.channel
  selfId := user
  shard := shardOf q.guild count
  sessionId := sessionId b.commands
  server := ⟨endpoint, token b.commands⟩

/-- A join is answered with the session of the guild, and makes one if there is none. -/
def join (b : Book) (q : JoinRequest) : SessionRef × Book :=
  match b.current q.guild with
  | some s => (s, { b with commands := b.commands + 1 })
  | none =>
    let s : SessionRef := ⟨b.sessions.length⟩
    (s, { commands := b.commands + 1
          sessions := b.sessions ++ [⟨b.newSession user count q, .connected⟩]
          current := Function.update b.current q.guild (some s) })

/-- A disconnect takes the session of the guild out and marks it; the answer tells whether
there was one. -/
def disconnect (b : Book) (g : Snowflake) : Bool × Book :=
  match b.current g with
  | none => (false, { b with commands := b.commands + 1 })
  | some s =>
    (true, { commands := b.commands + 1
             sessions := b.sessions.modify s.index fun x => { x with state := .disconnected }
             current := Function.update b.current g none })

theorem join_of_some {b : Book} {q : JoinRequest} {s : SessionRef}
    (hit : b.current q.guild = some s) :
    b.join user count q = (s, { b with commands := b.commands + 1 }) := by
  unfold join
  rw [hit]

theorem join_of_none {b : Book} {q : JoinRequest} (miss : b.current q.guild = none) :
    b.join user count q =
      (⟨b.sessions.length⟩,
        { commands := b.commands + 1
          sessions := b.sessions ++ [⟨b.newSession user count q, .connected⟩]
          current := Function.update b.current q.guild (some ⟨b.sessions.length⟩) }) := by
  unfold join
  rw [miss]

theorem disconnect_of_none {b : Book} {g : Snowflake} (miss : b.current g = none) :
    b.disconnect g = (false, { b with commands := b.commands + 1 }) := by
  unfold disconnect
  rw [miss]

theorem disconnect_of_some {b : Book} {g : Snowflake} {s : SessionRef}
    (hit : b.current g = some s) :
    b.disconnect g =
      (true,
        { commands := b.commands + 1
          sessions := b.sessions.modify s.index fun x => { x with state := .disconnected }
          current := Function.update b.current g none }) := by
  unfold disconnect
  rw [hit]

def serve (b : Book) : Wish → Outcome × Book
  | .join q =>
    let (s, b) := b.join user count q
    (.joined s, b)
  | .disconnect g =>
    let (present, b) := b.disconnect g
    (.left present, b)

/-- The answers to a list of wishes, in order, and the book after them. -/
def serveAll (b : Book) : List Wish → List Outcome × Book
  | [] => ([], b)
  | x :: rest =>
    let (o, b) := b.serve user count x
    let (os, b) := b.serveAll rest
    (o :: os, b)

theorem serve_commands (b : Book) (x : Wish) :
    (b.serve user count x).2.commands = b.commands + 1 := by
  cases x with
  | join q =>
    show (b.join user count q).2.commands = _
    unfold join
    split <;> rfl
  | disconnect g =>
    show (b.disconnect g).2.commands = _
    unfold disconnect
    split <;> rfl

theorem serveAll_commands (b : Book) (wishes : List Wish) :
    (b.serveAll user count wishes).2.commands = b.commands + wishes.length := by
  induction wishes generalizing b with
  | nil => rfl
  | cons x rest ih =>
    have hrest := ih (b.serve user count x).2
    rw [serve_commands] at hrest
    rw [List.length_cons]
    exact hrest.trans (by omega)

/-- Every answer is the answer to its wish. -/
theorem serveAll_answer (b : Book) {wishes : List Wish} {i : Nat} {x : Wish}
    (hx : wishes[i]? = some x) :
    ∃ b' : Book, (b.serveAll user count wishes).1[i]? = some (b'.serve user count x).1 := by
  induction wishes generalizing b i with
  | nil => exact absurd hx (by simp)
  | cons y rest ih =>
    cases i with
    | zero =>
      injection hx with hx
      subst hx
      exact ⟨b, rfl⟩
    | succ i => exact ih (b.serve user count y).2 hx

/-- Every session was made by one of the commands, all of it by the same one. -/
def Coherent (b : Book) : Prop :=
  ∀ (i : Nat) (x : SessionRecord), b.sessions[i]? = some x →
    ∃ n < b.commands, x.session.sessionId = sessionId n ∧
      x.session.server = ⟨endpoint, token n⟩ ∧ x.session.selfId = user ∧
      x.session.shard = shardOf x.session.guild count

variable {user count}

theorem Coherent.join {b : Book} (h : b.Coherent user count) (q : JoinRequest) :
    (b.join user count q).2.Coherent user count := by
  cases hg : b.current q.guild with
  | some s =>
    rw [join_of_some user count hg]
    intro i x hx
    obtain ⟨n, hn, made⟩ := h i x hx
    exact ⟨n, Nat.lt_succ_of_lt hn, made⟩
  | none =>
    rw [join_of_none user count hg]
    intro i x hx
    dsimp only at hx ⊢
    rw [List.getElem?_append] at hx
    split at hx
    · obtain ⟨n, hn, made⟩ := h i x hx
      exact ⟨n, Nat.lt_succ_of_lt hn, made⟩
    · rw [List.mem_singleton.mp (List.mem_of_getElem? hx)]
      exact ⟨b.commands, Nat.lt_succ_self _, rfl, rfl, rfl, rfl⟩

theorem Coherent.disconnect {b : Book} (h : b.Coherent user count) (g : Snowflake) :
    (b.disconnect g).2.Coherent user count := by
  cases hg : b.current g with
  | none =>
    rw [disconnect_of_none hg]
    intro i x hx
    obtain ⟨n, hn, made⟩ := h i x hx
    exact ⟨n, Nat.lt_succ_of_lt hn, made⟩
  | some s =>
    rw [disconnect_of_some hg]
    intro i x hx
    dsimp only at hx ⊢
    rw [List.getElem?_modify] at hx
    obtain ⟨y, hy, rfl⟩ := Option.map_eq_some_iff.mp hx
    obtain ⟨n, hn, made⟩ := h i y hy
    refine ⟨n, Nat.lt_succ_of_lt hn, ?_⟩
    split <;> exact made

theorem Coherent.serveAll {b : Book} (h : b.Coherent user count) (wishes : List Wish) :
    (b.serveAll user count wishes).2.Coherent user count := by
  induction wishes generalizing b with
  | nil => exact h
  | cons x rest ih =>
    cases x with
    | join q => exact ih (h.join q)
    | disconnect g => exact ih (h.disconnect g)

end Book

/-- The acts that serve wishes one after another, each in the order of turns beside it:
every call is started and run once, and the clock stands still. -/
def requests : Nat → List (Wish × TurnOrder) → List (Act Nat)
  | _, [] => []
  | i, (x, order) :: rest => .start i x.job none :: .poll i order :: requests (i + 1) rest

/-- What the book says is what is registered. -/
structure Book.Describes (b : Book) (r : Registry) : Prop where
  sessions : r.records = b.sessions
  current : ∀ g, r.get? g = b.current g

theorem Book.Describes.join_hit {b : Book} {r : Registry} (h : b.Describes r) (user : Snowflake)
    (count : UInt32) {q : JoinRequest} {s : SessionRef} (hit : r.get? q.guild = some s) :
    (b.join user count q).1 = s ∧ (b.join user count q).2.Describes r := by
  rw [Book.join_of_some user count ((h.current q.guild).symm.trans hit)]
  exact ⟨rfl, h.sessions, h.current⟩

theorem Book.Describes.join_miss {b : Book} {r : Registry} (h : b.Describes r) (user : Snowflake)
    (count : UInt32) {q : JoinRequest} (miss : r.get? q.guild = none) :
    (b.join user count q).1 = r.nextRef ∧
      (b.join user count q).2.Describes (r.tryRegister (b.newSession user count q)).2 := by
  have hnext : r.nextRef = ⟨b.sessions.length⟩ := by
    unfold Registry.nextRef
    rw [h.sessions]
  rw [Book.join_of_none user count ((h.current q.guild).symm.trans miss)]
  refine ⟨hnext.symm, ?_, fun g => ?_⟩
  · rw [Registry.tryRegister_of_none miss]
    exact congrArg (· ++ [_]) h.sessions
  · by_cases hg : g = q.guild
    · subst hg
      have hself := Registry.get?_tryRegister_of_none (x := b.newSession user count q) miss
      dsimp only
      rw [Function.update_self, ← hnext]
      exact hself
    · have hother := Registry.get?_tryRegister_of_ne (r := r)
        (x := b.newSession user count q) (g := g) (Ne.symm hg)
      dsimp only
      rw [Function.update_of_ne hg, ← h.current g]
      exact hother

theorem Book.Describes.disconnect {b : Book} {r : Registry} (h : b.Describes r) (g : Snowflake) :
    (b.disconnect g).1 = (r.evict g).1 ∧ (b.disconnect g).2.Describes (r.evict g).2 := by
  cases hg : r.get? g with
  | none =>
    rw [Book.disconnect_of_none ((h.current g).symm.trans hg), Registry.evict_of_none hg]
    exact ⟨rfl, h.sessions, h.current⟩
  | some s =>
    rw [Book.disconnect_of_some ((h.current g).symm.trans hg)]
    refine ⟨?_, ?_, fun g' => ?_⟩
    · rw [Registry.evict_of_some hg]
    · rw [Registry.evict_of_some hg]
      exact congrArg (fun l : List SessionRecord => l.modify s.index _) h.sessions
    · rw [Registry.get?_evict]
      dsimp only
      split
      · next he => rw [← he, Function.update_self]
      · next hne => rw [Function.update_of_ne (Ne.symm hne), h.current g']

end Loopback

/-! ## One call -/

namespace Coordinator

open Loopback

section

variable {σ : Type} {T : Transport σ}

/-- No move touches the clock, nor what is known of the own user id. -/
theorem Move.surroundings {ticket : Nat} {w w' : Coordinator σ} {task : Task} {p : Progress}
    (h : Move T ticket w task p w') : w'.now = w.now ∧ w'.identity = w.identity := by
  have evicted : ∀ g, (w.evict (some ticket) g).2.now = w.now ∧
      (w.evict (some ticket) g).2.identity = w.identity := by
    intro g
    unfold evict
    dsimp only
    split <;> exact ⟨rfl, rfl⟩
  cases h with
  | left => exact evicted _
  | @cleanedUp q cause f =>
    unfold finishFailure
    dsimp only
    split <;> exact evicted q.guild
  | _ => exact ⟨rfl, rfl⟩

theorem Moves.surroundings {ticket : Nat} {w w' : Coordinator σ} {task : Task} {p : Progress}
    (h : Moves T ticket w task p w') : w'.now = w.now ∧ w'.identity = w.identity := by
  induction h with
  | rest w task begun => exact ⟨rfl, rfl⟩
  | last move => exact move.surroundings
  | next move _ ih =>
    exact ⟨ih.1.trans move.surroundings.1, ih.2.trans move.surroundings.2⟩

/-- The session that completes a handshake is registered if the guild has none. -/
theorem completeHandshake_free (w : Coordinator σ) (ticket : Nat) (q : JoinRequest)
    (selfId : Snowflake) (e : StateEvent) (v : ServerEvent)
    (free : w.registry.get? q.guild = none) :
    w.completeHandshake T ticket q selfId e v =
      (.ended (.joined w.registry.nextRef),
        ((w.confirm ticket (sessionOf T q selfId e v)).tryRegister
          (sessionOf T q selfId e v)).2) := by
  have hreg := Registry.tryRegister_of_none (r := w.registry) (x := sessionOf T q selfId e v) free
  rw [completeHandshake_eq]
  unfold tryRegister
  rw [show (w.confirm ticket (sessionOf T q selfId e v)).registry = w.registry from rfl, hreg]

/-- A join of a guild that has no session goes on to gather its confirmations if its command
is taken at once. -/
theorem runTask_accepted {w : Coordinator σ} {me : Snowflake} {q : JoinRequest} {ticket : Nat}
    (own : w.identity.selfId = some me) (miss : w.registry.get? q.guild = none)
    (accepted : (w.sendOpening T ticket q).1 = .settled none) (order : TurnOrder) :
    w.runTask T ticket order (.join q .fresh) =
      (w.sendOpening T ticket q).2.gather T ticket order q
        ⟨q.guild, me, ⟨w.bus.states.history.length⟩, ⟨w.bus.servers.history.length⟩, none, none⟩
        (w.now + q.timeout.nanos) := by
  have hsent : w.sendOpening T ticket q = (.settled none, (w.sendOpening T ticket q).2) :=
    Prod.ext accepted rfl
  show w.beginJoin T ticket order q = _
  rw [beginJoin_eq, miss]
  dsimp only
  rw [openHandshake_lookUp_eq, hsent]
  show (w.sendOpening T ticket q).2.beginGathering T ticket order q _ _ = _
  unfold beginGathering
  rw [show (w.sendOpening T ticket q).2.identity.selfId = some me from own]
  rfl

/-- A handshake that fails ends with that if its leave is taken at once. -/
theorem failHandshake_accepted {w : Coordinator σ} {q : JoinRequest} {ticket : Nat}
    {cause : JoinError} (accepted : (w.sendLeave T ticket q cause).1 = .settled none) :
    w.failHandshake T ticket q cause =
      (.ended (.joinFailed cause),
        ((w.sendLeave T ticket q cause).2.evict (some ticket) q.guild).2) := by
  have hsent : w.sendLeave T ticket q cause = (.settled none, (w.sendLeave T ticket q cause).2) :=
    Prod.ext accepted rfl
  rw [failHandshake_eq, hsent]
  rfl

end

variable {user : Snowflake} {count : UInt32}

/-- A coordinator after a command was handed to the loopback transport. -/
def answered (user : Snowflake) (count : UInt32) (w : Coordinator Nat) (ticket : Nat)
    (u : VoiceUpdate) : Coordinator Nat :=
  { w with
    line := w.line + 1
    bus := (w.bus.publishAll (events user true w.line u)).2
    dispatches := w.dispatches ++ [⟨ticket, .route u count, .settled none⟩] }

/-- The loopback transport takes every command and answers at once. -/
theorem dispatch_loopback (w : Coordinator Nat) (ticket : Nat) (u : VoiceUpdate) :
    w.dispatch (.loopback user count true) ticket u =
      (.settled none, w.answered user count ticket u) := by
  have hsend := Transport.loopback_accepts user count true w.line u
  unfold dispatch
  dsimp only [Transport.loopback] at hsend ⊢
  rw [hsend]
  rfl

/-- A call that ends when it is run for the first time. -/
structure EndsAtOnce (user : Snowflake) (count : UInt32) (w : Coordinator Nat) (ticket : Nat)
    (order : TurnOrder) (task : Task) (o : Outcome) (registry : Registry) : Prop where
  outcome : (w.runTask (.loopback user count true) ticket order task).1 = .ended o
  line : (w.runTask (.loopback user count true) ticket order task).2.line = w.line + 1
  registry : (w.runTask (.loopback user count true) ticket order task).2.registry = registry

/-- The answer to a command leaves a bus that delivers. -/
theorem answered_live {w : Coordinator Nat} (live : w.bus.Live) (ticket : Nat)
    (u : VoiceUpdate) : (w.answered user count ticket u).bus.Live :=
  live.later (EventBus.publishAll_grows _ _) fun stream => EventBus.publishAll_ended stream _ _

/-- The echo of a join is the user's own state in the guild. -/
theorem echo_isOwn (n : Nat) (q : JoinRequest) :
    (echo user n q.update).isOwn q.guild user = true := by
  simp [StateEvent.isOwn, echo, JoinRequest.update, VoiceUpdate.join]

/-- A join of a guild that has a session is answered with it, whatever the state says. -/
theorem join_hit {w : Coordinator Nat} (own : w.identity.selfId = some user) (live : w.bus.Live)
    {q : JoinRequest} {s : SessionRef} (hit : w.registry.get? q.guild = some s) (ticket : Nat)
    (order : TurnOrder) :
    EndsAtOnce user count w ticket order (.join q .fresh) (.joined s) w.registry := by
  let subscribed := (w.lookUp (.loopback user count true) ticket q).subscribeStates.2
  let sent := subscribed.answered user count ticket q.update
  have hlive : subscribed.bus.Live := ⟨⟨live.states.opened, live.states.room⟩, live.servers⟩
  have hrun : w.runTask (.loopback user count true) ticket order (.join q .fresh) =
      sent.awaitEcho q user s ⟨w.bus.states.history.length⟩ := by
    show w.beginJoin (.loopback user count true) ticket order q = _
    rw [beginJoin_eq, hit]
    dsimp only
    rw [renew_lookUp_eq, own, sendRenewal, dispatch_loopback]
    rfl
  have hsent : sent.bus.Live := answered_live hlive ticket q.update
  have hheard : sent.bus.states.history = w.bus.states.history ++ [echo user w.line q.update] :=
    hlive.states_answered (Nat.succ_ne_zero _) user w.line q.update
  obtain ⟨c, hwait⟩ := hsent.states.wait (c := ⟨w.bus.states.history.length⟩)
    (p := (·.isOwn q.guild user)) (Stream.find?_unread_last hsent.states.room hheard (Nat.le_refl _)
      (by rw [List.drop_length]; rfl) (echo_isOwn w.line q))
  have hecho : sent.awaitEcho q user s ⟨w.bus.states.history.length⟩ =
      (.ended (.joined s), sent.unsubscribe .state) := by
    unfold awaitEcho
    rw [hwait]
  rw [hecho] at hrun
  exact ⟨congrArg Prod.fst hrun, congrArg (·.2.line) hrun, congrArg (·.2.registry) hrun⟩

/-- A coordinator once a join of a guild that has no session is subscribed and its command
was answered. -/
def opened (user : Snowflake) (count : UInt32) (w : Coordinator Nat) (ticket : Nat)
    (q : JoinRequest) : Coordinator Nat :=
  ((w.lookUp (.loopback user count true) ticket q).subscribeStates.2.subscribeServers.2).answered
    user count ticket q.update

/-- The session that the answer to a command makes. -/
def answerOf (user : Snowflake) (count : UInt32) (q : JoinRequest) (n : Nat) : Session :=
  ⟨q.guild, q.channel, user, shardOf q.guild count, sessionId n, ⟨endpoint, token n⟩⟩

/-- A join of a guild that has none finds all that it wants in the answer to its command. -/
theorem join_miss_eq {w : Coordinator Nat} (own : w.identity.selfId = some user)
    (live : w.bus.Live) {q : JoinRequest} (miss : w.registry.get? q.guild = none) (ticket : Nat)
    (order : TurnOrder) :
    w.runTask (.loopback user count true) ticket order (.join q .fresh) =
      (.ended (.joined w.registry.nextRef),
        (((w.opened user count ticket q).confirm ticket
          (answerOf user count q w.line)).tryRegister (answerOf user count q w.line)).2) := by
  let subscribed :=
    (w.lookUp (.loopback user count true) ticket q).subscribeStates.2.subscribeServers.2
  let sent := w.opened user count ticket q
  let r : Rendezvous := ⟨q.guild, user, ⟨w.bus.states.history.length⟩,
    ⟨w.bus.servers.history.length⟩, none, none⟩
  let server : ServerEvent := ⟨q.guild, some endpoint, token w.line⟩
  have hlive : subscribed.bus.Live :=
    ⟨⟨live.states.opened, live.states.room⟩, ⟨live.servers.opened, live.servers.room⟩⟩
  have hrun : w.runTask (.loopback user count true) ticket order (.join q .fresh) =
      sent.gather (.loopback user count true) ticket order q r (w.now + q.timeout.nanos) := by
    have hopening : w.sendOpening (.loopback user count true) ticket q = (.settled none, sent) :=
      dispatch_loopback subscribed ticket q.update
    rw [runTask_accepted own miss (congrArg Prod.fst hopening), hopening]
  have hsent : sent.bus.Live := answered_live hlive ticket q.update
  -- The streams hold what the command was answered with, and nothing else for the cursors.
  have hstates : sent.bus.states.history = w.bus.states.history ++ [echo user w.line q.update] :=
    hlive.states_answered (Nat.succ_ne_zero _) user w.line q.update
  have hservers : sent.bus.servers.history =
      (w.bus.servers.history ++ [⟨q.guild, none, ""⟩]) ++ [server] := by
    rw [List.append_assoc]
    exact hlive.servers_answered (Nat.succ_ne_zero _) user w.line q.update_isLeave
  have hstate : r.soonState sent.bus = some (echo user w.line q.update) :=
    Stream.find?_unread_last hsent.states.room hstates (Nat.le_refl _)
      (by rw [List.drop_length]; rfl) (echo_isOwn w.line q)
  have hserver : r.soonServer sent.bus = some server :=
    Stream.find?_unread_last hsent.servers.room hservers (by simp [r])
      (by simp [r, ServerEvent.assigns]) (by simp [r, server, ServerEvent.assigns])
  have hmeet : r.meet sent.bus order = .complete (echo user w.line q.update) server := by
    rcases Rendezvous.meet_open hsent.states.opened hsent.servers.opened r order with
      ⟨e, v, hm, he, hv⟩ | ⟨x, -, hn⟩
    · have he' : e = echo user w.line q.update := Option.some.inj (he.symm.trans hstate)
      have hv' : v = server := Option.some.inj (hv.symm.trans hserver)
      rw [hm, he', hv']
    · rw [hstate, hserver] at hn
      exact absurd hn (by simp)
  have hgather : sent.gather (.loopback user count true) ticket order q r
      (w.now + q.timeout.nanos) = sent.completeHandshake (.loopback user count true) ticket q
        user (echo user w.line q.update) server := by
    unfold gather
    rw [hmeet]
  rw [hrun, hgather, completeHandshake_free sent ticket q user _ _ miss]
  rfl

/-- A join of a guild that has none registers the session that the answer to its command
makes. -/
theorem join_miss {w : Coordinator Nat} (own : w.identity.selfId = some user) (live : w.bus.Live)
    {q : JoinRequest} (miss : w.registry.get? q.guild = none) (ticket : Nat)
    (order : TurnOrder) :
    EndsAtOnce user count w ticket order (.join q .fresh) (.joined w.registry.nextRef)
      (w.registry.tryRegister (answerOf user count q w.line)).2 := by
  have hrun : w.runTask (.loopback user count true) ticket order (.join q .fresh) = _ :=
    join_miss_eq own live miss ticket order
  exact ⟨congrArg Prod.fst hrun, congrArg (·.2.line) hrun, congrArg (·.2.registry) hrun⟩

/-- The command of a disconnect is answered, and the guild is evicted. -/
theorem disconnect_eq (w : Coordinator Nat) (g : Snowflake) (ticket : Nat) (order : TurnOrder) :
    w.runTask (.loopback user count true) ticket order (.disconnect g none) =
      (.ended (.left (w.registry.evict g).1),
        ((w.answered user count ticket (.leave g)).evict (some ticket) g).2) := by
  show w.runDisconnect (.loopback user count true) ticket g none = _
  unfold runDisconnect
  rw [dispatch_loopback]
  rfl

/-- A disconnect evicts the guild. -/
theorem disconnect_loopback (w : Coordinator Nat) (g : Snowflake) (ticket : Nat)
    (order : TurnOrder) :
    EndsAtOnce user count w ticket order (.disconnect g none) (.left (w.registry.evict g).1)
      (w.registry.evict g).2 := by
  have hrun : w.runTask (.loopback user count true) ticket order (.disconnect g none) = _ :=
    disconnect_eq w g ticket order
  refine ⟨congrArg Prod.fst hrun, (congrArg (·.2.line) hrun).trans ?_,
    (congrArg (·.2.registry) hrun).trans ?_⟩
  · exact evict_line _ (some ticket) g
  · exact evict_registry _ (some ticket) g

/-! ## Any number of calls -/

/-- A wish is served in one run of its call, and the book says how. -/
theorem serve_ends (count : UInt32) {b : Book} {w : Coordinator Nat}
    (own : w.identity.selfId = some user) (live : w.bus.Live) (line : w.line = b.commands)
    (described : b.Describes w.registry) (x : Wish) (ticket : Nat) (order : TurnOrder) :
    ∃ registry, (b.serve user count x).2.Describes registry ∧
      EndsAtOnce user count w ticket order x.job.task (b.serve user count x).1 registry := by
  cases x with
  | join q =>
    cases hg : w.registry.get? q.guild with
    | some s =>
      obtain ⟨hs, hdescribed⟩ := described.join_hit user count hg
      refine ⟨w.registry, hdescribed, ?_⟩
      show EndsAtOnce user count w ticket order _ (.joined (b.join user count q).1) _
      rw [hs]
      exact join_hit own live hg ticket order
    | none =>
      obtain ⟨hs, hdescribed⟩ := described.join_miss user count hg
      refine ⟨_, hdescribed, ?_⟩
      show EndsAtOnce user count w ticket order _ (.joined (b.join user count q).1) _
      rw [hs, Book.newSession, ← line]
      exact join_miss own live hg ticket order
  | disconnect g =>
    obtain ⟨hpresent, hdescribed⟩ := described.disconnect g
    refine ⟨_, hdescribed, ?_⟩
    show EndsAtOnce user count w ticket order _ (.left (b.disconnect g).1) _
    rw [hpresent]
    exact disconnect_loopback w g ticket order

/-- A coordinator between two calls, and a book that is true of it; with the answers so
far. -/
structure Kept (user : Snowflake) (b : Book) (answers : List Outcome) (w : Coordinator Nat) :
    Prop where
  own : w.identity.selfId = some user
  live : w.bus.Live
  now : w.now = 0
  idle : w.calls = []
  line : w.line = b.commands
  described : b.Describes w.registry
  answered : ∀ i, w.outcome? i = answers[i]?

/-- One more wish. -/
theorem Kept.serve (count : UInt32) {b : Book} {answers : List Outcome} {w : Coordinator Nat}
    (h : Kept user b answers w) (x : Wish) (order : TurnOrder) :
    Kept user (b.serve user count x).2 (answers ++ [(b.serve user count x).1])
      (run (.loopback user count true) w
        [.start answers.length x.job none, .poll answers.length order]) := by
  let i := answers.length
  let started : Coordinator Nat := { w with calls := [⟨i, x.job.task, none, none⟩] }
  let ran := started.runTask (.loopback user count true) i order x.job.task
  have hunanswered : w.outcome? i = none := by
    rw [h.answered, List.getElem?_eq_none (Nat.le_refl _)]
  have hfresh : w.isFresh i = true := by
    refine (isFresh_iff w i).mpr ⟨?_, hunanswered⟩
    unfold call?
    rw [h.idle]
    rfl
  have hstart : w.start i x.job.task none = started := by
    rw [start_eq hfresh, h.idle]
    rfl
  have hfound : started.call? i = some ⟨i, x.job.task, none, none⟩ := by
    rw [← hstart, call?_start hfresh, if_pos rfl]
  obtain ⟨registry, hdescribed, hends⟩ :=
    serve_ends count (w := started) h.own h.live h.line h.described x i order
  obtain ⟨limit, hpoll⟩ := poll_eq (T := .loopback user count true) hfound order
  have hrun : run (.loopback user count true) w [.start i x.job none, .poll i order] =
      ran.2.finish i (b.serve user count x).1 := by
    show (w.start i x.job.task none).poll (.loopback user count true) order i = _
    rw [hstart, hpoll]
    dsimp only
    rw [hends.outcome]
    rfl
  have hmoves := moves_runTask (T := .loopback user count true) started i order x.job.task
  have hcalls := hmoves.calls
  have hsurroundings := hmoves.surroundings
  have hgrows : Grows (fun _ => True) started ran.2 := hmoves.grows trivial
  rw [hrun]
  refine ⟨?_, ?_, ?_, ?_, ?_, ?_, fun j => ?_⟩
  · exact (congrArg Identity.selfId hsurroundings.2).trans h.own
  · exact h.live.later hgrows.bus hmoves.ended
  · exact hsurroundings.1.trans h.now
  · show ran.2.calls.filter _ = []
    rw [hcalls.1]
    simp [started]
  · have hcommands := Book.serve_commands user count b x
    exact hends.line.trans ((congrArg (· + 1) h.line).trans hcommands.symm)
  · exact hends.registry ▸ hdescribed
  · rw [outcome?_finish, outcome?_congr hcalls.2]
    show (w.outcome? j).or _ = _
    rw [h.answered j]
    rcases Nat.lt_trichotomy j i with hlt | rfl | hgt
    · rw [if_neg (Nat.ne_of_gt hlt), Option.or_none, List.getElem?_append_left hlt]
    · rw [if_pos rfl, List.getElem?_concat_length, List.getElem?_eq_none (Nat.le_refl _)]
      rfl
    · rw [if_neg (Nat.ne_of_lt hgt), Option.or_none, List.getElem?_eq_none (Nat.le_of_lt hgt),
        List.getElem?_eq_none (by rw [List.length_append]; exact hgt)]

/-- One wish after the other. -/
theorem Kept.run (count : UInt32) : ∀ (wishes : List (Wish × TurnOrder)) {b : Book}
    {answers : List Outcome} {w : Coordinator Nat}, Kept user b answers w →
      Kept user (b.serveAll user count (wishes.map (·.1))).2
        (answers ++ (b.serveAll user count (wishes.map (·.1))).1)
        (Coordinator.run (.loopback user count true) w (requests answers.length wishes))
  | [], b, answers, w, h => by
    show Kept user b (answers ++ []) w
    rw [List.append_nil]
    exact h
  | (x, order) :: rest, b, answers, w, h => by
    have hrest := Kept.run count rest (h.serve count x order)
    rw [List.length_append, List.append_assoc] at hrest
    exact hrest

theorem kept_start {identity : Identity} {bus : EventBus} (own : identity.selfId = some user)
    (live : bus.Live) : Kept user {} [] { line := 0, identity, bus } :=
  ⟨own, live, rfl, rfl, rfl, ⟨rfl, fun _ => rfl⟩, fun _ => rfl⟩

/-- Wishes are served one after another through one coordinator over the loopback
transport: any wishes of any length, with any requests, any number of shards, any order of
turns, and streams with any window. Each join ends with a session and each disconnect
returns, in the first run of its call and with the clock standing still. The answers are
those of the book, and so is what is registered at the end: which sessions were ever made
and in which state they are, which session each guild has, and what the list shows. The
session id and the token of a session stem from the same command. -/
theorem loopback_book (user : Snowflake) (count : UInt32) {identity : Identity} {bus : EventBus}
    (own : identity.selfId = some user) (live : bus.Live) (wishes : List (Wish × TurnOrder)) :
    let w := run (.loopback user count true) { line := 0, identity, bus } (requests 0 wishes)
    let answers := (Book.serveAll user count {} (wishes.map (·.1))).1
    let book := (Book.serveAll user count {} (wishes.map (·.1))).2
    (∀ i, w.outcome? i = answers[i]?) ∧
    (∀ i q order, wishes[i]? = some (.join q, order) → ∃ s, w.outcome? i = some (.joined s)) ∧
    (∀ i g order, wishes[i]? = some (.disconnect g, order) →
      ∃ present, w.outcome? i = some (.left present)) ∧
    w.calls = [] ∧ w.now = 0 ∧
    w.line = wishes.length ∧ book.commands = wishes.length ∧
    w.registry.records = book.sessions ∧ (∀ g, w.registry.get? g = book.current g) ∧
    (∀ info, info ∈ w.registry.list ↔ ∃ g s x, book.current g = some s ∧
      book.sessions[s.index]? = some x ∧ info = x.session.info x.state) ∧
    ∀ x ∈ w.registry.records, ∃ n < wishes.length, x.session.sessionId = sessionId n ∧
      x.session.server = ⟨endpoint, token n⟩ ∧ x.session.selfId = user ∧
      x.session.shard = shardOf x.session.guild count := by
  intro w answers book
  have hw : Kept user book answers w := (kept_start own live).run count wishes
  have hcommands : book.commands = wishes.length := by
    have hserved := Book.serveAll_commands user count {} (wishes.map (·.1))
    rw [List.length_map] at hserved
    exact hserved.trans (Nat.zero_add _)
  have hanswer : ∀ i x order, wishes[i]? = some (x, order) →
      ∃ b, w.outcome? i = some (Book.serve user count b x).1 := by
    intro i x order hx
    rw [hw.answered]
    exact Book.serveAll_answer user count {} (by rw [List.getElem?_map, hx]; rfl)
  refine ⟨hw.answered, fun i q order hx => ?_, fun i g order hx => ?_, hw.idle, hw.now,
    hw.line.trans hcommands, hcommands, hw.described.sessions, hw.described.current,
    fun info => ?_, fun x hx => ?_⟩
  · obtain ⟨b, hb⟩ := hanswer i _ order hx
    exact ⟨_, hb⟩
  · obtain ⟨b, hb⟩ := hanswer i _ order hx
    exact ⟨_, hb⟩
  · rw [Registry.mem_list_iff]
    constructor
    · rintro ⟨g, s, hg, hs⟩
      obtain ⟨x, hx, rfl⟩ := Option.map_eq_some_iff.mp hs
      exact ⟨g, s, x, (hw.described.current g).symm.trans hg, hw.described.sessions ▸ hx, rfl⟩
    · rintro ⟨g, s, x, hg, hx, rfl⟩
      refine ⟨g, s, (hw.described.current g).trans hg, Option.map_eq_some_iff.mpr ⟨x, ?_, rfl⟩⟩
      show w.registry.records[s.index]? = some x
      rw [hw.described.sessions]
      exact hx
  · obtain ⟨i, hi⟩ := List.mem_iff_getElem?.mp hx
    rw [hw.described.sessions] at hi
    have hempty : Book.Coherent user count {} := fun _ _ h => absurd h (by simp)
    obtain ⟨n, hn, made⟩ := hempty.serveAll (wishes.map (·.1)) i x hi
    exact ⟨n, hcommands ▸ hn, made⟩

/-- A guild that is joined twice, left and joined again, on streams that hold one event. -/
theorem loopback_book_of_rejoin :
    let bus : EventBus := ⟨{ window := 1 }, { window := 1 }⟩
    let q : JoinRequest := ⟨⟨1⟩, ⟨2⟩, false, false, .ofSecs 5⟩
    let wishes : List (Wish × TurnOrder) :=
      [(.join q, statesFirst), (.join { q with channel := ⟨3⟩ }, fun _ => .server),
        (.disconnect ⟨1⟩, statesFirst), (.join q, fun _ => .server)]
    let w := run (.loopback ⟨7⟩ 0 true) { line := 0, identity := .fixed (some ⟨7⟩), bus }
      (requests 0 wishes)
    EventBus.create? 1 = some bus ∧
      w.outcome? 0 = some (.joined ⟨0⟩) ∧ w.outcome? 1 = some (.joined ⟨0⟩) ∧
      w.outcome? 2 = some (.left true) ∧ w.outcome? 3 = some (.joined ⟨1⟩) := by
  intro bus q wishes w
  have window : Nat.nextPowerOfTwo 1 = 1 := by decide +kernel
  have created : EventBus.create? 1 = some bus := by
    simp [EventBus.create?, Stream.create?, window, bus]
  have own : (Identity.fixed (some ⟨7⟩)).selfId = some ⟨7⟩ := rfl
  have answered := (loopback_book ⟨7⟩ 0 own (EventBus.live_create? created) wishes).1
  exact ⟨created, answered 0, answered 1, answered 2, answered 3⟩

end Coordinator

end VoiceGateway
