import VoiceGateway.Proofs.Handshake.Alone
import VoiceGateway.Proofs.Handshake.Audience
import VoiceGateway.Proofs.Handshake.Convergence
import VoiceGateway.Proofs.Handshake.Following

/-!
# What others get of a call

While a call goes on its commands are taken, and what the transport publishes as it takes
them is delivered to everybody else who is subscribed (`Passage`). Nothing else that the
call does reaches the others: its own subscriptions come and go.

> `Moves.passage`: a call sends commands about its guild only, and the others get what is
> published meanwhile.
-/

namespace VoiceGateway

/-! ## Deliveries -/

def GatewayEvent.asState : GatewayEvent → Option StateEvent
  | .state e => some e
  | .server _ => none

def GatewayEvent.asServer : GatewayEvent → Option ServerEvent
  | .state _ => none
  | .server v => some v

/-- What is of a kind may be picked out before or after it is read. -/
theorem filterMap_filter_of_kind {α β : Type} {f : α → Option β} {p : α → Bool} {q : β → Bool}
    (h : ∀ a b, f a = some b → p a = q b) (l : List α) :
    (l.filter p).filterMap f = (l.filterMap f).filter q := by
  rw [List.filterMap_filter, List.filter_filterMap]
  congr 1
  funext a
  cases ha : f a with
  | none => exact ite_self none
  | some b =>
    rw [Option.filter_some, h a b ha]

theorem filterMap_asState_about (g : Snowflake) (es : List GatewayEvent) :
    (es.filter fun e => e.guild = g).filterMap GatewayEvent.asState =
      (es.filterMap GatewayEvent.asState).filter (·.guild == g) := by
  refine filterMap_filter_of_kind (fun e x he => ?_) es
  cases e with
  | state e =>
    injection he with he
    subst he
    exact (beq_eq_decide e.guild g).symm
  | server v => exact absurd he (by simp [GatewayEvent.asState])

theorem filterMap_asServer_about (g : Snowflake) (es : List GatewayEvent) :
    (es.filter fun e => e.guild = g).filterMap GatewayEvent.asServer =
      (es.filterMap GatewayEvent.asServer).filter (·.guild == g) := by
  refine filterMap_filter_of_kind (fun e x he => ?_) es
  cases e with
  | state e => exact absurd he (by simp [GatewayEvent.asServer])
  | server v =>
    injection he with he
    subst he
    exact (beq_eq_decide v.guild g).symm

namespace EventBus

/-- Of these events a stream has delivered those of its kind, and nothing else. -/
def Delivers (b b' : EventBus) (es : List GatewayEvent) : StreamName → Prop
  | .state => b'.states.history = b.states.history ++ es.filterMap GatewayEvent.asState
  | .server => b'.servers.history = b.servers.history ++ es.filterMap GatewayEvent.asServer

variable {b b' b'' d d' : EventBus} {es es' : List GatewayEvent} {stream : StreamName}

theorem delivers_of_eq (states : b'.states.history = b.states.history)
    (servers : b'.servers.history = b.servers.history) : b.Delivers b' [] stream := by
  cases stream with
  | state => exact states.trans (List.append_nil _).symm
  | server => exact servers.trans (List.append_nil _).symm

theorem Delivers.trans (h : b.Delivers b' es stream) (h' : b'.Delivers b'' es' stream) :
    b.Delivers b'' (es ++ es') stream := by
  cases stream with
  | state =>
    show b''.states.history = b.states.history ++ (es ++ es').filterMap _
    rw [show b''.states.history = _ from h', show b'.states.history = _ from h,
      List.filterMap_append, List.append_assoc]
  | server =>
    show b''.servers.history = b.servers.history ++ (es ++ es').filterMap _
    rw [show b''.servers.history = _ from h', show b'.servers.history = _ from h,
      List.filterMap_append, List.append_assoc]

theorem publish_delivers (e : GatewayEvent) (opened : b.ended stream = false)
    (held : b.subscribers stream ≠ 0) : b.Delivers (b.publish e).2 [e] stream := by
  have appended : ∀ {α : Type} (s : Stream α) (x : α), s.closed = false → s.subscribers ≠ 0 →
      (s.publish x).2.history = s.history ++ [x] := by
    intro α s x hc hs
    unfold Stream.publish
    rw [if_neg (by simp [hc]), if_neg hs]
  cases e with
  | state e =>
    cases stream with
    | state => exact appended b.states e opened held
    | server => exact (List.append_nil _).symm
  | server v =>
    cases stream with
    | state => exact (List.append_nil _).symm
    | server => exact appended b.servers v opened held

/-- What is published to an open stream with a subscriber is delivered. -/
theorem publishAll_delivers : ∀ (es : List GatewayEvent) (b : EventBus),
    b.ended stream = false → b.subscribers stream ≠ 0 →
      b.Delivers (b.publishAll es).2 es stream
  | [], _, _, _ => delivers_of_eq rfl rfl
  | e :: es, b, opened, held => by
    have hopened := (publish_ended b e stream).trans opened
    have hheld : (b.publish e).2.subscribers stream ≠ 0 :=
      fun hn => held ((publish_subscribers b e stream).symm.trans hn)
    exact (publish_delivers e opened held).trans (publishAll_delivers es _ hopened hheld)

/-- Cursors on the streams of this name on two buses, the second one with the events about
a guild only. -/
def Follows (g : Snowflake) (b d : EventBus) : StreamName → Cursor → Cursor → Prop
  | .state, c, c' => b.states.Follows (·.guild == g) d.states c c'
  | .server, c, c' => b.servers.Follows (·.guild == g) d.servers c c'

/-- Events are delivered on both buses, on the second one those about the guild. -/
theorem Follows.delivered {g : Snowflake} {c c' : Cursor} (h : Follows g b d stream c c')
    (hb : b.Delivers b' es stream) (hd : d.Delivers d' (es.filter fun e => e.guild = g) stream) :
    Follows g b' d' stream c c' := by
  cases stream with
  | state =>
    refine Stream.Follows.extend h hb ?_
    rw [← filterMap_asState_about]
    exact hd
  | server =>
    refine Stream.Follows.extend h hb ?_
    rw [← filterMap_asServer_about]
    exact hd

end EventBus

namespace Coordinator

variable {σ : Type} {T : Transport σ}

/-! ## Passages -/

/-- What others than a call about a guild get while it goes on: commands about the guild
are taken, and a stream that somebody else holds delivers what is published meanwhile. -/
structure Passage (T : Transport σ) (others : StreamName → Nat) (g : Snowflake)
    (w w' : Coordinator σ) (sent : List Dispatch) : Prop where
  dispatches : w'.dispatches = w.dispatches ++ sent
  line : w'.line = T.after w.line (sent.map (·.command))
  about : ∀ d ∈ sent, d.command.update.guild = g
  delivers : ∀ stream, others stream ≠ 0 → w.bus.ended stream = false →
    w.bus.Delivers w'.bus (T.published w.line (sent.map (·.command))) stream

variable {others : StreamName → Nat} {g : Snowflake} {w w' w'' : Coordinator σ}

/-- Nothing is sent, and nothing delivered. -/
theorem passage_nil (dispatches : w'.dispatches = w.dispatches) (line : w'.line = w.line)
    (states : w'.bus.states.history = w.bus.states.history)
    (servers : w'.bus.servers.history = w.bus.servers.history) : Passage T others g w w' [] :=
  ⟨dispatches.trans (List.append_nil _).symm, line, fun _ hd => absurd hd List.not_mem_nil,
    fun _ _ _ => EventBus.delivers_of_eq states servers⟩

/-- One command is sent; before that the call may have subscribed or unsubscribed. -/
theorem passage_dispatch (w x : Coordinator σ) (u : VoiceUpdate)
    (dispatches : x.dispatches = w.dispatches)
    (line : x.line = w.line) (states : x.bus.states.history = w.bus.states.history)
    (servers : x.bus.servers.history = w.bus.servers.history)
    (ended : ∀ stream, x.bus.ended stream = w.bus.ended stream)
    (held : ∀ stream, others stream ≠ 0 → x.bus.subscribers stream ≠ 0) (ticket : Nat)
    (own : u.guild = g) :
    Passage T others g w (x.dispatch T ticket u).2 [x.entry T ticket u] := by
  refine ⟨congrArg (· ++ _) dispatches, ?_, ?_, fun stream hothers opened => ?_⟩
  · show (T.send x.line _).2.2 = (T.send w.line _).2.2
    rw [line]
    rfl
  · intro d hd
    rw [List.mem_singleton.mp hd]
    exact own
  · have hdelivers := EventBus.publishAll_delivers
      (T.send x.line (.route u T.shardCount)).2.1 x.bus ((ended stream).trans opened)
      (held stream hothers)
    have hsame : w.bus.Delivers x.bus [] stream := EventBus.delivers_of_eq states servers
    have hpublished : T.published w.line ([x.entry T ticket u].map (·.command)) =
        (T.send x.line (.route u T.shardCount)).2.1 := by
      rw [line]
      exact List.append_nil _
    rw [hpublished]
    exact hsame.trans hdelivers

theorem Passage.trans {sent sent' : List Dispatch} (h : Passage T others g w w' sent)
    (h' : Passage T others g w' w'' sent')
    (ended : ∀ stream, w'.bus.ended stream = w.bus.ended stream) :
    Passage T others g w w'' (sent ++ sent') := by
  refine ⟨?_, ?_, ?_, fun stream hothers opened => ?_⟩
  · rw [h'.dispatches, h.dispatches, List.append_assoc]
  · rw [h'.line, h.line, List.map_append, Transport.after_append]
  · intro d hd
    rcases List.mem_append.mp hd with hd | hd
    · exact h.about d hd
    · exact h'.about d hd
  · have hlater := h'.delivers stream hothers ((ended stream).trans opened)
    rw [h.line] at hlater
    rw [List.map_append, Transport.published_append]
    exact (h.delivers stream hothers opened).trans hlater

theorem evict_line (w : Coordinator σ) (t : Option Nat) (g : Snowflake) :
    (w.evict t g).2.line = w.line := by
  unfold evict
  dsimp only
  split <;> rfl

theorem finishFailure_line (w : Coordinator σ) (ticket : Nat) (g : Snowflake) (cause : JoinError)
    (refusal : Option TransportError) :
    (w.finishFailure ticket g cause refusal).2.line = w.line := by
  cases refusal with
  | none => exact evict_line w _ g
  | some e => exact evict_line w _ g

theorem Move.passage {ticket : Nat} {task : Task} {p : Progress}
    (h : Move T ticket w task p w')
    (hw : ∀ stream, w.bus.subscribers stream = others stream + (task.holds stream).toNat) :
    ∃ sent, Passage T others task.guild w w' sent := by
  have held : ∀ stream, others stream ≠ 0 → w.bus.subscribers stream ≠ 0 := by
    intro stream hothers hn
    have hsub := hw stream
    omega
  cases h with
  | leave =>
    exact ⟨_, passage_dispatch w w _ rfl rfl rfl rfl (fun _ => rfl) held ticket rfl⟩
  | left =>
    have hbus := evict_bus w (some ticket)
    exact ⟨[], passage_nil (evict_dispatches w _ _) (evict_line w _ _)
      (congrArg (·.states.history) (hbus _)) (congrArg (·.servers.history) (hbus _))⟩
  | @renew q s selfId hit known =>
    refine ⟨_, passage_dispatch w (w.lookUp T ticket q).subscribeStates.2 q.update rfl rfl rfl
      rfl (fun stream => by cases stream <;> rfl) (fun stream hothers => ?_) ticket rfl⟩
    cases stream with
    | state => exact Nat.succ_ne_zero _
    | server => exact held .server hothers
  | @«open» q miss =>
    refine ⟨_, passage_dispatch w (w.lookUp T ticket q).subscribeStates.2.subscribeServers.2
      q.update rfl rfl rfl rfl (fun stream => by cases stream <;> rfl) (fun stream hothers => ?_)
      ticket rfl⟩
    cases stream with
    | state => exact Nat.succ_ne_zero _
    | server => exact Nat.succ_ne_zero _
  | @fail q stage cause fails =>
    refine ⟨_, passage_dispatch w (w.unsubscribeBoth.note (some ticket) _) (.leave q.guild)
      rfl rfl rfl rfl (fun stream => by cases stream <;> rfl) (fun stream hothers => ?_) ticket rfl⟩
    -- The call gives back its own subscriptions, and those of the others are left.
    have hothers' : w.unsubscribeBoth.bus.subscribers stream = others stream := by
      cases fails with
      | selfIdMissing => exact unsubscribeBoth_subscribers w (hw stream)
      | streamClosed => exact unsubscribeBoth_subscribers w (hw stream)
      | expired => exact unsubscribeBoth_subscribers w (hw stream)
    exact fun hn => hothers (hothers'.symm.trans hn)
  | cleanedUp =>
    have hbus := finishFailure_bus w ticket
    exact ⟨[], passage_nil (finishFailure_dispatches w _ _ _ _) (finishFailure_line w _ _ _ _)
      (congrArg (·.states.history) (hbus _ _ _)) (congrArg (·.servers.history) (hbus _ _ _))⟩
  | _ => exact ⟨[], passage_nil rfl rfl rfl rfl⟩

/-- A call sends commands about its guild only, and the others get what is published
meanwhile. -/
theorem Moves.passage {ticket : Nat} {task : Task} {p : Progress}
    (h : Moves T ticket w task p w')
    (hw : ∀ stream, w.bus.subscribers stream = others stream + (task.holds stream).toNat) :
    ∃ sent, Passage T others task.guild w w' sent := by
  induction h with
  | rest w task begun => exact ⟨[], passage_nil rfl rfl rfl rfl⟩
  | last move => exact move.passage hw
  | next move _ ih =>
    obtain ⟨sent, hsent⟩ := move.passage hw
    obtain ⟨sent', hsent'⟩ := ih fun stream => move.subscribers (hw stream)
    rw [move.guild] at hsent'
    exact ⟨sent ++ sent', hsent.trans hsent' move.ended⟩

end Coordinator

end VoiceGateway
