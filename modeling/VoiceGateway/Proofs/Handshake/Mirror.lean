import VoiceGateway.Proofs.Handshake.Alongside
import VoiceGateway.Proofs.Handshake.Course

/-!
# A coordinator that mirrors another

In a run for many guilds and in what is left of it for one of them, the coordinators are
alike to the guild at every moment, and the calls for the guild are at the same point: the
same ones are pending, they wait for the same things, and those that have ended have ended
in the same way (`Mirrors`).

This is kept by what is done for the guild, on both sides, and by what is done for others
on the one side, if on the other side those events are published that are about the guild.

> `Mirrored.ran`, `Mirrored.gaveUp`: a call for the guild is run, or given up, on both sides.
> `Mirrored.served`: a call for another guild is run, or given up, on the one side.
-/

namespace VoiceGateway

/-- Two calls for a guild at the same point, on two buses. -/
structure Call.Follows (ρ : SessionRef → SessionRef) (g : Snowflake) (b d : EventBus)
    (c c' : Call) : Prop where
  ticket : c'.ticket = c.ticket
  patience : c'.patience = c.patience
  limit : c'.limit = c.limit
  tasks : Task.Follows ρ g b d c.task c'.task

/-- Events are delivered to both calls, to the second one those about the guild. -/
theorem Call.Follows.delivered {ρ : SessionRef → SessionRef} {g : Snowflake}
    {b b' d d' : EventBus} {c c' : Call} (h : Call.Follows ρ g b d c c') (es : List GatewayEvent)
    (here : ∀ stream, c.task.holds stream = true → b.Delivers b' es stream)
    (there : ∀ stream, c.task.holds stream = true →
      d.Delivers d' (es.filter fun e => e.guild = g) stream) : Call.Follows ρ g b' d' c c' :=
  ⟨h.ticket, h.patience, h.limit, h.tasks.later fun stream holds _ _ cursors =>
    cursors.delivered (here stream holds) (there stream holds)⟩

namespace Coordinator

variable {σ : Type} {T : Transport σ} {rule : ShardCommand → Option TransportError}
  {ρ : SessionRef → SessionRef} {g : Snowflake} {w w' v v' : Coordinator σ} {ticket : Nat}

/-! ## Sound coordinators -/

/-- A coordinator with one subscriber for each call that holds a stream, and no other. -/
structure Sound (w : Coordinator σ) : Prop where
  tidy : w.Tidy
  lawful : w.registry.Lawful
  subscribed : w.Subscribed fun _ => 0

theorem Change.sound {a : Act σ} (h : Change T a w w') (hw : w.Sound) : w'.Sound :=
  ⟨h.tidy hw.tidy, h.grows.registry.lawful hw.lawful, h.subscribed hw.tidy hw.subscribed⟩

theorem Sound.beside (h : w.Sound) {c : Call} (found : w.call? ticket = some c)
    (stream : StreamName) :
    w.bus.subscribers stream = w.holdersBeside ticket stream + (c.task.holds stream).toNat := by
  rw [h.subscribed, Nat.zero_add, h.tidy.holders found]

theorem Sound.subscribers_ne_zero (h : w.Sound) {c : Call} (found : w.call? ticket = some c)
    {stream : StreamName} (holds : c.task.holds stream = true) :
    w.bus.subscribers stream ≠ 0 := by
  rw [h.beside found, holds]
  exact Nat.succ_ne_zero _

/-- A call that holds a stream is one of those beside another one. -/
theorem holdersBeside_ne_zero {x : Call} (found : w.call? x.ticket = some x)
    (other : x.ticket ≠ ticket) {stream : StreamName} (holds : x.task.holds stream = true) :
    w.holdersBeside ticket stream ≠ 0 := by
  refine Nat.pos_iff_ne_zero.mp (List.countP_pos_iff.mpr ⟨x, ?_, holds⟩)
  exact List.mem_filter.mpr ⟨mem_calls_of_call? found, decide_eq_true other⟩

theorem Like.settle {b d : EventBus} (h : Like ρ g w v) {p p' : Progress}
    (progress : Progress.Follows ρ g b d p p') (c c' : Call) :
    Like ρ g (w.settle c p) (v.settle c' p') := by
  cases progress with
  | pending tasks => exact h.aside _ _ _ _ _ _
  | ended o => exact h.aside _ _ _ _ _ _

/-! ## Mirrors -/

/-- The second coordinator shows of the first one what is about a guild, as far as the
tickets go that satisfy `Among`. -/
structure Mirrors (ρ : SessionRef → SessionRef) (g : Snowflake) (Among : Nat → Prop)
    (w v : Coordinator σ) : Prop where
  like : Like ρ g w v
  /-- The calls for the guild are there. -/
  own : ∀ {ticket c}, Among ticket → w.call? ticket = some c → c.task.guild = g →
    ∃ c', v.call? ticket = some c' ∧ Call.Follows ρ g w.bus v.bus c c'
  /-- No other calls are. -/
  only : ∀ {ticket c'}, Among ticket → v.call? ticket = some c' →
    ∃ c, w.call? ticket = some c ∧ c.task.guild = g
  outcomes : ∀ {ticket o'}, Among ticket → v.outcome? ticket = some o' →
    ∃ o, w.outcome? ticket = some o ∧ o' = o.rename ρ

/-- The second coordinator shows of the first one what is about a guild. -/
abbrev Mirrored (ρ : SessionRef → SessionRef) (g : Snowflake) (w v : Coordinator σ) : Prop :=
  Mirrors ρ g (fun _ => True) w v

/-- A ticket that has not been used on the one side is free on the other. -/
theorem Mirrored.isFresh (m : Mirrored ρ g w v) (unused : w.isFresh ticket = true) :
    v.isFresh ticket = true := by
  obtain ⟨hcall, hout⟩ := (isFresh_iff w ticket).mp unused
  refine (isFresh_iff v ticket).mpr ⟨?_, ?_⟩
  · cases hv : v.call? ticket with
    | none => rfl
    | some c' =>
      obtain ⟨c, found, -⟩ := m.only trivial hv
      exact absurd (hcall.symm.trans found) (by simp)
  · cases hv : v.outcome? ticket with
    | none => rfl
    | some o' =>
      obtain ⟨o, ended, -⟩ := m.outcomes trivial hv
      exact absurd (hout.symm.trans ended) (by simp)

/-- A call that was started on both sides has the same outcome on both, or none yet. -/
theorem Mirrored.outcome? (m : Mirrored ρ g w v) (tidy : w.Tidy)
    (used : v.isFresh ticket ≠ true) :
    v.outcome? ticket = (w.outcome? ticket).map (·.rename ρ) := by
  cases hv : v.outcome? ticket with
  | some o' =>
    obtain ⟨o, ended, rfl⟩ := m.outcomes trivial hv
    rw [ended]
    rfl
  | none =>
    cases hc : v.call? ticket with
    | none => exact absurd ((isFresh_iff v ticket).mpr ⟨hc, hv⟩) used
    | some c' =>
      obtain ⟨c, found, -⟩ := m.only trivial hc
      rw [tidy.outcome?_eq_none found]
      rfl

/-- Nothing becomes of the calls for the guild; but events are delivered to them, on the
second side those about the guild. -/
theorem Mirrors.delivered {Among Among' : Nat → Prop} (m : Mirrors ρ g Among w v)
    (fewer : ∀ t, Among' t → Among t) (like : Like ρ g w' v')
    (calls : ∀ t c, c.task.guild = g → (w'.call? t = some c ↔ w.call? t = some c))
    (outcomes : ∀ t o, w.outcome? t = some o → w'.outcome? t = some o)
    (calls' : v'.calls = v.calls ∧ v'.outcomes = v.outcomes) (es : List GatewayEvent)
    (here : ∀ c stream, Among' c.ticket → w.call? c.ticket = some c → c.task.guild = g →
      c.task.holds stream = true → w.bus.Delivers w'.bus es stream)
    (there : ∀ c' stream, Among' c'.ticket → v.call? c'.ticket = some c' →
      c'.task.holds stream = true →
        v.bus.Delivers v'.bus (es.filter fun e => e.guild = g) stream) :
    Mirrors ρ g Among' w' v' := by
  refine ⟨like, fun {t c} among found own => ?_, fun {t c'} among found' => ?_,
    fun {t o'} among ended' => ?_⟩
  · have hfound := (calls t c own).mp found
    obtain ⟨c', found', follows⟩ := m.own (fewer t among) hfound own
    have ht := call?_ticket hfound
    have ht' := call?_ticket found'
    refine ⟨c', (call?_congr calls'.1 t).trans found', follows.delivered es
      (fun stream holds => ?_) fun stream holds => ?_⟩
    · exact here c stream (ht ▸ among) (ht ▸ hfound) own holds
    · exact there c' stream (ht' ▸ among) (ht' ▸ found')
        ((follows.tasks.holds stream).trans holds)
  · rw [call?_congr calls'.1] at found'
    obtain ⟨c, found, own⟩ := m.only (fewer t among) found'
    exact ⟨c, (calls t c own).mpr found, own⟩
  · rw [outcome?_congr calls'.2] at ended'
    obtain ⟨o, ended, ho⟩ := m.outcomes (fewer t among) ended'
    exact ⟨o, outcomes t o ended, ho⟩

/-- Calls, outcomes and streams stay as they are on both sides. -/
theorem Mirrors.of_like {Among : Nat → Prop} (m : Mirrors ρ g Among w v) (like : Like ρ g w' v')
    (calls : w'.calls = w.calls ∧ w'.outcomes = w.outcomes)
    (calls' : v'.calls = v.calls ∧ v'.outcomes = v.outcomes) (bus : w'.bus = w.bus)
    (bus' : v'.bus = v.bus) : Mirrors ρ g Among w' v' := by
  refine m.delivered (fun _ => id) like (fun t c _ => by rw [call?_congr calls.1])
    (fun t o ended => (outcome?_congr calls.2 t).trans ended) calls' []
    (fun _ _ _ _ _ _ => ?_) fun _ _ _ _ _ => ?_
  · rw [bus]
    exact EventBus.delivers_of_eq rfl rfl
  · rw [bus']
    exact EventBus.delivers_of_eq rfl rfl

/-- On the one side others are served; on the other side those of the events are published
that are about the guild. -/
theorem Mirrored.passed (m : Mirrored ρ g w v) (hv : v.Sound) (like : Like ρ g w' v)
    (calls : ∀ t c, c.task.guild = g → (w'.call? t = some c ↔ w.call? t = some c))
    (outcomes : ∀ t o, w.outcome? t = some o → w'.outcome? t = some o)
    (es : List GatewayEvent)
    (delivers : ∀ c stream, w.call? c.ticket = some c → c.task.guild = g →
      c.task.holds stream = true → w.bus.Delivers w'.bus es stream) :
    Mirrored ρ g w' { v with bus := (v.bus.publishAll (es.filter fun e => e.guild = g)).2 } := by
  refine m.delivered (fun _ => id) ?_ calls outcomes ⟨rfl, rfl⟩ es
    (fun c stream _ found own holds => delivers c stream found own holds)
    fun c' stream _ found' holds => ?_
  · exact like.buses (EventBus.grows_refl _) (EventBus.publishAll_grows _ _) (fun _ => rfl)
      fun stream => EventBus.publishAll_ended stream _ _
  · exact EventBus.publishAll_delivers _ v.bus (like.bus.opened' stream)
      (hv.subscribers_ne_zero found' holds)

/-! ## Calls for the guild -/

theorem Job.follows {b d : EventBus} {job : Job} (own : job.task.guild = g) :
    Task.Follows ρ g b d job.task job.task := by
  cases job with
  | join q => exact .fresh own
  | disconnect g' => exact (own : g' = g) ▸ .disconnect
  | watch g' => exact (own : g' = g) ▸ .unsubscribed

/-- A call for the guild starts on both sides. -/
theorem Mirrored.started (m : Mirrored ρ g w v) (unused : w.isFresh ticket = true) {job : Job}
    (own : job.task.guild = g) (patience : Option Duration) :
    Mirrored ρ g (w.start ticket job.task patience) (v.start ticket job.task patience) := by
  have unused' := m.isFresh unused
  refine ⟨?_, fun {t c} among found hc => ?_, fun {t c'} among found' => ?_,
    fun {t o'} among ended' => ?_⟩
  · rw [start_eq unused, start_eq unused']
    exact m.like.aside _ _ _ _ _ _
  · rw [call?_start unused] at found
    rw [call?_start unused', start_eq unused, start_eq unused']
    split at found
    · next ht =>
      injection found with he
      subst he
      exact ⟨_, if_pos ht, rfl, rfl, rfl, Job.follows own⟩
    · next ht =>
      rw [if_neg ht]
      exact m.own among found hc
  · rw [call?_start unused'] at found'
    rw [call?_start unused]
    split at found'
    · next ht => exact ⟨_, if_pos ht, own⟩
    · next ht =>
      rw [if_neg ht]
      exact m.only among found'
  · rw [start_eq unused'] at ended'
    rw [start_eq unused]
    exact m.outcomes among ended'

/-- What has become of a call for the guild is entered on both sides. -/
theorem Mirrors.settle {c c' : Call} (m : Mirrors ρ g (· ≠ c.ticket) w v)
    (found : ∃ x, w.call? c.ticket = some x) (found' : ∃ x, v.call? c'.ticket = some x)
    (unanswered : w.outcome? c.ticket = none) (unanswered' : v.outcome? c'.ticket = none)
    (ticket : c'.ticket = c.ticket) (patience : c'.patience = c.patience)
    (limit : c'.limit = c.limit) {p p' : Progress}
    (progress : Progress.Follows ρ g w.bus v.bus p p') :
    Mirrored ρ g (w.settle c p) (v.settle c' p') := by
  have hbus : ∀ {y : Coordinator σ} {z : Call} {q : Progress}, (y.settle z q).bus = y.bus := by
    intro y z q
    cases q <;> rfl
  obtain ⟨x, found⟩ := found
  obtain ⟨x', found'⟩ := found'
  refine ⟨m.like.settle progress c c', fun {t y} _ hy own => ?_, fun {t y'} _ hy' => ?_,
    fun {t o'} _ ho' => ?_⟩
  · rw [hbus, hbus]
    by_cases ht : c.ticket = t
    · subst ht
      cases progress with
      | @pending task task' tasks =>
        have he := Option.some.inj ((call?_settle_pending found task).symm.trans hy)
        subst he
        refine ⟨{ c' with task := task' }, ?_, ticket, patience, limit, tasks⟩
        rw [← ticket]
        exact call?_settle_pending found' task'
      | ended o => exact absurd (hy.symm.trans (call?_settle_ended w c o)) (by simp)
    · rw [call?_settle_of_ne ht] at hy
      rw [call?_settle_of_ne (ticket ▸ ht)]
      exact m.own (Ne.symm ht) hy own
  · by_cases ht : c.ticket = t
    · subst ht
      cases progress with
      | @pending task task' tasks => exact ⟨_, call?_settle_pending found task, tasks.guild.1⟩
      | ended o =>
        rw [← ticket, call?_settle_ended v c' (o.rename ρ)] at hy'
        exact absurd hy' (by simp)
    · rw [call?_settle_of_ne (ticket ▸ ht)] at hy'
      rw [call?_settle_of_ne ht]
      exact m.only (Ne.symm ht) hy'
  · by_cases ht : c.ticket = t
    · subst ht
      rw [← ticket] at ho'
      cases progress with
      | pending tasks => exact absurd (unanswered'.symm.trans ho') (by simp)
      | ended o =>
        have hended' := outcome?_settle_ended unanswered' (o.rename ρ)
        exact ⟨o, outcome?_settle_ended unanswered o, Option.some.inj (ho'.symm.trans hended')⟩
    · rw [outcome?_settle_of_ne (ticket ▸ ht)] at ho'
      rw [outcome?_settle_of_ne ht]
      exact m.outcomes (Ne.symm ht) ho'

/-- While a call for the guild is run on both sides, what is published is delivered to the
other ones. -/
theorem Mirrored.moved (m : Mirrored ρ g w v) (hw : w.Sound) (hv : v.Sound)
    (line : v.line = w.line) {c c' : Call} (found : w.call? ticket = some c)
    (own : c.task.guild = g) (found' : v.call? ticket = some c') {p p' : Progress}
    (moves : Moves T ticket w c.task p w') (moves' : Moves (T.about g rule) ticket v c'.task p' v')
    (like : Like ρ g w' v') : Mirrors ρ g (· ≠ ticket) w' v' := by
  obtain ⟨sent, passage⟩ := moves.passage (hw.beside found)
  obtain ⟨sent', passage'⟩ := moves'.passage (hv.beside found')
  -- The same commands are sent on both sides, since they are about the guild.
  have hsent : sent' = sent := by
    have hall : sent.filter (fun d => d.command.update.guild = g) = sent :=
      List.filter_eq_self.mpr fun d hd => decide_eq_true ((passage.about d hd).trans own)
    have hledger : v.dispatches ++ sent' = v.dispatches ++ sent := by
      rw [← passage'.dispatches, like.dispatches, passage.dispatches, List.filter_append,
        ← m.like.dispatches, hall]
    exact List.append_cancel_left hledger
  have hpublished : (T.about g rule).published v.line (sent'.map (·.command)) =
      (T.published w.line (sent.map (·.command))).filter fun e => e.guild = g := by
    rw [line, hsent, Transport.about_published]
  refine m.delivered (fun _ _ => trivial) like (fun t x _ => by rw [call?_congr moves.calls.1])
    (fun t o ended => (outcome?_congr moves.calls.2 t).trans ended) moves'.calls
    (T.published w.line (sent.map (·.command))) (fun x stream other hx _ holds => ?_)
    fun x' stream other hx' holds => ?_
  · exact passage.delivers stream (holdersBeside_ne_zero hx other holds) (m.like.bus.opened stream)
  · rw [← hpublished]
    exact passage'.delivers stream (holdersBeside_ne_zero hx' other holds)
      (m.like.bus.opened' stream)

/-- A call for the guild is run on both sides. -/
theorem Mirrored.ran (m : Mirrored ρ g w v) (hw : w.Sound) (hv : v.Sound) (line : v.line = w.line)
    {c c' : Call} (found : w.call? c.ticket = some c) (own : c.task.guild = g)
    (found' : v.call? c.ticket = some c') (calls : Call.Follows ρ g w.bus v.bus c c')
    {x y : Progress × Coordinator σ} (moves : Moves T c.ticket w c.task x.1 x.2)
    (moves' : Moves (T.about g rule) c.ticket v c'.task y.1 y.2) (along : Alongside ρ g x y)
    (limit : Option Nat) :
    Mirrored ρ g (x.2.settle { c with limit } x.1) (y.2.settle { c' with limit } y.1) := by
  have hbeside := m.moved hw hv line found own found' moves moves' along.like
  have ht : ({ c' with limit } : Call).ticket = c.ticket := calls.ticket
  refine Mirrors.settle (c := { c with limit }) hbeside ⟨c, ?_⟩ ⟨c', ?_⟩ ?_ ?_ ht calls.patience rfl
    along.progress
  · exact (call?_congr moves.calls.1 _).trans found
  · rw [ht, call?_congr moves'.calls.1]
    exact found'
  · exact (outcome?_congr moves.calls.2 _).trans (hw.tidy.outcome?_eq_none found)
  · rw [ht, outcome?_congr moves'.calls.2]
    exact hv.tidy.outcome?_eq_none found'

/-- A call for the guild is given up on both sides. -/
theorem Mirrored.gaveUp (m : Mirrored ρ g w v) (hw : w.Sound) (hv : v.Sound) {c c' : Call}
    (found : w.call? c.ticket = some c) (found' : v.call? c.ticket = some c')
    (calls : Call.Follows ρ g w.bus v.bus c c') {o : Outcome} (same : o.rename ρ = o) :
    Mirrored ρ g (w.abandon c o) (v.abandon c' o) := by
  have hlike : Like ρ g (w.withdraw c.task) (v.withdraw c'.task) := by
    rw [withdraw_eq w, withdraw_eq v]
    exact m.like.buses (withdraw_bus_grows w _) (withdraw_bus_grows v _)
      (withdraw_ended w _) (withdraw_ended v _)
  have hwithdrawn : Mirrors ρ g (· ≠ c.ticket) (w.withdraw c.task) (v.withdraw c'.task) := by
    refine m.delivered (fun _ _ => trivial) hlike (fun t x _ => ?_) (fun t o ended => ?_)
      (withdraw_calls v _) [] (fun _ _ _ _ _ _ => ?_) fun _ _ _ _ _ => ?_
    · rw [call?_congr (withdraw_calls w _).1]
    · exact (outcome?_congr (withdraw_calls w _).2 t).trans ended
    · exact EventBus.delivers_of_eq (withdraw_history w _).1 (withdraw_history w _).2
    · exact EventBus.delivers_of_eq (withdraw_history v _).1 (withdraw_history v _).2
  have hended : Progress.Follows ρ g (w.withdraw c.task).bus (v.withdraw c'.task).bus (.ended o)
      (.ended (o.rename ρ)) := .ended o
  rw [same] at hended
  refine Mirrors.settle hwithdrawn ⟨c, ?_⟩ ⟨c', ?_⟩ ?_ ?_ calls.ticket calls.patience calls.limit
    hended
  · exact (call?_congr (withdraw_calls w _).1 _).trans found
  · rw [calls.ticket, call?_congr (withdraw_calls v _).1]
    exact found'
  · exact (outcome?_congr (withdraw_calls w _).2 _).trans (hw.tidy.outcome?_eq_none found)
  · rw [calls.ticket, outcome?_congr (withdraw_calls v _).2]
    exact hv.tidy.outcome?_eq_none found'

/-! ## Calls for others -/

/-- A call stays with its guild. -/
theorem Moves.guild {task task' : Task} (h : Moves T ticket w task (.pending task') w') :
    task'.guild = task.guild :=
  h.preserves (P := fun _ t => t.guild = task.guild) (Q := fun _ _ => True)
    (fun move hg => move.guild.trans hg) (fun _ _ => trivial) rfl

theorem Change.guild {a : Act σ} (h : Change T a w w') (named : a.ticket? = some ticket)
    (running : ∀ job patience, a ≠ .start ticket job patience)
    (hw : ∀ {c}, w.call? ticket = some c → c.task.guild = g) {c : Call}
    (hc : w'.call? ticket = some c) : c.task.guild = g := by
  cases h.own named with
  | started unused => exact absurd rfl (running _ _)
  | @ran _ w₁ x p limit same act found moves =>
    subst same
    cases p with
    | pending task =>
      have hfound : w₁.call? x.ticket = some x := (call?_congr moves.calls.1 _).trans found
      have hsettled := call?_settle_pending (c := { x with limit }) hfound task
      rw [← Option.some.inj (hsettled.symm.trans hc)]
      exact moves.guild.trans (hw found)
    | ended o =>
      have hsettled := call?_settle_ended w₁ { x with limit } o
      exact absurd (hsettled.symm.trans hc) (by simp)
  | @gaveUp _ x o same found outside =>
    rw [call?_abandon, if_pos same.symm] at hc
    exact absurd hc (by simp)

/-- An act that runs or gives up the call of a guild, up to a moment in its course. The
other calls get what is published; and to another guild, on which there is a second
coordinator, nothing has happened. -/
structure Elsewhere (T : Transport σ) (ρ : SessionRef → SessionRef) (g : Snowflake) (ticket : Nat)
    (other : Snowflake) (w v x : Coordinator σ) : Prop where
  sound : x.Sound
  call : ∀ {c}, x.call? ticket = some c → c.task.guild = other
  beside : x.holdersBeside ticket = w.holdersBeside ticket
  ended : ∀ stream, x.bus.ended stream = w.bus.ended stream
  like : Like ρ g x v
  passage : ∃ sent, Passage T (w.holdersBeside ticket) other w x sent

theorem Passage.settle {others : StreamName → Nat} {sent : List Dispatch}
    (h : Passage T others g w w' sent) (c : Call) (p : Progress) :
    Passage T others g w (w'.settle c p) sent := by
  cases p with
  | pending task => exact ⟨h.dispatches, h.line, h.about, h.delivers⟩
  | ended o => exact ⟨h.dispatches, h.line, h.about, h.delivers⟩

theorem Like.settle_other (h : Like ρ g w v) (c : Call) (p : Progress) :
    Like ρ g (w.settle c p) v := by
  cases p with
  | pending task => exact h.aside _ v.line _ v.calls _ v.outcomes
  | ended o => exact h.aside _ v.line _ v.calls _ v.outcomes

theorem settle_beside {x x₁ : Coordinator σ} (calls : x₁.calls = x.calls) (c : Call)
    (p : Progress) : (x₁.settle c p).holdersBeside c.ticket = x.holdersBeside c.ticket := by
  funext stream
  unfold holdersBeside
  rw [settle_others, calls]

theorem Change.elsewhere {a : Act σ} {x x' : Coordinator σ} (h : Change T a x x')
    (named : a.ticket? = some ticket) (running : ∀ job patience, a ≠ .start ticket job patience)
    {other : Snowflake} (foreign : other ≠ g) (hx : Elsewhere T ρ g ticket other w v x) :
    Elsewhere T ρ g ticket other w v x' := by
  obtain ⟨before, passage⟩ := hx.passage
  have sound := h.sound hx.sound
  have call : ∀ {c}, x'.call? ticket = some c → c.task.guild = other :=
    h.guild named running hx.call
  have ended : ∀ stream, x'.bus.ended stream = w.bus.ended stream := fun stream =>
    (h.ended (by simp [named]) stream).trans (hx.ended stream)
  cases h.own named with
  | started unused => exact absurd rfl (running _ _)
  | @ran _ x₁ c p limit same act found moves =>
    subst same
    have hguild := hx.call found
    have hpassage : ∃ sent, Passage T (w.holdersBeside c.ticket) c.task.guild x x₁ sent :=
      moves.passage fun stream => hx.beside ▸ hx.sound.beside found stream
    rw [hguild] at hpassage
    obtain ⟨sent, hsent⟩ := hpassage
    have hlike := moves.like_other hx.like hx.sound.lawful (hguild ▸ foreign)
    exact ⟨sound, call, (settle_beside moves.calls.1 { c with limit } p).trans hx.beside, ended,
      hlike.settle_other _ p, _, (passage.trans hsent hx.ended).settle _ p⟩
  | @gaveUp _ c o same found outside =>
    subst same
    have hlike : Like ρ g (x.withdraw c.task) v := by
      rw [withdraw_eq]
      exact hx.like.bus_other (withdraw_bus_grows x _) (withdraw_ended x _)
    have hpassage : Passage T (w.holdersBeside c.ticket) other x (x.withdraw c.task) [] :=
      passage_nil (by rw [withdraw_eq]) (by rw [withdraw_eq]) (withdraw_history x _).1
        (withdraw_history x _).2
    exact ⟨sound, call, (settle_beside (withdraw_calls x _).1 c (.ended o)).trans hx.beside, ended,
      hlike.settle_other c (.ended o), _, (passage.trans hpassage hx.ended).settle c (.ended o)⟩

/-- An act that names a ticket with no pending call, and does not start one, does nothing. -/
theorem step_of_unused {a : Act σ} (named : a.ticket? = some ticket)
    (running : ∀ job patience, a ≠ .start ticket job patience) (hc : w.call? ticket = none) :
    w.step T a = w := by
  cases a with
  | start t job patience =>
    injection named with ht
    exact absurd (by rw [ht]) (running job patience)
  | abort t =>
    injection named with ht
    subst ht
    simp only [step, abort, hc]
  | poll t order =>
    injection named with ht
    subst ht
    simp only [step, poll, hc]
  | expire t order =>
    injection named with ht
    subst ht
    simp only [step, expire, poll, hc]
  | _ => exact absurd named (by simp [Act.ticket?])

/-- A call for another guild is run or given up on the one side; on the other side those
events are published that are about the guild. -/
theorem Mirrored.served (m : Mirrored ρ g w v) (hw : w.Sound) (hv : v.Sound) {a : Act σ}
    (named : a.ticket? = some ticket) (running : ∀ job patience, a ≠ .start ticket job patience)
    (unconcerned : w.concerns g ticket = false) :
    Mirrored ρ g (w.step T a) { v with
      bus := (v.bus.publishAll ((w.publishedIn T a).filter fun e => e.guild = g)).2 } := by
  cases hc : w.call? ticket with
  | none =>
    have hstep := step_of_unused (T := T) named running hc
    have hnone : w.publishedIn T a = [] := by
      unfold publishedIn
      rw [hstep, List.drop_length]
      rfl
    rw [hnone, hstep]
    exact m
  | some c =>
    have foreign : c.task.guild ≠ g := by
      intro hg
      unfold concerns at unconcerned
      rw [hc] at unconcerned
      simp [hg] at unconcerned
    have hbegin : Elsewhere T ρ g ticket c.task.guild w v w :=
      ⟨hw, fun hy => by rw [Option.some.inj (hc.symm.trans hy)], rfl, fun _ => rfl, m.like, [],
        passage_nil rfl rfl rfl rfl⟩
    have hend : Elsewhere T ρ g ticket c.task.guild w v (w.step T a) :=
      step_preserves (fun h hx => h.elsewhere named running foreign hx) hbegin
    obtain ⟨sent, passage⟩ := hend.passage
    have hpublished : w.publishedIn T a = T.published w.line (sent.map (·.command)) := by
      unfold publishedIn
      rw [passage.dispatches, List.drop_left]
    rw [hpublished]
    refine m.passed hv hend.like (fun t x own => ?_)
      (fun t o ended => (step_grows w a).outcome? ended) _ fun x stream found own holds => ?_
    · by_cases ht : t = ticket
      · subst ht
        constructor
        · intro hx
          exact absurd ((hend.call hx).symm.trans own) foreign
        · intro hx
          rw [Option.some.inj (hc.symm.trans hx)] at foreign
          exact absurd own foreign
      · have hne : a.ticket? ≠ some t := by
          rw [named]
          exact fun he => ht (Option.some.inj he).symm
        have hsame : (w.step T a).call? t = w.call? t :=
          step_preserves (P := fun y => y.call? t = w.call? t)
            (fun h hy => (h.call? hne).trans hy) rfl
        rw [hsame]
    · have other : x.ticket ≠ ticket := by
        intro ht
        rw [ht] at found
        rw [Option.some.inj (hc.symm.trans found)] at foreign
        exact foreign own
      exact passage.delivers stream (holdersBeside_ne_zero found other holds)
        (m.like.bus.opened stream)

end Coordinator

end VoiceGateway
