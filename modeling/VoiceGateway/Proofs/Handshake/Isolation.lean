import VoiceGateway.Proofs.Handshake.Lifecycle
import VoiceGateway.Proofs.Handshake.Mirror
import VoiceGateway.Transport.Loopback

/-!
# Guilds do not notice each other

All guilds share one bus, one registry and one transport, and their calls interleave in
any way. Take a run and leave out everything that is about other guilds than one
(`Coordinator.alone`). For this guild nothing changes, at no moment: its calls end in the
same way or are still pending, it has the same sessions, the same commands were sent and
the same was noted. This needs a transport that decides by the command alone, and calls
that do not fall behind on the streams, where others may be too many for the window.

Sessions are referred to by their place among all that were registered, so without the
others they have other names; which sessions are the same does not depend on it.

> `Mirrored.step`: an act on the one side, and what is left of it on the other.
> `guild_isolation`: after every part of a run.
-/

namespace VoiceGateway

/-- The patience of both callers runs out at the same time. -/
theorem Call.Follows.runAt {ρ : SessionRef → SessionRef} {g : Snowflake} {b d : EventBus}
    {c c' : Call} (h : Call.Follows ρ g b d c c') (now : Nat) :
    (c'.runAt now).limit = (c.runAt now).limit := by
  unfold Call.runAt
  rw [h.limit, h.patience]
  cases hl : c.limit with
  | some limit => exact h.limit
  | none => rfl

namespace Coordinator

open Relation (ReflTransGen)

variable {σ : Type} {T : Transport σ} {rule : ShardCommand → Option TransportError}
  {ρ : SessionRef → SessionRef} {g : Snowflake} {w v : Coordinator σ} {ticket : Nat}

/-! ## Running a call for the guild -/

theorem settle_line (w : Coordinator σ) (c : Call) (p : Progress) :
    (w.settle c p).line = w.line := by
  cases p <;> rfl

theorem Mirrored.poll (m : Mirrored ρ g w v) (hw : w.Sound) (hv : v.Sound)
    (steady : ∀ s c, (T.send s c).1.refusal = rule c) (line : v.line = w.line)
    (names : Registry.Numbers ρ g w.registry) {c : Call} (found : w.call? c.ticket = some c)
    (own : c.task.guild = g) (keepsUp : w.KeepsUp T c) (order : TurnOrder) :
    Mirrored ρ g (w.poll T order c.ticket) (v.poll (T.about g rule) order c.ticket) ∧
      (v.poll (T.about g rule) order c.ticket).line = (w.poll T order c.ticket).line := by
  obtain ⟨c', found', follows⟩ := m.own trivial found own
  have along : Alongside ρ g (w.runTask T c.ticket order c.task)
      (v.runTask (T.about g rule) c.ticket order c'.task) :=
    runTask_follows ⟨m.like, line, names, hw.lawful⟩ steady order follows.tasks keepsUp
  have hlimit : (c'.runAt v.now).limit = (c.runAt w.now).limit := by
    rw [m.like.now, follows.runAt]
  rw [poll_limit found, poll_limit found', hlimit, settle_line, settle_line]
  exact ⟨m.ran hw hv line found own found' follows (moves_runTask w c.ticket order c.task)
    (moves_runTask v c.ticket order c'.task) along _, along.line⟩

/-- The deadline of the call takes effect on both sides. -/
theorem Mirrored.expireHandshake (m : Mirrored ρ g w v) (hw : w.Sound) (hv : v.Sound)
    (steady : ∀ s c, (T.send s c).1.refusal = rule c) (line : v.line = w.line)
    (names : Registry.Numbers ρ g w.registry) {c c' : Call} (found : w.call? c.ticket = some c)
    (found' : v.call? c.ticket = some c') (follows : Call.Follows ρ g w.bus v.bus c c') :
    Mirrored ρ g (w.expireHandshake T c) (v.expireHandshake (T.about g rule) c') := by
  obtain ⟨t, task, patience, limit⟩ := c
  obtain ⟨t', task', patience', limit'⟩ := c'
  obtain ⟨rfl, rfl, rfl, tasks⟩ := follows
  have hcalls : Call.Follows ρ g w.bus v.bus ⟨t', task, patience', limit'⟩
      ⟨t', task', patience', limit'⟩ := ⟨rfl, rfl, rfl, tasks⟩
  have own := tasks.guild.1
  unfold Coordinator.expireHandshake
  cases tasks with
  | @gathering q ownGuild r r' deadline cursors =>
    dsimp only
    rw [m.like.now]
    split
    · next late =>
      have along : Alongside ρ g (w.failHandshake T t' q (.timeout q.timeout))
          (v.failHandshake (T.about g rule) t' q (.timeout q.timeout)) :=
        failHandshake_follows ⟨m.like, line, names, hw.lawful⟩ steady t' ownGuild _
      have late' : deadline ≤ v.now := m.like.now ▸ late
      exact m.ran hw hv line found own found' hcalls (moves_failHandshake (.expired late))
        (moves_failHandshake (.expired late')) along limit'
    · exact m
  | _ => exact m

/-- The patience of the caller runs out on both sides. -/
theorem Mirrored.expirePatience (m : Mirrored ρ g w v) (hw : w.Sound) (hv : v.Sound)
    {c c' : Call} (found : w.call? c.ticket = some c) (found' : v.call? c.ticket = some c')
    (follows : Call.Follows ρ g w.bus v.bus c c') :
    Mirrored ρ g (w.expirePatience c) (v.expirePatience c') := by
  unfold Coordinator.expirePatience
  rw [follows.limit, m.like.now]
  split
  · split
    · exact m.gaveUp hw hv found found' follows rfl
    · exact m
  · exact m

/-- What is done to a pending call for the guild, if there is one, is done on both sides. -/
theorem Mirrored.matched (m : Mirrored ρ g w v)
    (own : ∀ {c}, w.call? ticket = some c → c.task.guild = g) {f f' : Call → Coordinator σ}
    (both : ∀ c c', w.call? c.ticket = some c → v.call? c.ticket = some c' →
      Call.Follows ρ g w.bus v.bus c c' → Mirrored ρ g (f c) (f' c')) :
    Mirrored ρ g (match w.call? ticket with | some c => f c | none => w)
      (match v.call? ticket with | some c => f' c | none => v) := by
  cases hc : w.call? ticket with
  | some c =>
    have ht := call?_ticket hc
    obtain ⟨c', hc', follows⟩ := m.own trivial hc (own hc)
    rw [hc']
    exact both c c' (ht ▸ hc) (ht ▸ hc') follows
  | none =>
    cases hc' : v.call? ticket with
    | some c' =>
      obtain ⟨c, found, -⟩ := m.only trivial hc'
      exact absurd (hc.symm.trans found) (by simp)
    | none => exact m

/-- A sound coordinator where the call with a ticket, if one is pending, is for the guild. -/
structure Serves (g : Snowflake) (ticket : Nat) (w : Coordinator σ) : Prop where
  sound : w.Sound
  own : ∀ {c}, w.call? ticket = some c → c.task.guild = g

theorem Serves.changes {a : Act σ} (named : a.ticket? = some ticket)
    (running : ∀ job patience, a ≠ .start ticket job patience) {w' : Coordinator σ}
    (changes : ReflTransGen (Change T a) w w') (hw : Serves g ticket w) : Serves g ticket w' :=
  changes_preserve (P := Serves g ticket)
    (fun h hx => ⟨h.sound hx.sound, h.guild named running hx.own⟩) changes hw

/-- The call is run, then its deadline is looked at and then the patience of its caller. -/
theorem Mirrored.expire (m : Mirrored ρ g w v) (hw : w.Sound) (hv : v.Sound)
    (steady : ∀ s c, (T.send s c).1.refusal = rule c) (line : v.line = w.line) {c : Call}
    (found : w.call? c.ticket = some c) (own : c.task.guild = g) (keepsUp : w.KeepsUp T c)
    (order : TurnOrder) (names : Registry.Numbers ρ g w.registry)
    (names' : Registry.Numbers ρ g (w.poll T order c.ticket).registry) :
    Mirrored ρ g (w.expire T order c.ticket) (v.expire (T.about g rule) order c.ticket) := by
  have running : ∀ job patience, (Act.expire c.ticket order : Act σ) ≠
      .start c.ticket job patience := fun _ _ he => nomatch he
  have ha : (Act.expire c.ticket order : Act σ).runs c.ticket := rfl
  have serves : Serves g c.ticket w :=
    ⟨hw, fun hc => by rw [← Option.some.inj (found.symm.trans hc)]; exact own⟩
  obtain ⟨m₁, line₁⟩ := m.poll hw hv steady line names found own keepsUp order
  have hw₁ := serves.changes rfl running (poll_changes (T := T) w order ha)
  have hv₁ : (v.poll (T.about g rule) order c.ticket).Sound :=
    changes_preserve Change.sound (poll_changes v order ha) hv
  have m₂ := m₁.matched hw₁.own fun x x' hx hx' follows =>
    m₁.expireHandshake hw₁.sound hv₁ steady line₁ names' hx hx' follows
  have hw₂ := hw₁.changes rfl running (handshake_changes (T := T) _ ha)
  have hv₂ := changes_preserve Change.sound (handshake_changes (T := T.about g rule) _ ha) hv₁
  exact m₂.matched hw₂.own fun x x' hx hx' follows =>
    m₂.expirePatience hw₂.sound hv₂ hx hx' follows

/-! ## Acts -/

theorem run_publish : ∀ (es : List GatewayEvent) (v : Coordinator σ),
    v.run T (es.map .publish) = { v with bus := (v.bus.publishAll es).2 }
  | [], _ => rfl
  | _ :: es, _ => run_publish es _

theorem concerns_iff : w.concerns g ticket = true ↔
    ∃ c, w.call? ticket = some c ∧ c.task.guild = g := by
  unfold concerns
  rw [Option.any_eq_true]
  simp

/-- An act that runs a call leaves that act if the call is for the guild, on the line as it
was; and else what is published about the guild. -/
theorem Mirrored.step_running (m : Mirrored ρ g w v) (hw : w.Sound) (hv : v.Sound) {a : Act σ}
    (runs : a.runs ticket)
    (own : ∀ c, c.ticket = ticket → w.call? ticket = some c → c.task.guild = g →
      Mirrored ρ g (w.step T a)
        (({ v with line := w.line } : Coordinator σ).step (T.about g rule) a)) :
    Mirrored ρ g (w.step T a) (v.run (T.about g rule) (w.shareOfRun T g a ticket)) := by
  unfold shareOfRun
  split
  · next concerned =>
    obtain ⟨c, found, hg⟩ := concerns_iff.mp concerned
    exact own c (call?_ticket found) found hg
  · next unconcerned =>
    rw [run_publish]
    refine m.served hw hv (Act.ticket?_of_runs runs) ?_ (Bool.eq_false_iff.mpr unconcerned)
    intro job patience he
    rw [he] at runs
    exact runs

/-- On the first side something is done, and with the calls for the guild it has nothing to
do; on the other side nothing is done. -/
theorem Mirrored.unheard (m : Mirrored ρ g w v) (hv : v.Sound) {w' : Coordinator σ}
    (like : Like ρ g w' v)
    (calls : ∀ t c, c.task.guild = g → (w'.call? t = some c ↔ w.call? t = some c))
    (outcomes : ∀ t o, w.outcome? t = some o → w'.outcome? t = some o)
    (bus : w'.bus = w.bus) : Mirrored ρ g w' v := by
  have hpassed := m.passed hv like calls outcomes [] fun c stream _ _ _ => by
    rw [bus]
    exact EventBus.delivers_of_eq rfl rfl
  exact hpassed

theorem Sound.with_line (h : w.Sound) (line : σ) : Sound { w with line } :=
  ⟨h.tidy.congr rfl rfl, h.lawful, h.subscribed⟩

theorem Mirrored.with_line (m : Mirrored ρ g w v) (line line' : σ) :
    Mirrored ρ g { w with line } { v with line := line' } :=
  m.of_like (m.like.aside line line' _ _ _ _) ⟨rfl, rfl⟩ ⟨rfl, rfl⟩ rfl rfl

theorem Mirrored.step_start (m : Mirrored ρ g w v) (hv : v.Sound) (ticket : Nat) (job : Job)
    (patience : Option Duration) :
    Mirrored ρ g (w.step T (.start ticket job patience))
      (v.run (T.about g rule) (w.share T g (.start ticket job patience))) := by
  rw [share]
  split
  · next h => exact m.started h.2 h.1 patience
  · next h =>
    show Mirrored ρ g (w.start ticket job.task patience) v
    cases hu : w.isFresh ticket with
    | false =>
      rw [start_of_not_isFresh w ticket job.task patience hu]
      exact m
    | true =>
      have foreign : job.task.guild ≠ g := fun hg => h ⟨hg, hu⟩
      have hcall := ((isFresh_iff w ticket).mp hu).1
      refine m.unheard hv ?_ (fun t c own => ?_) (fun t o ended => ?_) ?_
      · rw [start_eq hu]
        exact m.like.aside _ v.line _ v.calls _ v.outcomes
      · rw [call?_start hu]
        split
        · next ht =>
          subst ht
          rw [hcall]
          constructor
          · intro he
            rw [← Option.some.inj he] at own
            exact absurd own foreign
          · intro he
            exact absurd he (by simp)
        · exact Iff.rfl
      · rw [start_eq hu]
        exact ended
      · rw [start_eq hu]

theorem Mirrored.step_abort (m : Mirrored ρ g w v) (hw : w.Sound) (hv : v.Sound) (ticket : Nat) :
    Mirrored ρ g (w.step T (.abort ticket))
      (v.run (T.about g rule) (w.share T g (.abort ticket))) := by
  rw [share]
  split
  · next concerned =>
    obtain ⟨c, found, own⟩ := concerns_iff.mp concerned
    obtain ⟨c', found', follows⟩ := m.own trivial found own
    have ht := call?_ticket found
    have hgiven := m.gaveUp hw hv (ht ▸ found) (ht ▸ found') follows (o := .aborted) rfl
    show Mirrored ρ g (w.abort ticket).2 (v.abort ticket).2
    unfold abort
    rw [found, found']
    exact hgiven
  · next unconcerned =>
    have hserved := m.served (T := T) hw hv (a := .abort ticket) rfl
      (fun _ _ he => nomatch he) (Bool.eq_false_iff.mpr unconcerned)
    have hdispatches : (w.step T (.abort ticket)).dispatches = w.dispatches := by
      show (w.abort ticket).2.dispatches = w.dispatches
      unfold abort
      split
      · rfl
      · rw [abandon_eq, withdraw_eq]
        rfl
    have hnone : w.publishedIn T (.abort ticket) = [] := by
      unfold publishedIn
      rw [hdispatches, List.drop_length]
      rfl
    rw [hnone] at hserved
    exact hserved

theorem Mirrored.step_publish (m : Mirrored ρ g w v) (hw : w.Sound) (hv : v.Sound)
    (e : GatewayEvent) :
    Mirrored ρ g (w.step T (.publish e)) (v.run (T.about g rule) (w.share T g (.publish e))) := by
  have hlike : Like ρ g (w.step T (.publish e)) v :=
    m.like.bus_other (EventBus.publishAll_grows [e] w.bus)
      fun stream => EventBus.publishAll_ended stream [e] w.bus
  have hpassed := m.passed hv hlike (fun _ _ _ => Iff.rfl) (fun _ _ => id) [e]
    fun c stream found own holds => EventBus.publishAll_delivers [e] w.bus
      (m.like.bus.opened stream) (hw.subscribers_ne_zero found holds)
  rw [share]
  by_cases he : e.guild = g
  · rw [show [e].filter (fun e => e.guild = g) = [e] by simp [he]] at hpassed
    rw [if_pos he]
    exact hpassed
  · rw [show [e].filter (fun e => e.guild = g) = [] by simp [he]] at hpassed
    rw [if_neg he]
    exact hpassed

theorem Mirrored.step_register (m : Mirrored ρ g w v) (hv : v.Sound)
    (names : Registry.Numbers ρ g w.registry) (x : Session) :
    Mirrored ρ g (w.step T (.register x))
      (v.run (T.about g rule) (w.share T g (.register x))) := by
  rw [share]
  split
  · next own =>
    exact m.of_like (m.like.tryRegister names own).2 ⟨rfl, rfl⟩ ⟨rfl, rfl⟩ rfl rfl
  · next foreign =>
    exact m.unheard hv (m.like.registry_other (m.like.registry.tryRegister_other foreign))
      (fun _ _ _ => Iff.rfl) (fun _ _ => id) rfl

theorem Mirrored.step_evict (m : Mirrored ρ g w v) (hw : w.Sound) (hv : v.Sound)
    (names : Registry.Numbers ρ g w.registry) (g' : Snowflake) :
    Mirrored ρ g (w.step T (.evict g')) (v.run (T.about g rule) (w.share T g (.evict g'))) := by
  rw [share]
  split
  · next own =>
    subst own
    exact m.of_like (m.like.evict names hw.lawful none).2 (evict_calls w none g')
      (evict_calls v none g') (evict_bus w none g') (evict_bus v none g')
  · next foreign =>
    have hcalls := evict_calls w none g'
    exact m.unheard hv (m.like.evict_other hw.lawful none foreign)
      (fun t c _ => Eq.to_iff (congrArg (· = some c) (call?_congr hcalls.1 t)))
      (fun t o ended => (outcome?_congr hcalls.2 t).trans ended) (evict_bus w none g')

/-- An act on the one side, and what is left of it on the other. -/
theorem Mirrored.step {l : List Session} (m : Mirrored (Registry.rank g l) g w v) (hw : w.Sound)
    (hv : v.Sound) (steady : ∀ s c, (T.send s c).1.refusal = rule c) {a : Act σ}
    (lasting : ∀ stream, a ≠ .close stream)
    (keepsUp : ∀ c, a.runs c.ticket → w.call? c.ticket = some c → c.task.guild = g →
      w.KeepsUp T c)
    (later : (w.step T a).registry.sessions <+: l) :
    Mirrored (Registry.rank g l) g (w.step T a) (v.run (T.about g rule) (w.share T g a)) := by
  have names : Registry.Numbers (Registry.rank g l) g w.registry :=
    Registry.numbers_of_prefix ((step_grows w a).registry.sessions.trans later) g
  have aligned : Mirrored (Registry.rank g l) g w { v with line := w.line } :=
    m.with_line w.line w.line
  have hline := hv.with_line w.line
  have same : ∀ {w' v' : Coordinator σ}, Like (Registry.rank g l) g w' v' →
      w'.calls = w.calls ∧ w'.outcomes = w.outcomes →
      v'.calls = v.calls ∧ v'.outcomes = v.outcomes → w'.bus = w.bus → v'.bus = v.bus →
      Mirrored (Registry.rank g l) g w' v' := m.of_like
  have like := m.like
  cases a with
  | start ticket job patience => exact m.step_start hv ticket job patience
  | abort ticket => exact m.step_abort hw hv ticket
  | publish e => exact m.step_publish hw hv e
  | close stream => exact absurd rfl (lasting stream)
  | advance nanos =>
    refine same ⟨like.identity, ?_, like.releases, like.bus, like.registry, like.dispatches,
      like.notes⟩ ⟨rfl, rfl⟩ ⟨rfl, rfl⟩ rfl rfl
    exact congrArg (· + nanos) like.now
  | setLine line => exact m.with_line line v.line
  | release =>
    refine same ⟨like.identity, like.now, ?_, like.bus, like.registry, like.dispatches,
      like.notes⟩ ⟨rfl, rfl⟩ ⟨rfl, rfl⟩ rfl rfl
    exact congrArg (· + 1) like.releases
  | announce selfId =>
    refine same ⟨?_, like.now, like.releases, like.bus, like.registry, like.dispatches,
      like.notes⟩ ⟨rfl, rfl⟩ ⟨rfl, rfl⟩ rfl rfl
    exact congrArg (·.announce selfId) like.identity
  | register x => exact m.step_register hv names x
  | evict g' => exact m.step_evict hw hv names g'
  | poll ticket order =>
    refine m.step_running hw hv rfl fun c ht found own => ?_
    subst ht
    exact (aligned.poll hw hline steady rfl names found own (keepsUp c rfl found own) order).1
  | expire ticket order =>
    refine m.step_running hw hv rfl fun c ht found own => ?_
    subst ht
    have grown : Grows (fun _ => True) (w.poll T order c.ticket) (w.expire T order c.ticket) :=
      changes_preserve (P := Grows (fun _ => True) (w.poll T order c.ticket))
        (fun h hx => grows_trans hx (h.grows.mono fun _ _ => trivial))
        (expire_of_poll (T := T) w order (a := .expire c.ticket order) rfl) (grows_refl _)
    have names' := Registry.numbers_of_prefix (grown.registry.sessions.trans later) g
    exact aligned.expire hw hline steady rfl found own (keepsUp c rfl found own) order names names'

/-! ## Runs -/

theorem Mirrored.run {l : List Session} (steady : ∀ s c, (T.send s c).1.refusal = rule c) :
    ∀ {acts : List (Act σ)} {w v : Coordinator σ}, Mirrored (Registry.rank g l) g w v → w.Sound →
      v.Sound → (∀ stream, .close stream ∉ acts) → w.Timely T g acts →
      (w.run T acts).registry.sessions <+: l → ∀ pre, pre <+: acts →
      Mirrored (Registry.rank g l) g (w.run T pre) (v.run (T.about g rule) (w.alone T g pre))
  | acts, w, v, m, _, _, _, _, _, [], _ => m
  | [], _, _, _, _, _, _, _, _, a :: pre, hpre => absurd hpre (by simp)
  | b :: acts, w, v, m, hw, hv, lasting, timely, later, a :: pre, hpre => by
    obtain ⟨rfl, hrest⟩ := List.cons_prefix_cons.mp hpre
    have hstep : Mirrored (Registry.rank g l) g (w.step T a)
        (v.run (T.about g rule) (w.share T g a)) :=
      m.step hw hv steady (fun stream he => lasting stream (he ▸ List.mem_cons_self ..)) timely.1
        (((run_grows (w.step T a) acts).registry.sessions).trans later)
    rw [run_cons, alone, run_append]
    refine hstep.run steady (step_preserves Change.sound hw)
      (run_preserves (fun _ _ _ _ => Change.sound) hv)
      (fun stream hm => lasting stream (List.mem_cons_of_mem _ hm)) timely.2 later pre hrest

/-! ## Calls that were started -/

/-- A ticket that was used once is not free again. -/
theorem used_of_call (tidy : w.Tidy) {c : Call} (found : w.call? ticket = some c)
    (acts : List (Act σ)) : (w.run T acts).isFresh ticket ≠ true := by
  have untouched : Untouched ticket (fun (_ : Coordinator σ) _ => True) fun _ _ => True :=
    ⟨fun _ _ => trivial, fun _ _ => trivial⟩
  have carried : Carried T ticket (fun _ _ => True) fun _ _ => True :=
    untouched.carried (fun _ _ => trivial) (fun _ _ => trivial) fun _ _ => trivial
  exact (run_course carried untouched tidy (.pending found trivial) acts).not_fresh

/-- A join of the guild that was started is answered with a session of the guild. -/
theorem knows_of_joined (tidy : w.Tidy) (lawful : w.registry.Lawful) {job : Job} {c : Call}
    (found : w.call? ticket = some c) (fresh : c.task = job.task) (own : job.task.guild = g)
    (acts : List (Act σ)) {s : SessionRef}
    (joined : (w.run T acts).outcome? ticket = some (.joined s)) :
    (w.run T acts).registry.Knows g s := by
  have untouched : Untouched ticket (fun (x : Coordinator σ) task => task.guild = g ∧ x.Held task)
      fun x o => ∀ s, o = .joined s → x.registry.Knows g s :=
    ⟨fun h hx => ⟨hx.1, (held_untouched ticket).pending h hx.2⟩,
      fun h hx s hs => h.grows.registry.knows (hx s hs)⟩
  have carried : Carried T ticket (fun x task => task.guild = g ∧ x.Held task)
      fun x o => ∀ s, o = .joined s → x.registry.Knows g s := by
    refine untouched.carried (fun h hx => ⟨h.guild.trans hx.1, h.held hx.2⟩)
      (fun h hx s hs => hx.1 ▸ h.answers hx.2 hs) fun outside _ s hs => ?_
    rcases outside with rfl | rfl <;> exact absurd hs (by simp)
  have held : w.Held c.task := by
    refine ⟨lawful, fun s hs => ?_⟩
    rw [fresh] at hs
    cases job <;> exact absurd hs (by simp [Job.task, Task.session?])
  have hcourse := run_course carried untouched tidy (.pending found ⟨fresh ▸ own, held⟩) acts
  exact hcourse.of_outcome (run_tidy tidy acts) joined s rfl

/-- On both sides the calls for the guild that were started in a run have ended in the same
way, or not yet, and those that are joined are joined to a session of the guild. -/
theorem outcome_of_started {w₀ v₀ : Coordinator σ} (hw : w₀.Sound) (hv : v₀.Tidy)
    {acts : List (Act σ)} (mirrored : ∀ pre, pre <+: acts →
      Mirrored ρ g (w₀.run T pre) (v₀.run (T.about g rule) (w₀.alone T g pre)))
    (started : w₀.Started T g acts ticket) :
    (v₀.run (T.about g rule) (w₀.alone T g acts)).outcome? ticket =
        ((w₀.run T acts).outcome? ticket).map (·.rename ρ) ∧
      ∀ s, (w₀.run T acts).outcome? ticket = some (.joined s) →
        (w₀.run T acts).registry.Knows g s := by
  have m := mirrored acts List.prefix_rfl
  obtain ⟨before, job, patience, hpre, own, unused⟩ := started
  have hu := mirrored _ hpre
  obtain ⟨rest, rfl⟩ := hpre
  let u := w₀.run T (before ++ [.start ticket job patience])
  have hwrun : w₀.run T (before ++ [.start ticket job patience] ++ rest) = u.run T rest :=
    run_append T w₀ _ rest
  have found : u.call? ticket = some ⟨ticket, job.task, patience, none⟩ := by
    show (w₀.run T (before ++ [_])).call? ticket = _
    rw [run_concat]
    exact (call?_start unused job.task patience ticket).trans (if_pos rfl)
  obtain ⟨c', found', -⟩ := hu.own trivial found own
  refine ⟨m.outcome? (run_tidy hw.tidy _) ?_, fun s joined => ?_⟩
  · rw [alone_append, run_append]
    exact used_of_call (run_tidy hv _) found' _
  · rw [hwrun] at joined ⊢
    have lawful : u.registry.Lawful := (run_grows w₀ _).registry.lawful hw.lawful
    exact knows_of_joined (run_tidy hw.tidy _) lawful found rfl own rest joined

/-- Up to their names the sessions of the guild are the same on both sides, and what was
sent and noted about it is the same. -/
theorem Mirrored.shows {z : Registry} (m : Mirrored (Registry.rank g z.sessions) g w v)
    (later : w.registry.Evolves z) :
    let ρ := Registry.rank g z.sessions
    (∀ s s', w.registry.Knows g s → w.registry.Knows g s' → ρ s = ρ s' → s = s') ∧
      (∀ s, w.registry.Knows g s → v.registry.record? (ρ s) = w.registry.record? s) ∧
      v.registry.get? g = (w.registry.get? g).map ρ ∧
      v.dispatches = w.dispatches.filter (fun d => d.command.update.guild = g) ∧
      v.notes = w.notes.filter (fun n => n.event.guild? = some g) := by
  have names := Registry.numbers_of_prefix later.sessions g
  refine ⟨fun s s' hs hs' he => ?_, fun s hs => m.like.registry.record? names hs,
    m.like.registry.entry, m.like.dispatches, m.like.notes⟩
  exact Registry.rank_injective (later.knows hs) (later.knows hs') he

/-! ## The whole run -/

theorem evolves_of_prefix (w₀ : Coordinator σ) {pre acts : List (Act σ)} (hpre : pre <+: acts) :
    (w₀.run T pre).registry.Evolves (w₀.run T acts).registry := by
  obtain ⟨rest, rfl⟩ := hpre
  rw [run_append]
  exact (run_grows _ rest).registry

theorem sound_init {capacity : Nat} {bus : EventBus}
    (created : EventBus.create? capacity = some bus) (line : σ) (identity : Identity) :
    Sound { line, identity, bus } :=
  ⟨tidy_init line identity bus, Registry.lawful_empty, fun stream =>
    (EventBus.of_create? created stream).1⟩

theorem mirrored_init {capacity : Nat} {bus : EventBus}
    (created : EventBus.create? capacity = some bus) (line : σ) (identity : Identity)
    (ρ : SessionRef → SessionRef) (g : Snowflake) :
    Mirrored ρ g { line, identity, bus } { line, identity, bus } := by
  have opened : ∀ stream, bus.ended stream = false := fun stream =>
    (EventBus.of_create? created stream).2
  exact ⟨⟨rfl, rfl, rfl,
      ⟨⟨rfl, opened .state, opened .state⟩, ⟨rfl, opened .server, opened .server⟩⟩,
      Registry.share_empty ρ g, rfl, rfl⟩, fun _ found => absurd found (by simp [call?]),
    fun _ found => absurd found (by simp [call?]), fun _ ended => absurd ended (by simp [outcome?])⟩

/-- Consider a run on a new bus that does not end its streams, over a transport that
accepts or refuses by the command alone, in which no call for a guild falls behind. Leave
out what is about other guilds. Then, up to names `ρ` for its sessions, everything is the
same for this guild after every part of the run: its calls have the same outcomes, or none
yet, its sessions have the same facts and states and are told apart in the same way, it has
the same one of them, and the commands for it and the trace events about it are the same,
in the same order. -/
theorem guild_isolation {capacity : Nat} {bus : EventBus}
    (created : EventBus.create? capacity = some bus) (line : σ) (identity : Identity)
    {acts : List (Act σ)} (lasting : ∀ stream, .close stream ∉ acts)
    (steady : ∀ s c, (T.send s c).1.refusal = rule c) (g : Snowflake)
    (timely : Timely T g { line, identity, bus } acts) :
    let w₀ : Coordinator σ := { line, identity, bus }
    ∃ ρ : SessionRef → SessionRef, ∀ pre, pre <+: acts →
      let w := w₀.run T pre
      let v := w₀.run (T.about g rule) (w₀.alone T g pre)
      (∀ ticket, w₀.Started T g pre ticket →
        v.outcome? ticket = (w.outcome? ticket).map (·.rename ρ) ∧
          ∀ s, w.outcome? ticket = some (.joined s) → w.registry.Knows g s) ∧
      (∀ s s', w.registry.Knows g s → w.registry.Knows g s' → ρ s = ρ s' → s = s') ∧
      (∀ s, w.registry.Knows g s → v.registry.record? (ρ s) = w.registry.record? s) ∧
      v.registry.get? g = (w.registry.get? g).map ρ ∧
      v.dispatches = w.dispatches.filter (fun d => d.command.update.guild = g) ∧
      v.notes = w.notes.filter (fun n => n.event.guild? = some g) := by
  intro w₀
  let ρ := Registry.rank g (w₀.run T acts).registry.sessions
  have sound : w₀.Sound := sound_init created line identity
  have mirrored := (mirrored_init created line identity ρ g).run steady sound sound lasting timely
    List.prefix_rfl
  refine ⟨ρ, fun pre hpre => ?_⟩
  intro w v
  have later : w.registry.Evolves (w₀.run T acts).registry := evolves_of_prefix w₀ hpre
  exact ⟨fun ticket started =>
      outcome_of_started sound sound.tidy (fun l hl => mirrored l (hl.trans hpre)) started,
    (mirrored pre hpre).shows later⟩

/-- Two guilds are joined over the loopback transport. The session of the second one is the
second that is registered, or the first where this guild is alone, and it is the same. -/
theorem guild_isolation_of_two :
    let bus : EventBus := ⟨{ window := 4 }, { window := 4 }⟩
    let T := Transport.loopback ⟨7⟩ 4 true
    let rule := fun c : ShardCommand =>
      if shardsInUse 4 ≤ c.shard then some (.shardUnavailable c.shard) else none
    let q : JoinRequest := ⟨⟨1⟩, ⟨2⟩, false, false, .ofSecs 5⟩
    let acts : List (Act Nat) := [.start 0 (.join { q with guild := ⟨3⟩ }) none,
      .start 1 (.join q) none, .poll 0 statesFirst, .poll 1 statesFirst]
    let w₀ : Coordinator Nat := { line := 0, identity := .fixed (some ⟨7⟩), bus }
    let w := w₀.run T acts
    let v := w₀.run (T.about ⟨1⟩ rule) (w₀.alone T ⟨1⟩ acts)
    EventBus.create? 3 = some bus ∧ w.outcome? 1 = some (.joined ⟨1⟩) ∧
      w.dispatches.length = 2 ∧ v.dispatches.length = 1 ∧
      ∃ s, v.outcome? 1 = some (.joined s) ∧ v.registry.record? s = w.registry.record? ⟨1⟩ := by
  intro bus T rule q acts w₀ w v
  have window : Nat.nextPowerOfTwo 3 = 4 := by decide +kernel
  have created : EventBus.create? 3 = some bus := by
    simp [EventBus.create?, Stream.create?, window, bus]
  have lasting : ∀ stream, .close stream ∉ acts := by simp [acts]
  have steady : ∀ s c, (T.send s c).1.refusal = rule c := by
    intro s c
    show SendReply.refusal (Prod.fst (if _ then _ else _)) = if _ then _ else _
    split <;> rfl
  have foreign : (w₀.run T (acts.take 2)).call? 0 =
      some ⟨0, .join { q with guild := ⟨3⟩ } .fresh, none, none⟩ := by decide
  have own : (w₀.run T (acts.take 3)).call? 1 = some ⟨1, .join q .fresh, none, none⟩ := by decide
  have keepsUp : (w₀.run T (acts.take 3)).KeepsUp T ⟨1, .join q .fresh, none, none⟩ := by
    have miss : (w₀.run T (acts.take 3)).registry.get? q.guild = none := by decide
    simp only [KeepsUp, miss]
    exact fun _ _ => ⟨by decide, by decide⟩
  have timely : Timely T ⟨1⟩ w₀ acts := by
    refine ⟨fun _ ha => absurd ha id, fun _ ha => absurd ha id, fun c ha hc hg => ?_,
      fun c ha hc hg => ?_, trivial⟩
    · rw [← show 0 = c.ticket from ha] at hc
      rw [Option.some.inj (hc.symm.trans foreign)] at hg
      exact absurd hg (by decide)
    · rw [← show 1 = c.ticket from ha] at hc
      exact Option.some.inj (hc.symm.trans own) ▸ keepsUp
  obtain ⟨ρ, h⟩ := guild_isolation created 0 (.fixed (some ⟨7⟩)) lasting steady ⟨1⟩ timely
  obtain ⟨results, -, sessions, -, dispatches, -⟩ := h acts List.prefix_rfl
  have started : w₀.Started T ⟨1⟩ acts 1 :=
    ⟨[.start 0 (.join { q with guild := ⟨3⟩ }) none], .join q, none, ⟨_, rfl⟩, rfl, by decide⟩
  obtain ⟨same, known⟩ := results 1 started
  have joined : w.outcome? 1 = some (.joined ⟨1⟩) := by decide +kernel
  have count : w.dispatches.length = 2 := by decide +kernel
  refine ⟨created, joined, count, ?_, ρ ⟨1⟩, ?_, sessions ⟨1⟩ (known ⟨1⟩ joined)⟩
  · rw [dispatches]
    decide +kernel
  · rw [same, joined]
    rfl

end Coordinator

end VoiceGateway
