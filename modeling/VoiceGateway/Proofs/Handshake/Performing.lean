import VoiceGateway.Proofs.Handshake.Loopback

/-!
# One job at a time

A job is performed by a call that is alone with the coordinator. Either the call ends when it
is first run (`perform_ended`), or it has to wait. A join that waits for a server that nobody
assigns is run again in vain; the clock goes to its deadline and no further, and there it
fails (`perform_starved`).

Whatever is performed is a run, so what holds of all runs holds of it.

> `perform_run`: a job is performed by a run.
> `perform_join`, `perform_disconnect`, `perform_unassigned`: the jobs of a client over the
> loopback transport, with and without servers.
-/

namespace VoiceGateway

namespace Coordinator

variable {σ : Type} {T : Transport σ} {ticket : Nat}

/-! ## Performing is running -/

theorem pollAll_run (w : Coordinator σ) : ∃ acts, w.pollAll T = w.run T acts := by
  refine ⟨w.calls.map fun c => .poll c.ticket statesFirst, ?_⟩
  unfold pollAll run
  rw [List.foldl_map, List.foldl_map]
  rfl

theorem expireAll_run (w : Coordinator σ) : ∃ acts, w.expireAll T = w.run T acts := by
  refine ⟨w.due.map fun ticket => .expire ticket statesFirst, ?_⟩
  unfold expireAll run
  rw [List.foldl_map]
  rfl

theorem settleAll_run (w : Coordinator σ) : ∃ acts, w.settleAll T = w.run T acts := by
  obtain ⟨polls, hpolls⟩ := pollAll_run (T := T) w
  obtain ⟨expiries, hexpiries⟩ := expireAll_run (T := T) (w.run T polls)
  refine ⟨polls ++ expiries, ?_⟩
  unfold settleAll
  rw [hpolls, hexpiries, run_append]

/-- A job is performed by a run. -/
theorem perform_run (w : Coordinator σ) (ticket : Nat) (job : Job) :
    ∃ acts, (w.perform T ticket job).2 = w.run T acts := by
  let started := w.start ticket job.task none
  obtain ⟨acts, hacts⟩ := settleAll_run (T := T) started
  cases hdue : ((started.settleAll T).call? ticket).bind Call.dueAt with
  | none =>
    refine ⟨.start ticket job none :: acts, ?_⟩
    unfold perform
    dsimp only
    rw [hdue, hacts, run_cons]
    rfl
  | some time =>
    let settled := started.run T acts
    have jumped : { settled with now := max settled.now time } =
        settled.advance (time - settled.now) := by
      unfold advance
      rw [show settled.now + (time - settled.now) = max settled.now time by omega]
    obtain ⟨more, hmore⟩ := settleAll_run (T := T) (settled.advance (time - settled.now))
    refine ⟨.start ticket job none :: acts ++ .advance (time - settled.now) :: more, ?_⟩
    unfold perform
    dsimp only
    rw [hdue, hacts, run_append, run_cons, run_cons]
    dsimp only
    rw [jumped, hmore]
    rfl

/-! ## A call alone -/

/-- A coordinator with one pending call. -/
def sole (w : Coordinator σ) (c : Call) : Coordinator σ := { w with calls := [c] }

/-- A call of a job whose caller waits for as long as it takes. -/
def patient (ticket : Nat) (task : Task) : Call := ⟨ticket, task, none, none⟩

variable {w x : Coordinator σ} {task : Task}

theorem call?_sole (w : Coordinator σ) (ticket : Nat) (task : Task) :
    (w.sole (patient ticket task)).call? ticket = some (patient ticket task) := by
  simp [sole, patient, call?]

theorem poll_sole (w : Coordinator σ) (ticket : Nat) (task : Task) :
    (w.sole (patient ticket task)).poll T statesFirst ticket =
      ((w.sole (patient ticket task)).runTask T ticket statesFirst task).2.settle
        (patient ticket task)
        ((w.sole (patient ticket task)).runTask T ticket statesFirst task).1 := by
  unfold poll
  rw [call?_sole]
  rfl

/-- Running the one call makes no other. -/
theorem runTask_sole {p : Progress}
    (ran : (w.sole (patient ticket task)).runTask T ticket statesFirst task = (p, x)) :
    x.calls = [patient ticket task] ∧ x.outcomes = w.outcomes := by
  have hmoves := moves_runTask (T := T) (w.sole (patient ticket task)) ticket statesFirst task
  rw [ran] at hmoves
  exact hmoves.calls

theorem poll_sole_pending {task' : Task}
    (ran : (w.sole (patient ticket task)).runTask T ticket statesFirst task =
      (.pending task', x)) :
    (w.sole (patient ticket task)).poll T statesFirst ticket = x.sole (patient ticket task') := by
  rw [poll_sole, ran]
  show { x with calls := x.calls.map _ } = { x with calls := [patient ticket task'] }
  rw [(runTask_sole ran).1]
  simp [patient]

theorem poll_sole_ended {o : Outcome}
    (ran : (w.sole (patient ticket task)).runTask T ticket statesFirst task = (.ended o, x)) :
    (w.sole (patient ticket task)).poll T statesFirst ticket = x.finish ticket o := by
  rw [poll_sole, ran]
  rfl

theorem finish_idle (calls : x.calls = [patient ticket task]) (o : Outcome) :
    (x.finish ticket o).calls = [] := by
  unfold finish
  rw [calls]
  simp [patient]

theorem call?_idle (idle : w.calls = []) (ticket : Nat) : w.call? ticket = none := by
  unfold call?
  rw [idle]
  rfl

theorem start_sole (idle : w.calls = []) (unanswered : w.outcome? ticket = none) (task : Task) :
    w.start ticket task none = w.sole (patient ticket task) := by
  rw [start_eq ((isFresh_iff w ticket).mpr ⟨call?_idle idle ticket, unanswered⟩), idle]
  rfl

theorem due_idle (idle : w.calls = []) : w.due = [] := by
  unfold due
  rw [idle]
  simp

theorem due_sole (w : Coordinator σ) (ticket : Nat) {task : Task} {time : Nat}
    (deadline : task.deadline? = some time) :
    (w.sole (patient ticket task)).due = if time ≤ w.now then [ticket] else [] := by
  have dueAt : (patient ticket task).dueAt = some time := by
    unfold Call.dueAt patient
    rw [deadline]
    rfl
  unfold due sole
  dsimp only
  rw [List.filterMap_cons, dueAt]
  by_cases late : time ≤ w.now
  · simp [late, patient]
  · simp [late]

/-- A job whose call ends when it is first run. -/
theorem perform_ended (idle : w.calls = []) (unanswered : w.outcome? ticket = none) {job : Job}
    {o : Outcome}
    (ends : (w.sole (patient ticket job.task)).runTask T ticket statesFirst job.task =
      (.ended o, x)) :
    w.perform T ticket job = (some o, x.finish ticket o) := by
  obtain ⟨hcalls, houtcomes⟩ := runTask_sole ends
  have hidle : (x.finish ticket o).calls = [] := finish_idle hcalls o
  have hsettled : (w.start ticket job.task none).settleAll T = x.finish ticket o := by
    have hpolled : (w.sole (patient ticket job.task)).pollAll T = x.finish ticket o :=
      poll_sole_ended ends
    rw [start_sole idle unanswered]
    unfold settleAll expireAll
    rw [hpolled, due_idle hidle]
    rfl
  have houtcome : (x.finish ticket o).outcome? ticket = some o := by
    rw [outcome?_finish, outcome?_congr houtcomes, unanswered, if_pos rfl]
    rfl
  unfold perform
  dsimp only
  rw [hsettled, call?_idle hidle]
  exact Prod.ext houtcome rfl

/-! ## A call that waits in vain -/

/-- A rendezvous that waits for a server that is not there goes on waiting. -/
theorem gather_starved (x : Coordinator σ) (ticket : Nat) (q : JoinRequest) {r : Rendezvous}
    (deadline : Nat) (opened : ∀ stream, x.bus.ended stream = false)
    (starved : r.soonServer x.bus = none) :
    ∃ r', r'.soonServer x.bus = none ∧ x.gather T ticket statesFirst q r deadline =
      (.pending (.join q (.gathering r' deadline)), x) := by
  have hmet := Rendezvous.meet_spec x.bus statesFirst r
  unfold gather
  cases hm : r.meet x.bus statesFirst with
  | complete e v =>
    rw [hm] at hmet
    exact absurd (hmet.2.symm.trans starved) (by simp)
  | pending r' =>
    rw [hm] at hmet
    exact ⟨r', hmet.1.server.trans starved, rfl⟩
  | closed stream =>
    rw [hm] at hmet
    cases stream with
    | state => exact absurd (hmet.2.symm.trans (opened .state)) (by simp)
    | server => exact absurd (hmet.2.symm.trans (opened .server)) (by simp)

/-- The task of a join that gathers its confirmations. -/
def gatheringTask (q : JoinRequest) (deadline : Nat) (r : Rendezvous) : Task :=
  .join q (.gathering r deadline)

/-- Such a call is left with what it has, each time that it is run. -/
theorem poll_starved (w : Coordinator σ) (ticket : Nat) (q : JoinRequest) {r : Rendezvous}
    (deadline : Nat) (opened : ∀ stream, w.bus.ended stream = false)
    (starved : r.soonServer w.bus = none) :
    ∃ r', r'.soonServer w.bus = none ∧
      (w.sole (patient ticket (gatheringTask q deadline r))).poll T statesFirst ticket =
        w.sole (patient ticket (gatheringTask q deadline r')) := by
  obtain ⟨r', hstarved, hgather⟩ := gather_starved (T := T)
    (w.sole (patient ticket (gatheringTask q deadline r))) ticket q deadline opened starved
  have ran : (w.sole (patient ticket (gatheringTask q deadline r))).runTask T ticket statesFirst
      (gatheringTask q deadline r) = _ := hgather
  have hpoll := poll_sole_pending ran
  exact ⟨r', hstarved, hpoll⟩

/-- At its deadline it fails. -/
theorem expire_starved {q : JoinRequest} {r : Rendezvous} (deadline : Nat)
    (opened : ∀ stream, w.bus.ended stream = false) (starved : r.soonServer w.bus = none)
    (late : deadline ≤ w.now) {o : Outcome}
    (fails : ∀ y : Coordinator σ,
      (y.failHandshake T ticket q (.timeout q.timeout)).1 = .ended o) :
    ∃ r', (w.sole (patient ticket (gatheringTask q deadline r))).expire T statesFirst ticket =
      ((w.sole (patient ticket (gatheringTask q deadline r'))).failHandshake T ticket q
        (.timeout q.timeout)).2.finish ticket o := by
  obtain ⟨r', -, hpoll⟩ := poll_starved (T := T) w ticket q deadline opened starved
  let waiting : Coordinator σ := w.sole (patient ticket (gatheringTask q deadline r'))
  let failed : Coordinator σ := (waiting.failHandshake T ticket q (.timeout q.timeout)).2
  have hexpired : waiting.expireHandshake T (patient ticket (gatheringTask q deadline r')) =
      failed.finish ticket o := by
    show (if deadline ≤ w.now then _ else _) = _
    rw [if_pos late]
    show failed.settle _ (waiting.failHandshake T ticket q (.timeout q.timeout)).1 = _
    rw [fails]
    rfl
  have hcall : (failed.finish ticket o).call? ticket = none :=
    call?_settle_ended failed (patient ticket (gatheringTask q deadline r')) o
  refine ⟨r', ?_⟩
  unfold expire
  dsimp only
  rw [hpoll, call?_sole]
  dsimp only
  rw [hexpired, hcall]

/-- A join that waits for a server that does not come is failed at its deadline, and not
before. -/
theorem perform_starved (idle : w.calls = []) (unanswered : w.outcome? ticket = none)
    {q : JoinRequest} {r : Rendezvous} {deadline : Nat}
    (begins : (w.sole (patient ticket (.join q .fresh))).runTask T ticket statesFirst
        (.join q .fresh) = x.gather T ticket statesFirst q r deadline)
    (opened : ∀ stream, x.bus.ended stream = false) (starved : r.soonServer x.bus = none)
    (later : x.now < deadline) {o : Outcome}
    (fails : ∀ y : Coordinator σ,
      (y.failHandshake T ticket q (.timeout q.timeout)).1 = .ended o) :
    let y : Coordinator σ := { x with now := deadline }
    ∃ r', w.perform T ticket (.join q) = (some o,
      ((y.sole (patient ticket (gatheringTask q deadline r'))).failHandshake T ticket q
        (.timeout q.timeout)).2.finish ticket o) := by
  intro y
  obtain ⟨r₁, starved₁, hgather⟩ := gather_starved (T := T) x ticket q deadline opened starved
  obtain ⟨r₂, starved₂, hpolled⟩ := poll_starved (T := T) y ticket q deadline opened starved₁
  obtain ⟨r₃, hexpired⟩ := expire_starved (T := T) (w := y) deadline opened starved₂
    (Nat.le_refl _) fails
  let expiring : Coordinator σ := y.sole (patient ticket (gatheringTask q deadline r₃))
  let failed : Coordinator σ := (expiring.failHandshake T ticket q (.timeout q.timeout)).2
  have ran := begins.trans hgather
  -- The clock stands before the deadline, then at it.
  have hbefore : (w.start ticket (.join q .fresh) none).settleAll T =
      x.sole (patient ticket (gatheringTask q deadline r₁)) := by
    have hran : (w.sole (patient ticket (.join q .fresh))).pollAll T =
        x.sole (patient ticket (gatheringTask q deadline r₁)) := poll_sole_pending ran
    rw [start_sole idle unanswered]
    unfold settleAll expireAll
    rw [hran, due_sole x ticket rfl, if_neg (Nat.not_le_of_lt later)]
    rfl
  have hat : (y.sole (patient ticket (gatheringTask q deadline r₁))).settleAll T =
      failed.finish ticket o := by
    have hran : (y.sole (patient ticket (gatheringTask q deadline r₁))).pollAll T =
        y.sole (patient ticket (gatheringTask q deadline r₂)) := hpolled
    unfold settleAll expireAll
    rw [hran, due_sole y ticket rfl, if_pos (Nat.le_refl _)]
    exact hexpired
  have houtcome : (failed.finish ticket o).outcome? ticket = some o := by
    have hexpiry : Fails expiring q (.gathering r₃ deadline) (.timeout q.timeout) :=
      .expired (Nat.le_refl _)
    have hfailed : failed.outcomes = w.outcomes :=
      (moves_failHandshake hexpiry).calls.2.trans (runTask_sole ran).2
    rw [outcome?_finish, outcome?_congr hfailed, unanswered, if_pos rfl]
    rfl
  -- The clock goes to the deadline that is due, and never back.
  have hjump : { x.sole (patient ticket (gatheringTask q deadline r₁)) with
      now := max x.now deadline } = y.sole (patient ticket (gatheringTask q deadline r₁)) := by
    rw [Nat.max_eq_right (Nat.le_of_lt later)]
    rfl
  refine ⟨r₃, ?_⟩
  unfold perform
  dsimp only [Job.task]
  rw [hbefore, call?_sole]
  show (Coordinator.outcome? (settleAll T { x.sole _ with now := max x.now deadline }) ticket,
    settleAll T { x.sole _ with now := max x.now deadline }) = _
  rw [hjump, hat]
  exact Prod.ext houtcome rfl

/-! ## Over the loopback transport -/

open Loopback

variable {user : Snowflake} {count : UInt32} {w : Coordinator Nat}

theorem dispatch_settled (user : Snowflake) (count : UInt32) (assignsServers : Bool)
    (w : Coordinator Nat) (ticket : Nat) (u : VoiceUpdate) :
    (w.dispatch (.loopback user count assignsServers) ticket u).1 = .settled none :=
  congrArg Prod.fst (Transport.loopback_accepts user count assignsServers w.line u)

theorem dispatch_dispatches (user : Snowflake) (count : UInt32) (assignsServers : Bool)
    (w : Coordinator Nat) (ticket : Nat) (u : VoiceUpdate) :
    (w.dispatch (.loopback user count assignsServers) ticket u).2.dispatches =
      w.dispatches ++ [⟨ticket, .route u count, .settled none⟩] := by
  rw [← dispatch_settled user count assignsServers w ticket u]
  rfl

/-- Where no servers are assigned, nothing comes to their stream. -/
theorem dispatch_unassigned (w : Coordinator Nat) (ticket : Nat) (u : VoiceUpdate) :
    (w.dispatch (.loopback user count false) ticket u).2.bus.servers = w.bus.servers := by
  have hsend := Transport.loopback_accepts user count false w.line u
  unfold dispatch
  dsimp only [Transport.loopback] at hsend ⊢
  rw [hsend]
  simp [events, EventBus.publishAll, EventBus.publish]

/-- So a join that has just sent its command is without a server. -/
theorem sendOpening_starved (w : Coordinator Nat) (ticket : Nat) (q : JoinRequest) :
    Rendezvous.soonServer ⟨q.guild, user, ⟨w.bus.states.history.length⟩,
      ⟨w.bus.servers.history.length⟩, none, none⟩
      (w.sendOpening (.loopback user count false) ticket q).2.bus = none := by
  have hservers : (w.sendOpening (.loopback user count false) ticket q).2.bus.servers =
      w.bus.servers.subscribe.2 := dispatch_unassigned _ ticket _
  have hunread : w.bus.servers.subscribe.2.unread ⟨w.bus.servers.history.length⟩ = [] :=
    List.drop_eq_nil_of_le (Nat.le_max_left _ _)
  unfold Rendezvous.soonServer
  rw [hservers, hunread]
  rfl

/-- What is left of a job that was performed: its outcome, the sessions, the updates that
were sent for it, and the time that it took. -/
structure Performed (count : UInt32) (ticket : Nat) (w : Coordinator Nat) (o : Outcome)
    (registry : Registry) (sent : List VoiceUpdate) (nanos : Nat)
    (z : Option Outcome × Coordinator Nat) : Prop where
  outcome : z.1 = some o
  outcomes : z.2.outcomes = w.outcomes ++ [(ticket, o)]
  idle : z.2.calls = []
  registry : z.2.registry = registry
  dispatches : z.2.dispatches = w.dispatches ++
    sent.map fun u => ⟨ticket, .route u count, .settled none⟩
  now : z.2.now = w.now + nanos

/-- A join of a guild that has no session registers one. -/
theorem perform_join (user : Snowflake) (idle : w.calls = [])
    (unanswered : w.outcome? ticket = none)
    (own : w.identity.selfId = some user) (live : w.bus.Live) {q : JoinRequest}
    (miss : w.registry.get? q.guild = none) :
    Performed count ticket w (.joined w.registry.nextRef)
      (w.registry.tryRegister (answerOf user count q w.line)).2 [q.update] 0
      (w.perform (.loopback user count true) ticket (.join q)) := by
  let started := w.sole (patient ticket (.join q .fresh))
  have ends : started.runTask (.loopback user count true) ticket statesFirst (.join q .fresh) = _ :=
    join_miss_eq (w := started) own live miss ticket statesFirst
  have hperform : w.perform (.loopback user count true) ticket (.join q) = _ :=
    perform_ended idle unanswered ends
  rw [hperform]
  exact ⟨rfl, rfl, finish_idle (runTask_sole ends).1 _, rfl, rfl, rfl⟩

/-- A disconnect evicts the guild. -/
theorem perform_disconnect (user : Snowflake) (idle : w.calls = [])
    (unanswered : w.outcome? ticket = none) (g : Snowflake) :
    Performed count ticket w (.left (w.registry.evict g).1) (w.registry.evict g).2 [.leave g] 0
      (w.perform (.loopback user count true) ticket (.disconnect g)) := by
  let started := w.sole (patient ticket (.disconnect g none))
  have ends : started.runTask (.loopback user count true) ticket statesFirst
      (.disconnect g none) = _ := disconnect_eq started g ticket statesFirst
  have hperform : w.perform (.loopback user count true) ticket (.disconnect g) = _ :=
    perform_ended idle unanswered ends
  have hmoves := moves_runTask (T := .loopback user count true) started ticket statesFirst
    (.disconnect g none)
  rw [ends] at hmoves
  rw [hperform]
  refine ⟨rfl, ?_, finish_idle hmoves.calls.1 _, evict_registry _ _ g, evict_dispatches _ _ g,
    hmoves.surroundings.1⟩
  exact congrArg (· ++ _) hmoves.calls.2

/-- Where no servers are assigned, a join of a guild that has no session times out. -/
theorem perform_unassigned (user : Snowflake) (idle : w.calls = [])
    (unanswered : w.outcome? ticket = none)
    (own : w.identity.selfId = some user) (opened : ∀ stream, w.bus.ended stream = false)
    {q : JoinRequest} (miss : w.registry.get? q.guild = none) (patience : q.timeout.nanos ≠ 0) :
    Performed count ticket w (.joinFailed (.timeout q.timeout)) w.registry
      [q.update, .leave q.guild] q.timeout.nanos
      (w.perform (.loopback user count false) ticket (.join q)) := by
  let T : Transport Nat := .loopback user count false
  let cause : JoinError := .timeout q.timeout
  let started := w.sole (patient ticket (.join q .fresh))
  let sent := (started.sendOpening T ticket q).2
  have begins : started.runTask T ticket statesFirst (.join q .fresh) = _ :=
    runTask_accepted (w := started) own miss (dispatch_settled user count false _ ticket _)
      statesFirst
  have hopened : ∀ stream, sent.bus.ended stream = false := fun stream =>
    (EventBus.publishAll_ended stream _ _).trans (opened stream)
  have fails : ∀ y : Coordinator Nat, y.failHandshake T ticket q cause = _ :=
    fun y => failHandshake_accepted (dispatch_settled user count false _ ticket _)
  obtain ⟨r, hperform⟩ := perform_starved idle unanswered begins hopened
    (sendOpening_starved started ticket q)
    (Nat.lt_add_of_pos_right (Nat.pos_of_ne_zero patience)) fun y => congrArg Prod.fst (fails y)
  -- The deadline is met with nothing sent since the opening but the leave.
  let late := { sent with now := w.now + q.timeout.nanos }.sole
    (patient ticket (gatheringTask q (w.now + q.timeout.nanos) r))
  let left := (late.sendLeave T ticket q cause).2
  have hleft : (late.failHandshake T ticket q cause).2 = left :=
    (congrArg Prod.snd (fails late)).trans (evict_free (w := left) miss _)
  have hdispatches : left.dispatches = (w.dispatches ++
      [⟨ticket, .route q.update count, .settled none⟩]) ++
      [⟨ticket, .route (.leave q.guild) count, .settled none⟩] :=
    (dispatch_dispatches user count false _ ticket _).trans
      (congrArg (· ++ _) (dispatch_dispatches user count false _ ticket q.update))
  rw [hperform]
  show Performed _ _ _ _ _ _ _ (_, (late.failHandshake T ticket q cause).2.finish ticket _)
  rw [hleft]
  exact ⟨rfl, rfl, finish_idle rfl _, rfl, hdispatches.trans (List.append_assoc ..), rfl⟩

end Coordinator

end VoiceGateway
