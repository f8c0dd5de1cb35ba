import VoiceGateway.Proofs.Config.Checks
import VoiceGateway.Proofs.Handshake.Performing
import VoiceGateway.Simulation

/-!
# What a simulation shows

A simulation asks for one join and, if that has a session to show, for the disconnect after
it, one job at a time. With the servers that the loopback transport assigns each job ends at
once; without them the join fails at its deadline, and the disconnect is never asked for.

> `joinAndLeave_run`: a simulation is a run.
> `simulation_outcome`: the outcome of every simulation, the commands that it sends and what
> it leaves behind.
-/

namespace VoiceGateway

/-! ## Simulations -/

namespace Simulation

open Coordinator

/-- The request that a simulation makes, if it may. -/
def asked (c : Config) (o : SimulationOptions) : JoinRequest :=
  ⟨o.guild, o.channel, c.voice.selfMute, c.voice.selfDeaf, o.timeout.getD c.voice.joinTimeout⟩

theorem request_eq (c : Config) (o : SimulationOptions) :
    request c o = if (asked c o).timeout.nanos = 0 then
      .error (.config "join timeout must be greater than 0") else .ok (asked c o) := by
  unfold request asked
  cases o.timeout with
  | none => rfl
  | some d => rfl

section

variable {T : Transport Nat} {w : Coordinator Nat} {q : JoinRequest}

theorem joinAndLeave_of_failed {cause : JoinError}
    (failed : (w.perform T joinTicket (.join q)).1 = some (.joinFailed cause)) :
    joinAndLeave T w q = (.error (.join cause), (w.perform T joinTicket (.join q)).2) := by
  rcases hz : w.perform T joinTicket (.join q) with ⟨o, x⟩
  rw [hz] at failed
  have he : o = some (.joinFailed cause) := failed
  unfold joinAndLeave
  rw [hz, he]

theorem joinAndLeave_of_left {x : Coordinator Nat} {s : SessionRef} {info : SessionInfo}
    {evicted : Bool} (joined : w.perform T joinTicket (.join q) = (some (.joined s), x))
    (shown : x.registry.info? s = some info)
    (left : (x.perform T leaveTicket (.disconnect q.guild)).1 = some (.left evicted)) :
    joinAndLeave T w q = (.ok info, (x.perform T leaveTicket (.disconnect q.guild)).2) := by
  rcases hz : x.perform T leaveTicket (.disconnect q.guild) with ⟨o, y⟩
  rw [hz] at left
  have he : o = some (.left evicted) := left
  unfold joinAndLeave
  rw [joined]
  dsimp only
  rw [shown]
  unfold leave
  rw [hz, he]

theorem leave_snd (T : Transport Nat) (w : Coordinator Nat) (g : Snowflake) (info : SessionInfo) :
    (leave T w g info).2 = (w.perform T leaveTicket (.disconnect g)).2 := by
  unfold leave
  split <;> next h => rw [h]

/-- A join, and a disconnect if it comes to that, are one run. -/
theorem joinAndLeave_run (T : Transport Nat) (w : Coordinator Nat) (q : JoinRequest) :
    ∃ acts, (joinAndLeave T w q).2 = w.run T acts := by
  obtain ⟨acts, hjoin⟩ := perform_run (T := T) w joinTicket (.join q)
  unfold joinAndLeave
  split
  · next hz => exact ⟨acts, (congrArg Prod.snd hz).symm.trans hjoin⟩
  · next s x hz =>
    have hx : x = w.run T acts := (congrArg Prod.snd hz).symm.trans hjoin
    split
    · next info _ =>
      obtain ⟨more, hleave⟩ := perform_run (T := T) x leaveTicket (.disconnect q.guild)
      refine ⟨acts ++ more, ?_⟩
      rw [leave_snd, hleave, run_append, hx]
    · exact ⟨acts, hx⟩
  · next hz => exact ⟨acts, (congrArg Prod.snd hz).symm.trans hjoin⟩

end

theorem run_run (c : Config) (o : SimulationOptions) :
    ∃ acts, (run c o).2 = start.run (transport c o) acts := by
  unfold run
  split
  · exact ⟨[], rfl⟩
  · exact joinAndLeave_run _ _ _

/-- With the last call the last subscription has gone. -/
theorem unsubscribed {c : Config} {o : SimulationOptions} (idle : (run c o).2.calls = [])
    (stream : StreamName) : (run c o).2.bus.subscribers stream = 0 := by
  obtain ⟨acts, hrun⟩ := run_run c o
  have hsubscribers := run_subscribers (T := transport c o) start.line start.identity start.bus
    acts stream
  have hholders : (run c o).2.holders stream = 0 := by
    unfold holders
    rw [idle]
    rfl
  rw [hrun] at hholders ⊢
  refine hsubscribers.trans ?_
  cases stream with
  | state => exact (Nat.zero_add _).trans hholders
  | server => exact (Nat.zero_add _).trans hholders

variable {c : Config} {o : SimulationOptions}

/-- Without time nothing is even asked for. -/
theorem run_refused (hasty : (asked c o).timeout.nanos = 0) :
    run c o = (.error (.join (.config "join timeout must be greater than 0")), start) := by
  unfold run
  rw [request_eq, if_pos hasty]

theorem run_asked (patience : (asked c o).timeout.nanos ≠ 0) :
    run c o = joinAndLeave (transport c o) start (asked c o) := by
  unfold run
  rw [request_eq, if_neg patience]

/-- Without servers the join times out, and has left by then. -/
theorem run_unassigned (patience : (asked c o).timeout.nanos ≠ 0) (silent : o.noServer = true) :
    (run c o).1 = .error (.join (.timeout (asked c o).timeout)) ∧ (run c o).2.calls = [] ∧
      (run c o).2.registry = {} ∧
      (run c o).2.dispatches.map (·.command) =
        [.route (asked c o).update c.gateway.shardCount,
          .route (.leave o.guild) c.gateway.shardCount] := by
  let T : Transport Nat := .loopback selfId c.gateway.shardCount false
  have htransport : transport c o = T := by
    unfold transport
    rw [silent]
    rfl
  have opened : ∀ stream, start.bus.ended stream = false := fun stream => by cases stream <;> rfl
  have hjoin : Performed c.gateway.shardCount joinTicket start _ _ _ _
      (start.perform T joinTicket (.join (asked c o))) :=
    perform_unassigned selfId rfl rfl rfl opened rfl patience
  rw [run_asked patience, htransport, joinAndLeave_of_failed hjoin.outcome]
  exact ⟨rfl, hjoin.idle, hjoin.registry, congrArg _ hjoin.dispatches⟩

/-- With servers the join is answered with a session, which is gone once it has left. -/
theorem run_assigned (patience : (asked c o).timeout.nanos ≠ 0) (serving : o.noServer = false) :
    (run c o).1 = .ok ⟨o.guild, o.channel, selfId, shardOf o.guild c.gateway.shardCount,
        Loopback.endpoint, .connected⟩ ∧ (run c o).2.calls = [] ∧
      (∀ g, (run c o).2.registry.get? g = none) ∧
      (run c o).2.dispatches.map (·.command) =
        [.route (asked c o).update c.gateway.shardCount,
          .route (.leave o.guild) c.gateway.shardCount] ∧
      (run c o).2.now = 0 := by
  let count := c.gateway.shardCount
  let T : Transport Nat := .loopback selfId count true
  let session := answerOf selfId count (asked c o) 0
  have htransport : transport c o = T := by
    unfold transport
    rw [serving]
    rfl
  have live : start.bus.Live := ⟨⟨rfl, by decide⟩, ⟨rfl, by decide⟩⟩
  have hjoin : Performed count joinTicket start _ _ _ _
      (start.perform T joinTicket (.join (asked c o))) :=
    perform_join selfId rfl rfl rfl live rfl
  let x := (start.perform T joinTicket (.join (asked c o))).2
  have joined : start.perform T joinTicket (.join (asked c o)) = (some (.joined ⟨0⟩), x) :=
    Prod.ext hjoin.outcome rfl
  have shown : x.registry.info? ⟨0⟩ = some (session.info .connected) := by
    rw [show x.registry = _ from hjoin.registry]
    rfl
  -- The ticket of the join is the only one that has an outcome.
  have unanswered : x.outcome? leaveTicket = none := by
    unfold outcome?
    rw [show x.outcomes = _ from hjoin.outcomes]
    rfl
  have hleave : Performed count leaveTicket x _ _ _ _
      (x.perform T leaveTicket (.disconnect o.guild)) :=
    perform_disconnect selfId hjoin.idle unanswered o.guild
  have hregistry : (x.perform T leaveTicket (.disconnect o.guild)).2.registry =
      ((({} : Registry).tryRegister session).2.evict session.guild).2 :=
    hleave.registry.trans (congrArg (fun r : Registry => (r.evict o.guild).2) hjoin.registry)
  have hdispatches := hleave.dispatches.trans (congrArg (· ++ _) hjoin.dispatches)
  have hnow : (x.perform T leaveTicket (.disconnect o.guild)).2.now = 0 :=
    hleave.now.trans hjoin.now
  rw [run_asked patience, htransport, joinAndLeave_of_left joined shown hleave.outcome]
  refine ⟨rfl, hleave.idle, fun g => ?_, congrArg _ hdispatches, hnow⟩
  exact (congrArg (·.get? g) hregistry).trans (Registry.get?_evict_only session g)

/-- What comes of a simulation, for any settings and options. Its timeout is the one that was
asked for, or else the configured one.

* It is refused exactly if the timeout is zero, and then it sends nothing.
* Otherwise, if no servers are assigned, the join times out with just this timeout.
* Otherwise it shows the session of the channel that was asked for, at the shard of the
  guild, and no time passes.
* Whenever it is not refused it has sent one command that joins and one that leaves.
* At the end no guild has a session, and nobody is subscribed.
* Settings that pass their checks are never the reason for a refusal. -/
theorem simulation_outcome (c : Config) (o : SimulationOptions) :
    let timeout := o.timeout.getD c.voice.joinTimeout
    let shard := shardOf o.guild c.gateway.shardCount
    let join : ShardCommand :=
      ⟨shard, .join o.guild o.channel c.voice.selfMute c.voice.selfDeaf⟩
    let leave : ShardCommand := ⟨shard, .leave o.guild⟩
    let result := (run c o).1
    let w := (run c o).2
    ((∃ text, result = .error (.join (.config text))) ↔ timeout.nanos = 0) ∧
    (timeout.nanos = 0 →
      result = .error (.join (.config "join timeout must be greater than 0")) ∧
        w.dispatches = []) ∧
    (timeout.nanos ≠ 0 → o.noServer = true →
      result = .error (.join (.timeout timeout)) ∧
        w.dispatches.map (·.command) = [join, leave]) ∧
    (timeout.nanos ≠ 0 → o.noServer = false →
      result = .ok ⟨o.guild, o.channel, selfId, shard, Loopback.endpoint, .connected⟩ ∧
        w.dispatches.map (·.command) = [join, leave] ∧ w.now = 0) ∧
    shard.toNat = (o.guild.raw.toNat >>> 22) % max c.gateway.shardCount.toNat 1 ∧
    (w.registry.size = 0 ∧ ∀ stream, w.bus.subscribers stream = 0) ∧
    (c.isValid = true → o.timeout = none → ∀ text, result ≠ .error (.join (.config text))) := by
  intro timeout shard join leave result w
  have refused : timeout.nanos = 0 → run c o =
      (.error (.join (.config "join timeout must be greater than 0")), start) := run_refused
  have assigned : timeout.nanos ≠ 0 → o.noServer = false → _ := run_assigned
  have unassigned : timeout.nanos ≠ 0 → o.noServer = true → _ := run_unassigned
  -- With time the outcome is one of two others.
  have hasty : ∀ text, result = .error (.join (.config text)) → timeout.nanos = 0 := by
    intro text failed
    by_contra patience
    cases hs : o.noServer with
    | false => exact absurd ((assigned patience hs).1.symm.trans failed) (by simp)
    | true => exact absurd ((unassigned patience hs).1.symm.trans failed) (by simp)
  have rest : w.calls = [] ∧ w.registry.size = 0 := by
    by_cases hzero : timeout.nanos = 0
    · rw [show w = start from congrArg Prod.snd (refused hzero)]
      exact ⟨rfl, rfl⟩
    · cases hs : o.noServer with
      | false =>
        obtain ⟨-, hidle, hfree, -, -⟩ := assigned hzero hs
        exact ⟨hidle, Registry.size_eq_zero hfree⟩
      | true =>
        obtain ⟨-, hidle, hregistry, -⟩ := unassigned hzero hs
        exact ⟨hidle, congrArg Registry.size hregistry⟩
  have answer : timeout.nanos = 0 →
      result = .error (.join (.config "join timeout must be greater than 0")) :=
    fun hzero => congrArg Prod.fst (refused hzero)
  refine ⟨⟨fun ⟨text, failed⟩ => hasty text failed, fun hzero => ⟨_, answer hzero⟩⟩,
    fun hzero => ⟨answer hzero, congrArg (·.2.dispatches) (refused hzero)⟩,
    fun patience silent => ?_, fun patience serving => ?_, toNat_shardOf _ _,
    ⟨rest.2, fun stream => unsubscribed rest.1 stream⟩, fun valid unchosen text failed => ?_⟩
  · obtain ⟨hresult, -, -, hsent⟩ := unassigned patience silent
    exact ⟨hresult, hsent⟩
  · obtain ⟨hresult, -, -, hsent, hnow⟩ := assigned patience serving
    exact ⟨hresult, hsent, hnow⟩
  · have hconfigured : timeout = c.voice.joinTimeout := by
      show o.timeout.getD _ = _
      rw [unchosen]
      rfl
    have hzero := hasty text failed
    rw [hconfigured] at hzero
    exact ((Config.isValid_iff c).mp valid).2 (VoiceSettings.joinTimeout_eq_zero.mp hzero)

/-- The default settings: a simulation that shows its session, one that times out after a
second, and one that may not wait at all. -/
theorem simulation_outcome_of_defaults :
    (run {} {}).1 = .ok ⟨⟨81384788765712384⟩, ⟨1⟩, selfId, 0, Loopback.endpoint, .connected⟩ ∧
      (run {} { noServer := true, timeout := some (.ofSecs 1) }).1 =
        .error (.join (.timeout (.ofSecs 1))) ∧
      (run {} { timeout := some (.ofSecs 0) }).1 =
        .error (.join (.config "join timeout must be greater than 0")) ∧
      ∀ text, (run {} {}).1 ≠ .error (.join (.config text)) := by
  have shows := simulation_outcome {} {}
  have starves := simulation_outcome {} { noServer := true, timeout := some (.ofSecs 1) }
  have hurries := simulation_outcome {} { timeout := some (.ofSecs 0) }
  have valid : ({} : Config).isValid = true := (Config.isValid_iff {}).mpr (by decide)
  exact ⟨(shows.2.2.2.1 (by decide) rfl).1, (starves.2.2.1 (by decide) rfl).1,
    (hurries.2.1 (by decide)).1, shows.2.2.2.2.2.2 valid rfl⟩

end Simulation

end VoiceGateway
