import Mathlib.Algebra.Group.Nat.Defs
import VoiceGateway.Proofs.Handshake.Audience
import VoiceGateway.Proofs.Handshake.Convergence
import VoiceGateway.Transport.Loopback

/-!
# The shard of a guild, wherever it is written down

A guild has one shard, given by its id and the number of shards. It stands in the commands
that are handed over for the guild, in the events of the trace that are about it and in its
sessions; and each of these is made at a time of its own, some of them long after the guild
was looked up. That they agree is an invariant of runs (`Routed`): what is entered for a
call is entered for the guild that was asked for, and at the shard of that guild.

> `toNat_shardOf`: the shard as a number, which 32 bits are enough for.
> `Change.routed`: no change of a run enters another shard.
> `shard_routing`: commands, sessions and trace of every run; and the loopback transport
> refuses none of the commands.
-/

namespace VoiceGateway

/-! ## The shard as a number -/

theorem toNat_shardsInUse (count : UInt32) : (shardsInUse count).toNat = max count.toNat 1 := by
  unfold shardsInUse
  split
  · next h =>
    subst h
    rfl
  · next h =>
    have hne : count.toNat ≠ 0 := fun he => h (UInt32.toNat_inj.mp he)
    omega

theorem toNat_shardOf (g : Snowflake) (count : UInt32) :
    (shardOf g count).toNat = (g.raw.toNat >>> 22) % max count.toNat 1 := by
  have hlt := shardNumber_lt g count
  have hsize := (shardsInUse count).toNat_lt
  have hnarrow : (shardOf g count).toNat = shardNumber g count :=
    UInt32.toNat_ofNat_of_lt' (Nat.lt_trans hlt hsize)
  rw [hnarrow, ← toNat_shardsInUse]
  rfl

/-- The low bits of an id take no part in routing. -/
theorem shardOf_congr {g g' : Snowflake} (same : g.raw.toNat / 2 ^ 22 = g'.raw.toNat / 2 ^ 22)
    (count : UInt32) : shardOf g count = shardOf g' count := by
  apply UInt32.toNat_inj.mp
  rw [toNat_shardOf, toNat_shardOf, Nat.shiftRight_eq_div_pow, Nat.shiftRight_eq_div_pow, same]

namespace TraceEvent

/-- The shard that an event carries. -/
def shard? : TraceEvent → Option UInt32
  | .joinRequested _ _ shard _ | .handshakeCompleted _ shard _ _ | .handshakeFailed _ shard _
  | .reconnectFailed shard _ _ _ | .reconnected shard _ => some shard
  | .raceLost _ | .sessionEvicted _ | .cleanupFailed _ _ => none

/-- An event that carries a shard is about a guild, and the shard is that of the guild. -/
def Routed (count : UInt32) (e : TraceEvent) : Prop :=
  ∀ shard, e.shard? = some shard → ∃ g, e.guild? = some g ∧ shard = shardOf g count

end TraceEvent

/-- A command at the shard of its guild is for one of the shards that the loopback transport
has. -/
theorem Transport.loopback_accepts (user : Snowflake) (count : UInt32) (assignsServers : Bool)
    (n : Nat) (u : VoiceUpdate) :
    (Transport.loopback user count assignsServers).send n (.route u count) =
      (.settled none, Loopback.events user assignsServers n u, n + 1) :=
  if_neg (UInt32.not_le.mpr (shardOf_lt u.guild count))

namespace Coordinator

variable {σ : Type} {T : Transport σ}

/-! ## What is handed over -/

/-- What is handed over in the course of a call is about the guild of the call. -/
theorem Sends.guild {ticket : Nat} {w x : Coordinator σ} {task : Task} {u : VoiceUpdate}
    (h : Sends T ticket w task x u) : u.guild = task.guild := by
  induction h with
  | leave => rfl
  | renew hit => rfl
  | «open» miss => rfl
  | fail fails => rfl
  | later move _ ih => exact ih.trans move.guild

theorem Moves.job {ticket : Nat} {w w' : Coordinator σ} {task task' : Task}
    (h : Moves T ticket w task (.pending task') w') : task'.job = task.job :=
  h.preserves (P := fun _ t => t.job = task.job) (Q := fun _ _ => True)
    (fun move ht => move.job.trans ht) (fun _ _ => trivial) rfl

/-! ## What is noted -/

/-- Every shard in the trace is that of the guild beside it. -/
def Traced (T : Transport σ) (w : Coordinator σ) : Prop :=
  ∀ n ∈ w.notes, n.event.Routed T.shardCount

theorem Traced.note {w : Coordinator σ} (h : Traced T w) (t : Option Nat) {e : TraceEvent}
    (he : e.Routed T.shardCount) : Traced T (w.note t e) := by
  intro n hn
  rcases List.mem_append.mp hn with hold | hnew
  · exact h n hold
  · rw [List.mem_singleton.mp hnew]
    exact he

/-- An event without a shard. -/
theorem Traced.note_plain {w : Coordinator σ} (h : Traced T w) (t : Option Nat) {e : TraceEvent}
    (plain : e.shard? = none) : Traced T (w.note t e) :=
  h.note t fun _ hs => absurd (plain.symm.trans hs) (by simp)

/-- An event with the shard of its guild. -/
theorem Traced.note_shard {w : Coordinator σ} (h : Traced T w) (t : Option Nat) {e : TraceEvent}
    {g : Snowflake} (guild : e.guild? = some g)
    (shard : e.shard? = some (shardOf g T.shardCount)) : Traced T (w.note t e) :=
  h.note t fun _ hs => ⟨g, guild, Option.some.inj (hs.symm.trans shard)⟩

theorem Traced.evict {w : Coordinator σ} (h : Traced T w) (t : Option Nat) (g : Snowflake) :
    Traced T (w.evict t g).2 := by
  have hkept : Traced T { w with registry := (w.registry.evict g).2 } := h
  unfold Coordinator.evict
  dsimp only
  split
  · exact hkept.note_plain t rfl
  · exact hkept

theorem Move.traced {ticket : Nat} {w w' : Coordinator σ} {task : Task} {p : Progress}
    (h : Move T ticket w task p w') (hw : Traced T w) : Traced T w' := by
  have looked : ∀ q, Traced T (w.lookUp T ticket q) := fun q => hw.note_shard _ rfl rfl
  have both : Traced T w.unsubscribeBoth := hw
  cases h with
  | left => exact hw.evict _ _
  | @anonymous q => exact looked q
  | @renew q => exact looked q
  | @«open» q => exact looked q
  | won met free => exact both.note_shard _ rfl rfl
  | lost met taken => exact (both.note_shard _ rfl rfl).note_plain _ rfl
  | fail fails => exact both.note_shard _ rfl rfl
  | @cleanedUp _ cause f =>
    cases hr : f.refusal with
    | none => exact hw.evict _ _
    | some e => exact (hw.evict _ _).note_plain _ rfl
  | _ => exact hw

theorem Moves.traced {ticket : Nat} {w w' : Coordinator σ} {task : Task} {p : Progress}
    (h : Moves T ticket w task p w') (hw : Traced T w) : Traced T w' := by
  induction h with
  | rest w task begun => exact hw
  | last move => exact move.traced hw
  | next move _ ih => exact ih (move.traced hw)

/-! ## What is recorded -/

/-- Every session is recorded with the shard of its guild, unless it comes from outside. -/
def Recorded (T : Transport σ) (acts : List (Act σ)) (w : Coordinator σ) : Prop :=
  ∀ s x, w.registry.record? s = some x →
    x.session.shard = shardOf x.session.guild T.shardCount ∨ .register x.session ∈ acts

variable {acts : List (Act σ)}

theorem Recorded.congr {w w' : Coordinator σ} (h : Recorded T acts w)
    (same : w'.registry = w.registry) : Recorded T acts w' := by
  unfold Recorded
  rw [same]
  exact h

theorem Recorded.tryRegister {w : Coordinator σ} (h : Recorded T acts w) {x : Session}
    (hx : x.shard = shardOf x.guild T.shardCount ∨ .register x ∈ acts) :
    Recorded T acts (w.tryRegister x).2 := by
  intro s y hy
  rcases Registry.of_record?_tryRegister hy with hold | ⟨-, -, rfl⟩
  · exact h s y hold
  · exact hx

theorem Recorded.evict {w : Coordinator σ} (h : Recorded T acts w) (t : Option Nat)
    (g : Snowflake) : Recorded T acts (w.evict t g).2 := by
  intro s y hy
  rw [evict_registry, Registry.record?_evict] at hy
  split at hy
  · obtain ⟨x, hx, rfl⟩ := Option.map_eq_some_iff.mp hy
    exact h s x hx
  · exact h s y hy

theorem Move.recorded {ticket : Nat} {w w' : Coordinator σ} {task : Task} {p : Progress}
    (h : Move T ticket w task p w') (hw : Recorded T acts w) : Recorded T acts w' := by
  cases h with
  | left => exact hw.evict _ _
  | @won q r deadline order e v met free =>
    have hconfirmed : Recorded T acts (w.confirm ticket (sessionOf T q r.selfId e v)) :=
      hw.congr rfl
    exact hconfirmed.tryRegister (x := sessionOf T q r.selfId e v) (Or.inl rfl)
  | @cleanedUp q cause f =>
    exact (hw.evict (some ticket) q.guild).congr
      ((finishFailure_registry w ticket q.guild cause f.refusal).trans
        (evict_registry w (some ticket) q.guild).symm)
  | _ => exact hw.congr rfl

theorem Moves.recorded {ticket : Nat} {w w' : Coordinator σ} {task : Task} {p : Progress}
    (h : Moves T ticket w task p w') (hw : Recorded T acts w) : Recorded T acts w' := by
  induction h with
  | rest w task begun => exact hw
  | last move => exact move.recorded hw
  | next move _ ih => exact ih (move.recorded hw)

/-! ## In a run -/

/-- Everything that the acts of a run have entered so far is entered for what was asked for,
at the shard of its guild. -/
structure Routed (T : Transport σ) (acts : List (Act σ)) (w : Coordinator σ) : Prop where
  asked : ∀ c ∈ w.calls, ∃ patience, .start c.ticket c.task.job patience ∈ acts
  handed : ∀ d ∈ w.dispatches, (∃ x u, d = entry T x d.ticket u) ∧
    ∃ job patience, .start d.ticket job patience ∈ acts ∧
      job.task.guild = d.command.update.guild
  traced : Traced T w
  recorded : Recorded T acts w

theorem routed_init (T : Transport σ) (acts : List (Act σ)) (line : σ) (identity : Identity)
    (bus : EventBus) : Routed T acts { line, identity, bus } :=
  ⟨fun _ h => absurd h List.not_mem_nil, fun _ h => absurd h List.not_mem_nil,
    fun _ h => absurd h List.not_mem_nil, fun _ _ h => absurd h (by simp [Registry.record?])⟩

theorem job_task (task : Task) : task.job.task.guild = task.guild := by
  cases task <;> rfl

/-- The commands of a call that moves. -/
theorem Routed.handed_moves {w w' : Coordinator σ} (hw : Routed T acts w) {c : Call}
    (found : w.call? c.ticket = some c) {p : Progress} (moves : Moves T c.ticket w c.task p w') :
    ∀ d ∈ w'.dispatches, (∃ x u, d = entry T x d.ticket u) ∧
      ∃ job patience, .start d.ticket job patience ∈ acts ∧
        job.task.guild = d.command.update.guild := by
  obtain ⟨l, hl, hsent⟩ := moves.handed
  intro d hd
  rw [hl] at hd
  rcases List.mem_append.mp hd with hold | hnew
  · exact hw.handed d hold
  · obtain ⟨x, u, hs, rfl⟩ := hsent d hnew
    obtain ⟨patience, hstart⟩ := hw.asked c (mem_calls_of_call? found)
    exact ⟨⟨x, u, rfl⟩, c.task.job, patience, hstart, (job_task c.task).trans hs.guild.symm⟩

theorem Routed.settle {w w' : Coordinator σ} (hw : Routed T acts w) {c : Call}
    (found : w.call? c.ticket = some c) (limit : Option Nat) {p : Progress}
    (moves : Moves T c.ticket w c.task p w') :
    Routed T acts (w'.settle { c with limit } p) := by
  have hhanded := hw.handed_moves found moves
  have htraced := moves.traced hw.traced
  have hrecorded := moves.recorded hw.recorded
  have hcalls := moves.calls.1
  cases p with
  | pending task =>
    refine ⟨fun c' hc' => ?_, hhanded, htraced, hrecorded⟩
    obtain ⟨y, hy, rfl⟩ := List.mem_map.mp hc'
    rw [hcalls] at hy
    split
    · obtain ⟨patience, hstart⟩ := hw.asked c (mem_calls_of_call? found)
      exact ⟨patience, moves.job ▸ hstart⟩
    · exact hw.asked y hy
  | ended o =>
    refine ⟨fun c' hc' => ?_, hhanded, htraced, hrecorded⟩
    have hmem : c' ∈ w'.calls := (List.mem_filter.mp hc').1
    rw [hcalls] at hmem
    exact hw.asked c' hmem

/-- No change enters another shard. -/
theorem Change.routed {a : Act σ} (ha : a ∈ acts) {w w' : Coordinator σ} (h : Change T a w w')
    (hw : Routed T acts w) : Routed T acts w' := by
  cases h with
  | @started _ ticket job patience unused =>
    refine ⟨fun c hc => ?_, hw.handed, hw.traced, hw.recorded⟩
    rcases List.mem_append.mp hc with hold | hnew
    · exact hw.asked c hold
    · rw [List.mem_singleton.mp hnew]
      have hjob : job.task.job = job := by cases job <;> rfl
      exact ⟨patience, hjob.symm ▸ ha⟩
  | ran limit act found moves => exact hw.settle found limit moves
  | @gaveUp _ _ c o act found outside =>
    rw [abandon_eq, withdraw_eq]
    exact ⟨fun c' hc' => hw.asked c' (List.mem_filter.mp hc').1, hw.handed, hw.traced,
      hw.recorded⟩
  | registered => exact ⟨hw.asked, hw.handed, hw.traced, hw.recorded.tryRegister (Or.inr ha)⟩
  | @evicted _ g =>
    refine ⟨?_, ?_, hw.traced.evict none g, hw.recorded.evict none g⟩
    · rw [(evict_calls w none g).1]
      exact hw.asked
    · rw [evict_dispatches]
      exact hw.handed
  | surroundings => exact ⟨hw.asked, hw.handed, hw.traced, hw.recorded⟩

theorem run_routed (T : Transport σ) (line : σ) (identity : Identity) (bus : EventBus)
    (acts : List (Act σ)) : Routed T acts (run T { line, identity, bus } acts) :=
  run_preserves (fun _ ha _ _ hc hw => hc.routed ha hw) (routed_init T acts line identity bus)

/-- Every run, with any number of shards, none included. The shard of a guild is its id
without the low 22 bits, modulo the number of shards in use, and is one of them. It is the
shard of every command that is handed over for the guild, whichever call it is for, so that
a leave goes where the join went; of every session that was not registered from outside; and
of every event of the trace that carries a shard. The loopback transport with this number of
shards accepts whatever it is handed in any run over it. -/
theorem shard_routing (T : Transport σ) (line : σ) (identity : Identity) (bus : EventBus)
    (acts : List (Act σ)) :
    let w := run T { line, identity, bus } acts
    let shards := max T.shardCount.toNat 1
    let place := fun g : Snowflake => (g.raw.toNat >>> 22) % shards
    (∀ g, place g < shards ∧ (shardOf g T.shardCount).toNat = place g) ∧
    (∀ u, (ShardCommand.route u T.shardCount).shard.toNat = place u.guild) ∧
    (∀ g g' : Snowflake, g.raw.toNat / 2 ^ 22 = g'.raw.toNat / 2 ^ 22 → place g = place g') ∧
    (∀ d ∈ w.dispatches, d.command.shard.toNat = place d.command.update.guild ∧
      ∃ job patience, .start d.ticket job patience ∈ acts ∧
        job.task.guild = d.command.update.guild) ∧
    (∀ d ∈ w.dispatches, ∀ d' ∈ w.dispatches,
      d.command.update.guild = d'.command.update.guild → d.command.shard = d'.command.shard) ∧
    (∀ s x, w.registry.record? s = some x → .register x.session ∉ acts →
      x.session.shard.toNat = place x.session.guild) ∧
    (∀ n ∈ w.notes, ∀ shard, n.event.shard? = some shard →
      ∃ g, n.event.guild? = some g ∧ shard.toNat = place g) ∧
    ∀ user assignsServers (first : Nat) identity bus (acts : List (Act Nat)),
      ∀ d ∈ (run (.loopback user T.shardCount assignsServers)
        { line := first, identity, bus } acts).dispatches, d.reply = .settled none := by
  intro w shards place
  have hw : Routed T acts w := run_routed T line identity bus acts
  have hplace : ∀ g, (shardOf g T.shardCount).toNat = place g :=
    fun g => toNat_shardOf g T.shardCount
  have hshard : ∀ d ∈ w.dispatches,
      d.command.shard = shardOf d.command.update.guild T.shardCount := by
    intro d hd
    obtain ⟨⟨x, u, he⟩, -⟩ := hw.handed d hd
    rw [he]
    rfl
  refine ⟨fun g => ⟨Nat.mod_lt _ (by omega), hplace g⟩, fun u => hplace u.guild,
    fun g g' same => ?_, fun d hd => ⟨?_, (hw.handed d hd).2⟩, fun d hd d' hd' same => ?_,
    fun s x hx inside => ?_, fun n hn shard hs => ?_, ?_⟩
  · rw [← hplace, ← hplace, shardOf_congr same]
  · rw [hshard d hd, hplace]
  · rw [hshard d hd, hshard d' hd', same]
  · rw [(hw.recorded s x hx).resolve_right inside, hplace]
  · obtain ⟨g, hg, rfl⟩ := hw.traced n hn shard hs
    exact ⟨g, hg, hplace g⟩
  · intro user assignsServers first identity bus acts d hd
    obtain ⟨⟨x, u, he⟩, -⟩ := (run_routed (.loopback user T.shardCount assignsServers) first
      identity bus acts).handed d hd
    rw [he]
    exact congrArg Prod.fst (Transport.loopback_accepts user T.shardCount assignsServers x.line u)

end Coordinator

end VoiceGateway
