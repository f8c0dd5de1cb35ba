import VoiceGateway.Proofs.Handshake.Course

/-!
# The life of a session

Sessions come from the registry alone: from a lookup, from a registration, or from
a join that has found one or registered one. A session that loses a race is handed
to nobody. So whoever holds a session holds one that has a record, and the record
says connected for exactly as long as the guild has that session.

> `session_lifecycle`: after every run, of all sessions that were handed out.
-/

namespace VoiceGateway

/-- The session that a join has found and will answer with. -/
def Task.session? : Task → Option SessionRef
  | .join _ (.renewing _ s _ _) | .join _ (.awaitingEcho _ s _) => some s
  | _ => none

namespace Coordinator

variable {σ : Type} {T : Transport σ}

theorem Reachable.lawful {w : Coordinator σ} (h : Reachable T w) : w.registry.Lawful :=
  h.induct (fun _ _ _ => Registry.lawful_empty) fun hc hw => hc.grows.registry.lawful hw

/-! ## Sessions that calls hold -/

/-- The session that a pending call holds is one of its guild. -/
def Held (w : Coordinator σ) (task : Task) : Prop :=
  w.registry.Lawful ∧ ∀ s, task.session? = some s → w.registry.Knows task.guild s

/-- The session that a call has ended with was registered at some time. -/
def Answered (w : Coordinator σ) (o : Outcome) : Prop :=
  ∀ s, o = .joined s → ∃ g, w.registry.Knows g s

theorem Move.held {ticket : Nat} {w w' : Coordinator σ} {task task' : Task}
    (h : Move T ticket w task (.pending task') w') (hw : w.Held task) : w'.Held task' := by
  have hg : Grows (fun _ => True) w w' := h.grows trivial
  refine ⟨hg.registry.lawful hw.1, fun s hs => ?_⟩
  cases h with
  | renew hit known =>
    injection hs with hs
    exact hw.1.knows (hs ▸ hit)
  | renewalAccepted accepted => exact hw.2 s hs
  | unechoed => exact hw.2 s hs
  | _ => exact absurd hs (by simp [Task.session?])

/-- The session that a join has ended with is one of its guild. -/
theorem Move.answers {ticket : Nat} {w w' : Coordinator σ} {task : Task} {o : Outcome}
    (h : Move T ticket w task (.ended o) w') (hw : w.Held task) {s : SessionRef}
    (hs : o = .joined s) : w'.registry.Knows task.guild s := by
  cases h with
  | echoed =>
    injection hs with hs
    exact hw.2 s (congrArg some hs)
  | @won q r _ _ e v met free =>
    injection hs with hs
    exact hs ▸ Registry.knows_nextRef (x := sessionOf T q r.selfId e v) free
  | lost met taken =>
    injection hs with hs
    exact hw.1.knows (hs ▸ taken)
  | @left _ f =>
    unfold leaveOutcome at hs
    split at hs <;> exact absurd hs (by simp)
  | _ => exact absurd hs (by simp)

theorem Move.answered {ticket : Nat} {w w' : Coordinator σ} {task : Task} {o : Outcome}
    (h : Move T ticket w task (.ended o) w') (hw : w.Held task) : w'.Answered o :=
  fun _ hs => ⟨_, h.answers hw hs⟩

theorem held_untouched (ticket : Nat) : Untouched ticket (Held (σ := σ)) Answered where
  pending h hw :=
    ⟨h.grows.registry.lawful hw.1, fun s hs => h.grows.registry.knows (hw.2 s hs)⟩
  finished h hw s hs := by
    obtain ⟨g, hk⟩ := hw s hs
    exact ⟨g, h.grows.registry.knows hk⟩

theorem held_carried (ticket : Nat) : Carried T ticket Held Answered := by
  refine (held_untouched ticket).carried Move.held Move.answered ?_
  rintro w task o (rfl | rfl) - s hs
  · exact absurd hs (by simp)
  · exact absurd hs (by simp)

/-- What a call has ended with was registered at some time. -/
theorem Reachable.answered {w : Coordinator σ} (h : Reachable T w) {ticket : Nat} {o : Outcome}
    (ho : w.outcome? ticket = some o) : w.Answered o := by
  have ht := h.tidy
  obtain ⟨line, identity, bus, acts, rfl⟩ := h
  have starts : ∀ {w : Coordinator σ} (job : Job), w.registry.Lawful → w.Held job.task := by
    intro w job hl
    refine ⟨hl, fun s hs => ?_⟩
    cases job <;> exact absurd hs (by simp [Job.task, Task.session?])
  have hw : Followed ticket (fun w => w.registry.Lawful) Held Answered
      (Coordinator.run T { line, identity, bus } acts) :=
    run_followed (held_carried ticket) (held_untouched ticket)
      (fun hc _ hl => hc.grows.registry.lawful hl) starts (tidy_init line identity bus)
      (Or.inl ⟨rfl, Registry.lawful_empty⟩) acts
  exact hw.of_outcome ht ho

/-! ## Sessions that were handed out -/

variable (T) in
/-- The sessions that were handed to somebody in the course of a run: by a lookup
at any time, as the answer to a registration from outside, or as that of a join. -/
inductive HandedOut (w : Coordinator σ) : List (Act σ) → SessionRef → Prop
  | found {acts : List (Act σ)} {g : Snowflake} {s : SessionRef}
      (hit : (w.run T acts).registry.get? g = some s) : HandedOut w acts s
  | registered {acts : List (Act σ)} {x : Session} :
      HandedOut w (acts ++ [.register x]) ((w.run T acts).tryRegister x).1.holder
  | joined {acts : List (Act σ)} {ticket : Nat} {s : SessionRef}
      (answer : (w.run T acts).outcome? ticket = some (.joined s)) : HandedOut w acts s
  | earlier {acts : List (Act σ)} {a : Act σ} {s : SessionRef} (before : HandedOut w acts s) :
      HandedOut w (acts ++ [a]) s

/-- What was handed out was registered at some time: a session that has lost a race
is handed to nobody. -/
theorem HandedOut.knows {w : Coordinator σ} (h : Reachable T w) {acts : List (Act σ)}
    {s : SessionRef} (hs : HandedOut T w acts s) : ∃ g, (w.run T acts).registry.Knows g s := by
  induction hs with
  | found hit => exact ⟨_, (h.run _).lawful.knows hit⟩
  | @registered acts x =>
    rw [run_concat]
    exact ⟨_, (h.run acts).lawful.knows_holder x⟩
  | joined answer => exact (h.run _).answered answer _ rfl
  | @earlier acts a _ _ ih =>
    obtain ⟨g, hk⟩ := ih
    rw [run_concat]
    exact ⟨g, (step_grows _ a).registry.knows hk⟩

/-- After every run from the beginning: what a guild has is a session of its own,
and no two connected sessions are of one guild; a session that was handed out is
connected exactly while its guild has it; a disconnected session stays so, with
its facts, and no guild ever has it again; and the list shows each guild that has
a session once, with that session, connected. -/
theorem session_lifecycle (line : σ) (identity : Identity) (bus : EventBus)
    (acts : List (Act σ)) :
    let init : Coordinator σ := { line, identity, bus }
    let w := init.run T acts
    (∀ g s, w.registry.get? g = some s → w.registry.Knows g s) ∧
    (∀ s s' x x', w.registry.record? s = some x → w.registry.record? s' = some x' →
      x.state = .connected → x'.state = .connected → x.session.guild = x'.session.guild →
      s = s') ∧
    (∀ s, HandedOut T init acts s → ∃ x, w.registry.record? s = some x ∧
      (x.state = .connected ↔ w.registry.get? x.session.guild = some s)) ∧
    (∀ s x, w.registry.record? s = some x → x.state = .disconnected → ∀ more,
      (w.run T more).registry.record? s = some x ∧
        ∀ g, (w.run T more).registry.get? g ≠ some s) ∧
    (w.registry.list.map (·.guild)).Nodup ∧
    (∀ g, g ∈ w.registry.list.map (·.guild) ↔ (w.registry.get? g).isSome) ∧
    ∀ i ∈ w.registry.list, i.state = .connected ∧
      ∃ s, w.registry.get? i.guild = some s ∧ w.registry.info? s = some i := by
  intro init w
  have hr : Reachable T w := ⟨line, identity, bus, acts, rfl⟩
  have hl := hr.lawful
  refine ⟨fun g s hs => hl.knows hs, ?_, ?_, ?_, ?_, ?_, fun i hi => hl.of_mem_list hi⟩
  · intro s s' x x' hx hx' hc hc' hg
    have hs := hl.held s x hx hc
    rw [hg, hl.held s' x' hx' hc'] at hs
    exact (Option.some.inj hs).symm
  · intro s hs
    obtain ⟨g, x, hx, -⟩ := hs.knows ⟨line, identity, bus, [], rfl⟩
    exact ⟨x, hx, hl.connected_iff hx⟩
  · intro s x hx hd more
    have hx' : (w.run T more).registry.record? s = some x := by
      obtain ⟨session, state⟩ := x
      have he : state = .disconnected := hd
      subst he
      exact (run_grows w more).registry.disconnected hx
    exact ⟨hx', (hr.run more).lawful.not_registered hx' hd⟩
  · exact hl.list_guilds.nodup_iff.mpr w.registry.byGuild.nodup
  · intro g
    rw [hl.list_guilds.mem_iff, Option.isSome_iff_exists]
    constructor
    · intro hm
      obtain ⟨⟨g', s⟩, he, rfl⟩ := List.mem_map.mp hm
      exact ⟨s, (Directory.find?_eq_some_iff _ _ _).mpr he⟩
    · rintro ⟨s, hs⟩
      exact List.mem_map.mpr ⟨(g, s), (Directory.find?_eq_some_iff _ _ _).mp hs, rfl⟩

end Coordinator

end VoiceGateway
