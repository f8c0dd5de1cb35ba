import VoiceGateway.Proofs.Handshake.Course
import VoiceGateway.Transport.Scripted

/-!
# What a join sends

The stage of a join tells what has been sent and noted for it so far (`Owes`), and
how it has ended tells the same of all of it (`Paid`): one command that joins, and
one that leaves if the join has begun a session of its own, got its command through
and failed nevertheless. The failure that started a cleanup is the one that is
returned, whatever becomes of the leave, and the way of the join (`Trail`) leads back from
there to the stage at which it failed.

> `Trail.failedSince`: a join that is being cleaned up after has failed on its way.
> `join_ledger`: the commands of a join, by how it went.
-/

namespace VoiceGateway.Coordinator

variable {σ : Type} (T : Transport σ)

/-! ## Entries under a ticket -/

/-- The command that joins. -/
def joinCommand (q : JoinRequest) : ShardCommand := .route q.update T.shardCount

/-- The command that leaves after a failed join. -/
def leaveCommand (q : JoinRequest) : ShardCommand := .route (.leave q.guild) T.shardCount

/-- The event of a join's lookup. -/
def requested (q : JoinRequest) (found : Option SessionRef) : TraceEvent :=
  .joinRequested q.guild q.channel (shardOf q.guild T.shardCount) found.isSome

/-- The event of a failed handshake. -/
def failed (q : JoinRequest) (cause : JoinError) : TraceEvent :=
  .handshakeFailed q.guild (shardOf q.guild T.shardCount) cause.message

/-- For a join its command was sent, and nothing else; the answer is the refusal. -/
def SentJoin (ticket : Nat) (q : JoinRequest) (w : Coordinator σ)
    (refusal : Option TransportError) : Prop :=
  ∃ reply, w.dispatchesOf ticket = [⟨ticket, joinCommand T q, reply⟩] ∧ reply.refusal = refusal

/-- For a join its command was sent, which was accepted, and then a leave. -/
def SentLeave (ticket : Nat) (q : JoinRequest) (w : Coordinator σ) : Prop :=
  ∃ reply reply', reply.refusal = none ∧ w.dispatchesOf ticket =
    [⟨ticket, joinCommand T q, reply⟩, ⟨ticket, leaveCommand T q, reply'⟩]

/-- The failures of a join after which it is cleaned up. -/
def CleanupCause (q : JoinRequest) (cause : JoinError) : Prop :=
  cause = .timeout q.timeout ∨ cause = .missingSelfId ∨ ∃ stream, cause = .streamClosed stream

/-- What is entered for a pending join whose lookup has found, or is about to find,
the given session and own user id. -/
def Owes (ticket : Nat) (q : JoinRequest) (found : Option SessionRef) (me : Option Snowflake)
    (w : Coordinator σ) : JoinStage → Prop
  | .fresh => w.registry.get? q.guild = found ∧ w.identity.selfId = me ∧
      w.dispatchesOf ticket = [] ∧ w.notesOf ticket = []
  | .renewing selfId s _ f => found = some s ∧ me = some selfId ∧
      SentJoin T ticket q w f.refusal ∧ w.notesOf ticket = [requested T q found]
  | .awaitingEcho selfId s _ => found = some s ∧ me = some selfId ∧
      SentJoin T ticket q w none ∧ w.notesOf ticket = [requested T q found]
  | .opening _ _ f => found = none ∧
      SentJoin T ticket q w f.refusal ∧ w.notesOf ticket = [requested T q found]
  | .gathering _ _ => found = none ∧
      SentJoin T ticket q w none ∧ w.notesOf ticket = [requested T q found]
  | .leaving cause _ => found = none ∧ CleanupCause q cause ∧
      SentLeave T ticket q w ∧ w.notesOf ticket = [requested T q found, failed T q cause]

/-- What is entered for a join by the time it ends, by the ways in which it ends. -/
inductive Paid (ticket : Nat) (q : JoinRequest) (found : Option SessionRef)
    (me : Option Snowflake) (w : Coordinator σ) : Outcome → Prop
  | anonymous (hit : found ≠ none) (missing : me = none) (silent : w.dispatchesOf ticket = [])
      (noted : w.notesOf ticket = [requested T q found]) :
      Paid ticket q found me w (.joinFailed .missingSelfId)
  | refused {e : TransportError} (known : found ≠ none → me ≠ none)
      (sent : SentJoin T ticket q w (some e)) (noted : w.notesOf ticket = [requested T q found]) :
      Paid ticket q found me w (.joinFailed (.transport e))
  | unechoed (hit : found ≠ none) (known : me ≠ none) (sent : SentJoin T ticket q w none)
      (noted : w.notesOf ticket = [requested T q found]) :
      Paid ticket q found me w (.joinFailed (.streamClosed .state))
  | echoed {s : SessionRef} (hit : found = some s) (known : me ≠ none)
      (sent : SentJoin T ticket q w none) (noted : w.notesOf ticket = [requested T q found]) :
      Paid ticket q found me w (.joined s)
  | joined {s : SessionRef} (miss : found = none) (sent : SentJoin T ticket q w none) :
      Paid ticket q found me w (.joined s)
  | cleanedUp {cause : JoinError} (miss : found = none) (own : CleanupCause q cause)
      (sent : SentLeave T ticket q w) (noted : failed T q cause ∈ w.notesOf ticket)
      (free : w.registry.get? q.guild = none) : Paid ticket q found me w (.joinFailed cause)
  | givenUp {o : Outcome} (outside : o = .aborted ∨ o = .outOfPatience) : Paid ticket q found me w o

variable {T} {ticket : Nat} {q : JoinRequest} {found : Option SessionRef} {me : Option Snowflake}

theorem dispatchesOf_dispatch (w : Coordinator σ) (ticket : Nat) (u : VoiceUpdate) :
    (w.dispatch T ticket u).2.dispatchesOf ticket =
      w.dispatchesOf ticket ++ [⟨ticket, .route u T.shardCount, (w.dispatch T ticket u).1⟩] := by
  unfold dispatchesOf dispatch
  rw [List.filter_append]
  simp

theorem notesOf_sendLeave (w : Coordinator σ) (cause : JoinError) :
    (w.sendLeave T ticket q cause).2.notesOf ticket = w.notesOf ticket ++ [failed T q cause] :=
  notesOf_note w.unsubscribeBoth ticket _

theorem dispatchesOf_sendLeave (w : Coordinator σ) (cause : JoinError) :
    (w.sendLeave T ticket q cause).2.dispatchesOf ticket = w.dispatchesOf ticket ++
      [⟨ticket, leaveCommand T q, (w.sendLeave T ticket q cause).1⟩] :=
  dispatchesOf_dispatch _ ticket _

/-! ## Move by move -/

theorem Fails.cleanupCause {w : Coordinator σ} {stage : JoinStage} {cause : JoinError}
    (h : Fails w q stage cause) : CleanupCause q cause := by
  cases h with
  | selfIdMissing accepted missing => exact Or.inr (Or.inl rfl)
  | streamClosed closed => exact Or.inr (Or.inr ⟨_, rfl⟩)
  | expired late => exact Or.inl rfl

/-- A join that fails has not found a session and got its command accepted. -/
theorem Owes.of_fails {w : Coordinator σ} {stage : JoinStage} {cause : JoinError}
    (h : Owes T ticket q found me w stage) (fails : Fails w q stage cause) :
    found = none ∧ SentJoin T ticket q w none ∧ w.notesOf ticket = [requested T q found] := by
  cases fails with
  | selfIdMissing accepted missing => exact accepted ▸ h
  | streamClosed closed => exact h
  | expired late => exact h

/-- A pending join of the request has entered what its stage says. -/
def OwesTask (T : Transport σ) (ticket : Nat) (q : JoinRequest) (found : Option SessionRef)
    (me : Option Snowflake) (w : Coordinator σ) (task : Task) : Prop :=
  ∃ stage, task = .join q stage ∧ Owes T ticket q found me w stage

theorem Move.owes {w w' : Coordinator σ} {task task' : Task}
    (h : Move T ticket w task (.pending task') w') (hw : OwesTask T ticket q found me w task) :
    OwesTask T ticket q found me w' task' := by
  obtain ⟨stage, rfl, ho⟩ := hw
  cases h with
  | renew hit known =>
    obtain ⟨hf, hid, hd, hn⟩ := ho
    refine ⟨_, rfl, hf.symm.trans hit, hid.symm.trans known, ⟨_, ?_, rfl⟩, ?_⟩
    · unfold sendRenewal
      rw [dispatchesOf_dispatch]
      show w.dispatchesOf ticket ++ _ = _
      rw [hd]
      rfl
    · show (w.lookUp T ticket q).notesOf ticket = _
      unfold lookUp
      rw [notesOf_note, hn, hf]
      rfl
  | renewalAccepted accepted =>
    obtain ⟨hit, known, hs, hn⟩ := ho
    rw [accepted] at hs
    exact ⟨_, rfl, hit, known, hs, hn⟩
  | unechoed => exact ⟨_, rfl, ho⟩
  | «open» miss =>
    obtain ⟨hf, hid, hd, hn⟩ := ho
    refine ⟨_, rfl, hf.symm.trans miss, ⟨_, ?_, rfl⟩, ?_⟩
    · unfold sendOpening
      rw [dispatchesOf_dispatch]
      show w.dispatchesOf ticket ++ _ = _
      rw [hd]
      rfl
    · show (w.lookUp T ticket q).notesOf ticket = _
      unfold lookUp
      rw [notesOf_note, hn, hf]
      rfl
  | openingAccepted accepted known =>
    obtain ⟨miss, hs, hn⟩ := ho
    rw [accepted] at hs
    exact ⟨_, rfl, miss, hs, hn⟩
  | gather waits => exact ⟨_, rfl, ho⟩
  | @fail _ _ cause fails =>
    obtain ⟨miss, ⟨reply, hd, hr⟩, hn⟩ := ho.of_fails fails
    refine ⟨_, rfl, miss, fails.cleanupCause,
      ⟨reply, (w.sendLeave T ticket q cause).1, hr, ?_⟩, ?_⟩
    · rw [dispatchesOf_sendLeave, hd]
      rfl
    · rw [notesOf_sendLeave, hn]
      rfl

theorem Move.paid {w w' : Coordinator σ} {task : Task} {o : Outcome}
    (h : Move T ticket w task (.ended o) w') (hw : OwesTask T ticket q found me w task) :
    Paid T ticket q found me w' o := by
  obtain ⟨stage, rfl, ho⟩ := hw
  cases h with
  | anonymous hit missing =>
    obtain ⟨hf, hid, hd, hn⟩ := ho
    refine .anonymous ?_ (hid.symm.trans missing) hd ?_
    · rw [← hf, hit]
      simp
    · unfold lookUp
      rw [notesOf_note, hn, hf]
      rfl
  | renewalRefused refused =>
    obtain ⟨hit, known, hs, hn⟩ := ho
    rw [refused] at hs
    refine .refused (fun _ => ?_) hs hn
    rw [known]
    simp
  | echoed =>
    obtain ⟨hit, known, hs, hn⟩ := ho
    refine .echoed hit ?_ hs hn
    rw [known]
    simp
  | echoClosed =>
    obtain ⟨hit, known, hs, hn⟩ := ho
    refine .unechoed ?_ ?_ hs hn
    · rw [hit]
      simp
    · rw [known]
      simp
  | openingRefused refused =>
    obtain ⟨miss, hs, hn⟩ := ho
    rw [refused] at hs
    exact .refused (fun hit => absurd miss hit) hs hn
  | won met free =>
    obtain ⟨miss, hs, hn⟩ := ho
    exact .joined miss hs
  | lost met taken =>
    obtain ⟨miss, hs, hn⟩ := ho
    exact .joined miss hs
  | @cleanedUp _ cause f =>
    obtain ⟨miss, hc, ⟨reply, reply', hr, hd⟩, hn⟩ := ho
    refine .cleanedUp miss hc ⟨reply, reply', hr, ?_⟩ ?_ ?_
    · unfold dispatchesOf
      rw [finishFailure_dispatches]
      exact hd
    · have hg : Grows (fun _ => True) w (w.finishFailure ticket q.guild cause f.refusal).2 :=
        finishFailure_grows w trivial _ _ _
      refine hg.notesOf_subset ticket ?_
      rw [hn]
      exact List.mem_cons_of_mem _ (List.mem_singleton_self _)
    · rw [finishFailure_registry, Registry.get?_evict, if_pos rfl]

/-! ## In a run -/

/-- Nothing but the lookup of a join that has not been run depends on anything but
the entries under its ticket. -/
theorem Owes.congr {w w' : Coordinator σ} {stage : JoinStage}
    (hd : w'.dispatchesOf ticket = w.dispatchesOf ticket)
    (hn : w'.notesOf ticket = w.notesOf ticket)
    (fresh : stage = .fresh → w'.registry = w.registry ∧ w'.identity = w.identity)
    (h : Owes T ticket q found me w stage) : Owes T ticket q found me w' stage := by
  unfold Owes SentJoin SentLeave at h ⊢
  rw [hd, hn]
  cases stage with
  | fresh =>
    obtain ⟨hr, hi⟩ := fresh rfl
    rw [hr, hi]
    exact h
  | _ => exact h

theorem Paid.congr {w w' : Coordinator σ} {o : Outcome}
    (hd : w'.dispatchesOf ticket = w.dispatchesOf ticket)
    (hn : w'.notesOf ticket = w.notesOf ticket) (hr : w'.registry = w.registry)
    (h : Paid T ticket q found me w o) : Paid T ticket q found me w' o := by
  have hjoin : ∀ r, SentJoin T ticket q w r → SentJoin T ticket q w' r := by
    rintro r ⟨reply, hs, he⟩
    exact ⟨reply, hd.trans hs, he⟩
  cases h with
  | anonymous hit missing silent noted =>
    exact .anonymous hit missing (hd.trans silent) (hn.trans noted)
  | refused known sent noted => exact .refused known (hjoin _ sent) (hn.trans noted)
  | unechoed hit known sent noted => exact .unechoed hit known (hjoin _ sent) (hn.trans noted)
  | echoed hit known sent noted => exact .echoed hit known (hjoin _ sent) (hn.trans noted)
  | joined miss sent => exact .joined miss (hjoin _ sent)
  | cleanedUp miss own sent noted free =>
    obtain ⟨reply, reply', he, hs⟩ := sent
    exact .cleanedUp miss own ⟨reply, reply', he, hd.trans hs⟩ (hn ▸ noted) (hr ▸ free)
  | givenUp outside => exact .givenUp outside

theorem owes_carried :
    Carried T ticket (OwesTask T ticket q found me) (Paid T ticket q found me) where
  keeps := Move.owes
  leaves := Move.paid
  quits outside _ := .givenUp outside
  settled := by
    rintro w c task ⟨stage, rfl, ho⟩
    exact ⟨stage, rfl, ho.congr rfl rfl fun _ => ⟨rfl, rfl⟩⟩
  answered := by
    intro w c o h
    exact Paid.congr (w := w) rfl rfl rfl h

/-- Once it has been run, a pending join has entered what its stage says. -/
def Begun (T : Transport σ) (ticket : Nat) (q : JoinRequest) (found : Option SessionRef)
    (me : Option Snowflake) (w : Coordinator σ) (task : Task) : Prop :=
  task.begun = true ∧ OwesTask T ticket q found me w task

theorem begun_untouched :
    Untouched ticket (Begun T ticket q found me) (fun (_ : Coordinator σ) _ => True) where
  pending := by
    rintro w w' task h ⟨hb, stage, rfl, ho⟩
    refine ⟨hb, stage, rfl, ho.congr h.dispatches h.notes fun hs => ?_⟩
    rw [hs] at hb
    exact absurd hb (by simp [Task.begun])
  finished _ _ := trivial

/-! ## The move that failed -/

/-- The way of a call since it was at a task: moves of its own, and between them what is
done aside. -/
inductive Trail (T : Transport σ) (ticket : Nat) (u : Coordinator σ) (first : Task) :
    Coordinator σ → Task → Prop
  | start : Trail T ticket u first u first
  | move {w w' : Coordinator σ} {task task' : Task} (trail : Trail T ticket u first w task)
      (move : Move T ticket w task (.pending task') w') : Trail T ticket u first w' task'
  | aside {w w' : Coordinator σ} {task : Task} (trail : Trail T ticket u first w task)
      (others : Aside ticket w w') : Trail T ticket u first w' task

/-- On its way since it was about to be run a join has come to a stage at which it failed,
and what was done next for it was to note the failure and to send the leave. -/
def FailedSince (T : Transport σ) (ticket : Nat) (q : JoinRequest) (cause : JoinError)
    (u w : Coordinator σ) : Prop :=
  ∃ x stage, Trail T ticket u (.join q .fresh) x (.join q stage) ∧ Fails x q stage cause ∧
    Grows (fun _ => True) (x.sendLeave T ticket q cause).2 w

variable {u : Coordinator σ}

theorem FailedSince.later {w w' : Coordinator σ} {cause : JoinError}
    (h : FailedSince T ticket q cause u w) (grown : Grows (fun _ => True) w w') :
    FailedSince T ticket q cause u w' := by
  obtain ⟨x, stage, trail, fails, since⟩ := h
  exact ⟨x, stage, trail, fails, grows_trans since grown⟩

/-- There is one move that begins a cleanup. -/
theorem Trail.failedSince {w : Coordinator σ} {task : Task} {cause : JoinError} {f : InFlight}
    (h : Trail T ticket u (.join q .fresh) w task) (leaving : task = .join q (.leaving cause f)) :
    FailedSince T ticket q cause u w := by
  induction h with
  | start => exact absurd leaving (by simp)
  | move trail move ih =>
    subst leaving
    cases move with
    | fail fails => exact ⟨_, _, trail, fails, grows_refl _⟩
  | aside trail others ih => exact (ih leaving).later others.grows

/-- A pending join of the request owes what its stage says, and has come there on its way
since `u`. -/
def OnTrail (T : Transport σ) (ticket : Nat) (q : JoinRequest) (found : Option SessionRef)
    (me : Option Snowflake) (u w : Coordinator σ) (task : Task) : Prop :=
  OwesTask T ticket q found me w task ∧ Trail T ticket u (.join q .fresh) w task

/-- If a join that has found no session ends with a failure after which one is cleaned up,
it has failed so on its way. -/
def Explained (T : Transport σ) (ticket : Nat) (q : JoinRequest) (found : Option SessionRef)
    (u w : Coordinator σ) (o : Outcome) : Prop :=
  ∀ cause, o = .joinFailed cause → found = none → CleanupCause q cause →
    FailedSince T ticket q cause u w

theorem Move.explained {w w' : Coordinator σ} {task : Task} {o : Outcome}
    (h : Move T ticket w task (.ended o) w') (hw : OnTrail T ticket q found me u w task) :
    Explained T ticket q found u w' o := by
  obtain ⟨⟨stage, rfl, ho⟩, trail⟩ := hw
  intro cause he miss own
  cases h with
  | anonymous hit missing => exact absurd (ho.1.symm.trans hit) (by simp [miss])
  | renewalRefused refused => exact absurd (ho.1.symm.trans miss) (by simp)
  | echoClosed => exact absurd (ho.1.symm.trans miss) (by simp)
  | openingRefused refused =>
    injection he with he
    subst he
    exact absurd own (by simp [CleanupCause])
  | @cleanedUp _ cause' f =>
    injection he with he
    subst he
    exact (trail.failedSince rfl).later (finishFailure_grows w trivial _ _ _)
  | _ => exact absurd he (by simp)

theorem onTrail_carried :
    Carried T ticket (OnTrail T ticket q found me u) (Explained T ticket q found u) where
  keeps move hw := ⟨move.owes hw.1, hw.2.move move⟩
  leaves := Move.explained
  quits outside _ := by
    rintro cause rfl
    exact absurd outside (by simp)
  settled hw := ⟨owes_carried.settled hw.1, hw.2.aside (settle_aside _ _ _)⟩
  answered h cause he miss own := (h cause he miss own).later (settle_grows _ trivial _)

theorem onTrail_untouched :
    Untouched ticket (fun w task => task.begun = true ∧ OnTrail T ticket q found me u w task)
      (fun (_ : Coordinator σ) _ => True) where
  pending := by
    rintro w w' task h ⟨begun, owes, trail⟩
    obtain ⟨-, owes'⟩ := begun_untouched.pending h ⟨begun, owes⟩
    exact ⟨begun, owes', trail.aside h⟩
  finished _ _ := trivial

/-! ## What an outcome says of the commands -/

/-- The commands that were sent for a call. -/
def commandsOf (w : Coordinator σ) (ticket : Nat) : List ShardCommand :=
  (w.dispatchesOf ticket).map (·.command)

/-- The refusal of the first command that was sent for a call, if it was refused. -/
def refusalOf (w : Coordinator σ) (ticket : Nat) : Option TransportError :=
  (w.dispatchesOf ticket).head?.bind (·.reply.refusal)

theorem SentJoin.commands {w : Coordinator σ} {refusal : Option TransportError}
    (h : SentJoin T ticket q w refusal) : w.commandsOf ticket = [joinCommand T q] := by
  obtain ⟨reply, hd, -⟩ := h
  unfold commandsOf
  rw [hd]
  rfl

theorem SentJoin.refusalOf {w : Coordinator σ} {refusal : Option TransportError}
    (h : SentJoin T ticket q w refusal) : w.refusalOf ticket = refusal := by
  obtain ⟨reply, hd, hr⟩ := h
  unfold Coordinator.refusalOf
  rw [hd]
  exact hr

theorem SentLeave.commands {w : Coordinator σ} (h : SentLeave T ticket q w) :
    w.commandsOf ticket = [joinCommand T q, leaveCommand T q] := by
  obtain ⟨reply, reply', -, hd⟩ := h
  unfold commandsOf
  rw [hd]
  rfl

theorem SentLeave.refusalOf {w : Coordinator σ} (h : SentLeave T ticket q w) :
    w.refusalOf ticket = none := by
  obtain ⟨reply, reply', hr, hd⟩ := h
  unfold Coordinator.refusalOf
  rw [hd]
  exact hr

/-- Whether a leave was sent is a matter of how the join has ended. -/
theorem Paid.leaves_iff {z : Coordinator σ} {o : Outcome} (h : Paid T ticket q found me z o)
    (kept : o ≠ .aborted ∧ o ≠ .outOfPatience) :
    z.commandsOf ticket = [joinCommand T q, leaveCommand T q] ↔
      found = none ∧ z.refusalOf ticket = none ∧ ∃ cause, o = .joinFailed cause := by
  cases h with
  | anonymous hit missing silent noted => simp [commandsOf, silent, hit]
  | refused known sent noted => simp [sent.commands, sent.refusalOf]
  | unechoed hit known sent noted => simp [sent.commands, hit]
  | echoed hit known sent noted => simp [sent.commands]
  | joined miss sent => simp [sent.commands]
  | cleanedUp miss own sent noted free => simp [sent.commands, sent.refusalOf, miss]
  | givenUp outside => exact absurd outside (by simp [kept])

/-- A join that has found a session sends its command if it knows itself, answers with
that session or not at all, and does nothing else. -/
theorem Paid.of_hit {z : Coordinator σ} {o : Outcome} (h : Paid T ticket q found me z o)
    (kept : o ≠ .aborted ∧ o ≠ .outOfPatience) (hit : found ≠ none) :
    (me = none → z.commandsOf ticket = [] ∧ o = .joinFailed .missingSelfId) ∧
      (me ≠ none → z.commandsOf ticket = [joinCommand T q]) ∧
      (∀ s, o = .joined s → found = some s) ∧ z.notesOf ticket = [requested T q found] := by
  cases h with
  | anonymous _ missing silent noted => simp [commandsOf, silent, missing, noted]
  | refused known sent noted => simp [sent.commands, known hit, noted]
  | unechoed _ known sent noted => simp [sent.commands, known, noted]
  | echoed found known sent noted => simp [sent.commands, known, noted, found]
  | joined miss sent => exact absurd miss hit
  | cleanedUp miss own sent noted free => exact absurd miss hit
  | givenUp outside => exact absurd outside (by simp [kept])

/-- A refused command is the failure itself. -/
theorem Paid.of_refused {z : Coordinator σ} {o : Outcome} (h : Paid T ticket q found me z o)
    (kept : o ≠ .aborted ∧ o ≠ .outOfPatience) {e : TransportError}
    (refused : z.refusalOf ticket = some e) :
    z.commandsOf ticket = [joinCommand T q] ∧ o = .joinFailed (.transport e) ∧
      z.notesOf ticket = [requested T q found] := by
  cases h with
  | anonymous hit missing silent noted => exact absurd refused (by simp [refusalOf, silent])
  | refused known sent noted =>
    have he := sent.refusalOf.symm.trans refused
    injection he with he
    exact ⟨sent.commands, he ▸ rfl, noted⟩
  | unechoed hit known sent noted => exact absurd (sent.refusalOf.symm.trans refused) (by simp)
  | echoed hit known sent noted => exact absurd (sent.refusalOf.symm.trans refused) (by simp)
  | joined miss sent => exact absurd (sent.refusalOf.symm.trans refused) (by simp)
  | cleanedUp miss own sent noted free =>
    exact absurd (sent.refusalOf.symm.trans refused) (by simp)
  | givenUp outside => exact absurd outside (by simp [kept])

/-- A handshake that has failed was cleaned up after. -/
theorem Paid.of_failed {z : Coordinator σ} {cause : JoinError}
    (h : Paid T ticket q found me z (.joinFailed cause)) (miss : found = none)
    (accepted : z.refusalOf ticket = none) :
    CleanupCause q cause ∧ failed T q cause ∈ z.notesOf ticket ∧
      z.registry.get? q.guild = none := by
  cases h with
  | anonymous hit missing silent noted => exact absurd miss hit
  | refused known sent noted => exact absurd (sent.refusalOf.symm.trans accepted) (by simp)
  | unechoed hit known sent noted => exact absurd miss hit
  | cleanedUp _ own sent noted free => exact ⟨own, noted, free⟩
  | givenUp outside => exact absurd outside (by simp)

/-! ## From the first run to the return -/

/-- Before its first run a join owes what the lookup of that run will say. -/
theorem Reachable.owesTask {u : Coordinator σ} (hu : Reachable T u) {c : Call}
    (call : u.call? ticket = some c) (fresh : c.task = .join q .fresh) :
    OwesTask T ticket q (u.registry.get? q.guild) u.identity.selfId u c.task := by
  have hs : u.Silent ticket := hu.silent call (by rw [fresh]; rfl)
  exact ⟨.fresh, fresh, rfl, rfl, hs.1, hs.2⟩

theorem Reachable.owes {u : Coordinator σ} (hu : Reachable T u) {c : Call}
    (call : u.call? ticket = some c) (fresh : c.task = .join q .fresh) :
    Course ticket (OwesTask T ticket q (u.registry.get? q.guild) u.identity.selfId)
      (Paid T ticket q (u.registry.get? q.guild) u.identity.selfId) u :=
  .pending call (hu.owesTask call fresh)

/-- From the first run of a join to its return: at the return the entries are those of
its outcome. -/
theorem paid_of_return {u : Coordinator σ} (hu : Reachable T u) {c : Call}
    (call : u.call? ticket = some c) (fresh : c.task = .join q .fresh) {acts : List (Act σ)}
    {first last : Act σ} (head : (acts ++ [last]).head? = some first)
    (looksUp : first.runs ticket) (waiting : (u.run T acts).outcome? ticket = none) {o : Outcome}
    (returns : (u.run T (acts ++ [last])).outcome? ticket = some o) :
    Paid T ticket q (u.registry.get? q.guild) u.identity.selfId (u.run T (acts ++ [last])) o :=
  course_of_return owes_carried begun_untouched hu.tidy (hu.owes call fresh) head looksUp waiting
    returns

/-- Such a join that has found no session and fails with a cause after which it is cleaned
up has failed for that cause on its way. -/
theorem failedSince_of_return {u : Coordinator σ} (hu : Reachable T u) {c : Call}
    (call : u.call? ticket = some c) (fresh : c.task = .join q .fresh) {acts : List (Act σ)}
    {first last : Act σ} (head : (acts ++ [last]).head? = some first)
    (looksUp : first.runs ticket) (waiting : (u.run T acts).outcome? ticket = none)
    {cause : JoinError}
    (returns : (u.run T (acts ++ [last])).outcome? ticket = some (.joinFailed cause))
    (miss : u.registry.get? q.guild = none) (own : CleanupCause q cause) :
    FailedSince T ticket q cause u (u.run T (acts ++ [last])) := by
  have hcourse : Course ticket
      (OnTrail T ticket q (u.registry.get? q.guild) u.identity.selfId u)
      (Explained T ticket q (u.registry.get? q.guild) u) u :=
    .pending call ⟨hu.owesTask call fresh, fresh ▸ .start⟩
  exact course_of_return onTrail_carried onTrail_untouched hu.tidy hcourse head looksUp waiting
    returns cause rfl miss own

/-- What was sent for a join by the time it returns, from its first run on, unless its
caller has given it up. If it has found a session: nothing where it does not know
itself, and else the one command that joins; it can be joined to that session only. If
it has not: that command, and a leave on the same shard exactly if the command was
accepted and the join has failed; then the failure is the one that the handshake has met
with (`Fails`): the join has come to a stage at which it did not know itself, or a stream
had ended, or its deadline had passed. This was noted before the leave was sent, and the
guild has no session. A refused command is the failure itself, and then the join has done
no more than to look up. Nothing is sent once it has returned. -/
theorem join_ledger {u : Coordinator σ} (hu : Reachable T u) {c : Call}
    (call : u.call? ticket = some c) (fresh : c.task = .join q .fresh) {acts : List (Act σ)}
    {first last : Act σ} (head : (acts ++ [last]).head? = some first)
    (looksUp : first.runs ticket) (waiting : (u.run T acts).outcome? ticket = none) {o : Outcome}
    (returns : (u.run T (acts ++ [last])).outcome? ticket = some o)
    (kept : o ≠ .aborted ∧ o ≠ .outOfPatience) :
    let z := u.run T (acts ++ [last])
    let found := u.registry.get? q.guild
    let join := joinCommand T q
    let leave := leaveCommand T q
    (found ≠ none →
      (u.identity.selfId = none → z.commandsOf ticket = [] ∧ o = .joinFailed .missingSelfId) ∧
      (u.identity.selfId ≠ none → z.commandsOf ticket = [join]) ∧
      (∀ s, o = .joined s → found = some s) ∧ z.notesOf ticket = [requested T q found]) ∧
    (∀ e, z.refusalOf ticket = some e → z.commandsOf ticket = [join] ∧
      o = .joinFailed (.transport e) ∧ z.notesOf ticket = [requested T q found]) ∧
    (∀ s, o = .joined s → z.commandsOf ticket = [join]) ∧
    (z.commandsOf ticket = [join, leave] ↔
      found = none ∧ z.refusalOf ticket = none ∧ ∃ cause, o = .joinFailed cause) ∧
    (∀ cause, o = .joinFailed cause → found = none → z.refusalOf ticket = none →
      FailedSince T ticket q cause u z ∧ failed T q cause ∈ z.notesOf ticket ∧
        z.registry.get? q.guild = none) ∧
    (join.update = q.update ∧ leave.update = ⟨q.guild, none, false, false⟩ ∧
      leave.shard = join.shard) ∧
    ∀ more, (z.run T more).dispatchesOf ticket = z.dispatchesOf ticket := by
  intro z found join leave
  have hp := paid_of_return hu call fresh head looksUp waiting returns
  have htidy := (hu.run (acts ++ [last])).tidy
  refine ⟨hp.of_hit kept, fun e he => hp.of_refused kept he, ?_, hp.leaves_iff kept, ?_,
    ⟨rfl, rfl, rfl⟩, fun more => (run_of_outcome htidy returns more).2.1⟩
  · rintro s rfl
    cases hp with
    | echoed hit known sent noted => exact sent.commands
    | joined miss sent => exact sent.commands
    | givenUp outside => exact absurd outside (by simp)
  · rintro cause rfl miss accepted
    obtain ⟨own, noted, free⟩ := hp.of_failed miss accepted
    exact ⟨failedSince_of_return hu call fresh head looksUp waiting returns miss own, noted, free⟩

/-- A join that times out where leaves are refused: both commands, and the timeout is
what is returned. -/
theorem join_ledger_of_refused_leave :
    let T := Transport.scripted 4
    let q : JoinRequest := ⟨⟨1⟩, ⟨2⟩, false, false, .ofSecs 5⟩
    let u : Coordinator LineMode :=
      run T { line := .refusesLeaves, identity := .fixed (some ⟨7⟩) } [.start 0 (.join q) none]
    let z := u.run T ([.poll 0 statesFirst, .advance q.timeout.nanos] ++ [.expire 0 statesFirst])
    z.outcome? 0 = some (.joinFailed (.timeout q.timeout)) ∧
      z.commandsOf 0 = [joinCommand T q, leaveCommand T q] ∧
      z.registry.get? q.guild = none := by
  intro T q u z
  have hz : z.outcome? 0 = some (.joinFailed (.timeout q.timeout)) := by decide
  have hu : Reachable T u := ⟨_, _, _, _, rfl⟩
  have call : u.call? 0 = some ⟨0, .join q .fresh, none, none⟩ := by decide
  have looksUp : (Act.poll 0 statesFirst : Act LineMode).runs 0 := rfl
  have h := join_ledger hu call rfl rfl looksUp (by decide) hz (by decide)
  exact ⟨hz, h.2.2.2.1.mpr ⟨by decide, by decide, _, rfl⟩,
    (h.2.2.2.2.1 _ rfl (by decide) (by decide)).2.2⟩

end VoiceGateway.Coordinator
