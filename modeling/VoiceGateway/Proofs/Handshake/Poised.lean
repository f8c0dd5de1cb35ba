import VoiceGateway.Proofs.Handshake.Pursuit

/-!
# The next run of a join

Once the acceptance of its command is there, or it gathers already, the next run of a
join goes on with a rendezvous (`Poised`), and what there is at that time decides how it
goes on: by both matches, for a stream that has ended, or for its deadline.

> `Poised.joins`: if both matches are there it joins.
> `Poised.misses`: if a stream has ended without its match it fails for such a stream.
> `Poised.expires`: if neither, and its deadline has passed, it fails for that.
> `poised_of_accepted`: it is after the events since its first run.
-/

namespace VoiceGateway.Coordinator

variable {σ : Type} {T : Transport σ} {ticket : Nat} {q : JoinRequest} {k : Sought}
  {deadline : Nat}

/-! ## The next run -/

/-- A join whose next run goes on with a rendezvous: that of its stage, or the one that
it begins with when it takes up the acceptance of its command. -/
structure Poised (T : Transport σ) (ticket : Nat) (q : JoinRequest) (k : Sought)
    (deadline : Nat) (w w' : Coordinator σ) (c : Call) (r : Rendezvous) : Prop where
  found : w.call? ticket = some c
  goesOn : ∀ order, w.runTask T ticket order c.task = w'.gather T ticket order q r deadline
  faithful : k.Faithful w'.bus r
  reach : r.InReach w'.bus
  grows : Grows (fun _ => True) w w'
  calls : w'.calls = w.calls
  outcomes : w'.outcomes = w.outcomes

theorem poised_of_gathering {w : Coordinator σ} {c : Call} {r : Rendezvous}
    (found : w.call? ticket = some c) (gathering : c.task = .join q (.gathering r deadline))
    (faithful : k.Faithful w.bus r) (abreast : w.Abreast ticket) :
    Poised T ticket q k deadline w w c r := by
  have hreach : c.task.InReach w.bus := abreast c found
  rw [gathering] at hreach
  exact ⟨found, fun order => by rw [gathering]; rfl, faithful, hreach, grows_refl w, rfl, rfl⟩

variable {w w' : Coordinator σ} {c : Call} {r : Rendezvous}

/-- What the next run makes of the call is entered. -/
theorem Poised.course {P : Coordinator σ → Task → Prop} {Q : Coordinator σ → Outcome → Prop}
    (h : Poised T ticket q k deadline w w' c r) (carried : Carried T ticket P Q)
    (tidy : w.Tidy) {order : TurnOrder} (hp : (w'.gather T ticket order q r deadline).1.Meets
      (P (w'.gather T ticket order q r deadline).2)
      (Q (w'.gather T ticket order q r deadline).2)) :
    Course ticket P Q (w.poll T order ticket) := by
  obtain ⟨limit, he⟩ := poll_eq (T := T) h.found order
  have hmoves := moves_gather (T := T) w' ticket order q r deadline
  rw [he, h.goesOn order]
  exact course_settle tidy h.found (hmoves.calls.1.trans h.calls)
    (hmoves.calls.2.trans h.outcomes) limit (carried.settle hp)

/-- What the act does when it has run the call, carries on. -/
theorem step_course_of_poll {P : Coordinator σ → Task → Prop} {Q : Coordinator σ → Outcome → Prop}
    (carried : Carried T ticket P Q) (tidy : w.Tidy) {a : Act σ} (runs : a.runs ticket)
    (h : ∀ order, Course ticket P Q (w.poll T order ticket)) : Course ticket P Q (w.step T a) := by
  obtain ⟨order, hrest⟩ := step_of_poll (T := T) w runs
  exact changes_course carried (Act.ticket?_of_runs runs) hrest
    (step_tidy tidy (.poll ticket order)) (h order)

/-- The next run does what it does for a reason. -/
theorem Poised.pursues (h : Poised T ticket q k deadline w w' c r) (tidy : w.Tidy) {a : Act σ}
    (runs : a.runs ticket) :
    Course ticket (Pursues q k deadline) (Concluded T ticket q k deadline) (w.step T a) := by
  have hcourse := step_course_of_poll pursues_carried tidy runs fun order =>
    h.course pursues_carried tidy ((moves_gather w' ticket order q r deadline).preserves
      pursues_carried.keeps pursues_carried.leaves ⟨.gathering h.faithful, h.reach⟩)
  cases hcourse with
  | pending found holds => exact .pending found holds.1
  | finished ended holds => exact .finished ended holds

/-- How a join ends that has both its confirmations. -/
def JoinedAtAll (_ : Coordinator σ) (o : Outcome) : Prop :=
  (∃ s, o = .joined s) ∨ o = .aborted ∨ o = .outOfPatience

theorem joined_untouched :
    Untouched ticket (fun (_ : Coordinator σ) _ => False) JoinedAtAll :=
  ⟨fun _ h => h, fun _ h => h⟩

theorem joined_carried : Carried T ticket (fun _ _ => False) JoinedAtAll :=
  joined_untouched.carried (fun _ h => h) (fun _ h => absurd h id) fun _ h => absurd h id

theorem completeHandshake_joins (w : Coordinator σ) (selfId : Snowflake) (e : StateEvent)
    (v : ServerEvent) :
    ∃ s, (w.completeHandshake T ticket q selfId e v).1 = .ended (.joined s) := by
  rw [completeHandshake_eq]
  split
  · exact ⟨_, rfl⟩
  · exact ⟨_, rfl⟩

/-- If both matches are there the next run joins. -/
theorem Poised.joins (h : Poised T ticket q k deadline w w' c r) (tidy : w.Tidy) {a : Act σ}
    (runs : a.runs ticket) {e : StateEvent} {v : ServerEvent} (he : k.state? w.bus = some e)
    (hv : k.server? w.bus = some v) :
    Course ticket (fun _ _ => False) JoinedAtAll (w.step T a) := by
  refine step_course_of_poll joined_carried tidy runs fun order =>
    h.course joined_carried tidy ?_
  have he' := Sought.state?_of_grows h.grows.bus he
  have hv' := Sought.server?_of_grows h.grows.bus hv
  unfold gather
  split
  · next r' hm =>
    rcases (h.faithful.meets h.reach hm).2.1 with hn | hn
    · exact absurd (hn.symm.trans he') (by simp)
    · exact absurd (hn.symm.trans hv') (by simp)
  · next e' v' hm =>
    obtain ⟨s, hs⟩ : ∃ s, (w'.completeHandshake T ticket q r.selfId e' v').1 =
        .ended (.joined s) := completeHandshake_joins w' r.selfId e' v'
    rw [hs]
    exact Or.inl ⟨s, rfl⟩
  · next n hm => exact ((h.faithful.meets h.reach hm).not_matched he' hv').elim

/-- A join that is being cleaned up after. -/
def Failing (q : JoinRequest) (cause : JoinError) (_ : Coordinator σ) (task : Task) : Prop :=
  ∃ f, task = .join q (.leaving cause f)

/-- How such a join ends. -/
def FailedFor (cause : JoinError) (_ : Coordinator σ) (o : Outcome) : Prop :=
  o = .joinFailed cause ∨ o = .aborted ∨ o = .outOfPatience

theorem failing_untouched {cause : JoinError} :
    Untouched ticket (Failing (σ := σ) q cause) (FailedFor cause) :=
  ⟨fun _ h => h, fun _ h => h⟩

theorem failing_carried {cause : JoinError} :
    Carried T ticket (Failing q cause) (FailedFor cause) := by
  refine failing_untouched.carried ?_ ?_ fun outside _ => Or.inr outside
  · rintro w w' task task' h ⟨f, rfl⟩
    cases h with
    | fail fails => cases fails
  · rintro w w' task o h ⟨f, rfl⟩
    cases h with
    | cleanedUp => exact Or.inl rfl

theorem failHandshake_fails (w : Coordinator σ) (cause : JoinError) :
    (w.failHandshake T ticket q cause).1.Meets
      (Failing q cause (w.failHandshake T ticket q cause).2)
      (FailedFor cause (w.failHandshake T ticket q cause).2) := by
  rw [failHandshake_eq]
  rcases w.sendLeave T ticket q cause with ⟨reply, w'⟩
  cases reply with
  | settled refusal =>
    cases refusal with
    | none => exact Or.inl rfl
    | some e => exact Or.inl rfl
  | held refusal => exact ⟨_, rfl⟩

/-- If a stream has ended without a match the next run fails for such a stream. -/
theorem Poised.misses (h : Poised T ticket q k deadline w w' c r) (tidy : w.Tidy) {a : Act σ}
    (runs : a.runs ticket) {n : StreamName} (hn : k.Missed w.bus n) :
    ∃ n', Course ticket (Failing q (.streamClosed n')) (FailedFor (.streamClosed n'))
      (w.step T a) := by
  obtain ⟨order, hrest⟩ := step_of_poll (T := T) w runs
  have hn' := hn.of_grows h.grows.bus
  cases hm : r.meet w'.bus order with
  | complete e v =>
    have hboth := h.faithful.meets h.reach hm
    exact (hn'.not_matched hboth.1 hboth.2).elim
  | pending r' => exact absurd hn' ((h.faithful.meets h.reach hm).2.2 n)
  | closed n' =>
    refine ⟨n', changes_course failing_carried (Act.ticket?_of_runs runs) hrest
      (step_tidy tidy (.poll ticket order)) (h.course failing_carried tidy ?_)⟩
    have hg : w'.gather T ticket order q r deadline =
        w'.failHandshake T ticket q (.streamClosed n') := by
      unfold gather
      rw [hm]
    rw [hg]
    exact failHandshake_fails w' _

/-- A handshake whose deadline has passed fails at an expiry. -/
theorem expireHandshake_fails {w : Coordinator σ} (tidy : w.Tidy) {c : Call}
    (found : w.call? ticket = some c) {r : Rendezvous}
    (gathering : c.task = .join q (.gathering r deadline)) (late : deadline ≤ w.now) :
    Course ticket (Failing q (.timeout q.timeout)) (FailedFor (.timeout q.timeout))
      (w.expireHandshake T c) := by
  have ht := call?_ticket found
  subst ht
  have hf : Fails w q (.gathering r deadline) (.timeout q.timeout) := .expired late
  have hmoves : Moves T c.ticket w (.join q (.gathering r deadline)) _ _ := moves_failHandshake hf
  unfold expireHandshake
  rw [gathering]
  dsimp only
  rw [if_pos late]
  exact course_settle tidy found hmoves.calls.1 hmoves.calls.2 c.limit
    ((failing_carried : Carried T c.ticket _ _).settle (failHandshake_fails w _))

/-- If neither is there when the deadline has passed, the next expiry fails the join for
that. -/
theorem Poised.expires (h : Poised T ticket q k deadline w w' c r) (tidy : w.Tidy)
    (order : TurnOrder) (wanting : k.state? w'.bus = none ∨ k.server? w'.bus = none)
    (unmissed : ∀ n, ¬ k.Missed w'.bus n) (late : deadline ≤ w.now) :
    Course ticket (Failing q (.timeout q.timeout)) (FailedFor (.timeout q.timeout))
      (w.step T (.expire ticket order)) := by
  cases hm : r.meet w'.bus order with
  | complete e v =>
    have hboth := h.faithful.meets h.reach hm
    rcases wanting with hn | hn
    · exact absurd (hn.symm.trans hboth.1) (by simp)
    · exact absurd (hn.symm.trans hboth.2) (by simp)
  | closed n => exact absurd (h.faithful.meets h.reach hm) (unmissed n)
  | pending r' =>
    have hg : w'.gather T ticket order q r deadline =
        (.pending (.join q (.gathering r' deadline)), w') := by
      unfold gather
      rw [hm]
    obtain ⟨limit, he⟩ := poll_eq (T := T) h.found order
    rw [h.goesOn order, hg] at he
    have hpolled : (w.poll T order ticket).Tidy := step_tidy tidy (.poll ticket order)
    have hnow : deadline ≤ (w.poll T order ticket).now := by
      have hlater : w.now ≤ w'.now := h.grows.now
      rw [he]
      show deadline ≤ w'.now
      omega
    have hcourse : Course ticket (fun _ task => task = .join q (.gathering r' deadline))
        (fun _ _ => False) (w.poll T order ticket) := by
      rw [he]
      exact course_settle tidy h.found h.calls h.outcomes limit rfl
    cases hcourse with
    | finished ended holds => exact absurd holds id
    | @pending c' found holds =>
      have hfailed := expireHandshake_fails (T := T) hpolled found holds hnow
      have ht := call?_ticket found
      subst ht
      have runs : (Act.expire c'.ticket order : Act σ).runs c'.ticket := rfl
      have htidy : ((w.poll T order c'.ticket).expireHandshake T c').Tidy :=
        changes_preserve Change.tidy (expireHandshake_changes found runs) hpolled
      show Course c'.ticket _ _ (w.expire T order c'.ticket)
      unfold expire
      dsimp only
      rw [found]
      exact changes_course (failing_carried : Carried T c'.ticket _ _) (Act.ticket?_of_runs runs)
        (patience_changes _ runs) htidy hfailed

/-! ## Taking up the answer -/

/-- What a join is after that looks up now. -/
def sought (u : Coordinator σ) (q : JoinRequest) (me : Snowflake) : Sought :=
  ⟨q.guild, me, u.bus.states.history.length, u.bus.servers.history.length⟩

/-- The acceptance of the command of a join without a session is there: it comes at once
when the command is sent, or has been released. -/
inductive Accepted (T : Transport σ) (ticket : Nat) (q : JoinRequest) (w : Coordinator σ) : Prop
  | atOnce {c : Call} (call : w.call? ticket = some c) (fresh : c.task = .join q .fresh)
      (accepted : (w.sendOpening T ticket q).1 = .settled none)
  | released {c : Call} {states servers : Cursor} {f : InFlight}
      (call : w.call? ticket = some c) (opening : c.task = .join q (.opening states servers f))
      (accepted : f.refusal = none) (released : w.released f = true)

/-- Where a join has subscribed that waits for the answer to its command, or is about to. -/
def Subscribes (states servers : Nat) (w : Coordinator σ) : Task → Prop
  | .join _ .fresh =>
    w.bus.states.history.length = states ∧ w.bus.servers.history.length = servers
  | .join _ (.opening s v _) => s = ⟨states⟩ ∧ v = ⟨servers⟩
  | _ => True

theorem subscribes_carried {states servers : Nat} :
    Carried T ticket (Subscribes states servers) fun _ _ => True where
  keeps := by
    intro w w' task task' h hw
    cases h with
    | «open» miss => exact ⟨congrArg Cursor.mk hw.1, congrArg Cursor.mk hw.2⟩
    | _ => exact trivial
  leaves _ _ := trivial
  quits _ _ := trivial
  settled := by
    intro w c task hw
    cases task with
    | join q stage => cases stage <;> exact hw
    | disconnect guild f => exact trivial
    | watch guild servers => exact trivial
  answered _ := trivial

theorem subscribes_untouched {states servers : Nat} :
    Untouched ticket (fun (w : Coordinator σ) task => task.begun = true ∧
      Subscribes states servers w task) fun _ _ => True where
  pending := by
    rintro w w' task h ⟨hb, hw⟩
    refine ⟨hb, ?_⟩
    cases task with
    | join q stage =>
      cases stage with
      | fresh => exact absurd hb (by simp [Task.begun])
      | _ => exact hw
    | disconnect guild f => exact trivial
    | watch guild servers => exact trivial
  finished _ _ := trivial

/-- If the answer is there at once the first run goes on with the rendezvous. -/
theorem poised_at_once {u : Coordinator σ} {c : Call} (call : u.call? ticket = some c)
    (fresh : c.task = .join q .fresh) (miss : u.registry.get? q.guild = none)
    (accepted : (u.sendOpening T ticket q).1 = .settled none) {me : Snowflake}
    (known : u.identity.selfId = some me)
    (sent : (u.sought q me).rendezvous.InReach (u.sendOpening T ticket q).2.bus) :
    Poised T ticket q (u.sought q me) (u.now + q.timeout.nanos) u (u.sendOpening T ticket q).2 c
      (u.sought q me).rendezvous := by
  have hm : Move T ticket u (.join q .fresh) _ _ := .open miss
  have hg : Grows (fun _ => True) u (u.sendOpening T ticket q).2 := hm.grows trivial
  refine ⟨call, fun order => ?_, Sought.faithful_rendezvous hg.bus.states.history.length_le
    hg.bus.servers.history.length_le, sent, hg, hm.calls.1, hm.calls.2⟩
  rw [fresh]
  show u.beginJoin T ticket order q = _
  rw [beginJoin_eq, miss]
  dsimp only
  rw [openHandshake_lookUp_eq]
  rcases hs : u.sendOpening T ticket q with ⟨reply, w'⟩
  rw [hs] at accepted
  have hid : w'.identity = u.identity := congrArg (fun p => p.2.identity) hs.symm
  have hnow : w'.now = u.now := congrArg (fun p => p.2.now) hs.symm
  dsimp only at accepted ⊢
  rw [accepted]
  dsimp only [afterOpening, beginGathering]
  rw [hid, known, hnow]
  rfl

/-- If the answer has been released the next run goes on with the rendezvous. -/
theorem poised_of_released {w : Coordinator σ} {c : Call} {f : InFlight}
    (call : w.call? ticket = some c)
    (opening : c.task = .join q (.opening ⟨k.states⟩ ⟨k.servers⟩ f)) (guild : k.guild = q.guild)
    (accepted : f.refusal = none) (released : w.released f = true)
    (known : w.identity.selfId = some k.selfId) (hs : k.states ≤ w.bus.states.history.length)
    (hv : k.servers ≤ w.bus.servers.history.length) (abreast : w.Abreast ticket) :
    Poised T ticket q k (w.now + q.timeout.nanos) w w c k.rendezvous := by
  have hreach : c.task.InReach w.bus := abreast c call
  rw [opening] at hreach
  refine ⟨call, fun order => ?_, Sought.faithful_rendezvous hs hv, ⟨fun _ => hreach.1,
    fun _ => hreach.2⟩, grows_refl w, rfl, rfl⟩
  rw [opening]
  dsimp only [runTask, runJoin]
  rw [if_pos released, accepted]
  dsimp only [afterOpening, beginGathering]
  rw [known]
  unfold Sought.rendezvous
  rw [guild]

/-- When the answer to its command is there, the next run of a join that has found no
session goes on with the rendezvous, for the events since its first run. -/
theorem poised_of_accepted {u : Coordinator σ} (hu : Reachable T u) {c : Call}
    (call : u.call? ticket = some c) (fresh : c.task = .join q .fresh)
    (miss : u.registry.get? q.guild = none) {opening : List (Act σ)} {first a : Act σ}
    (head : (opening ++ [a]).head? = some first) (looksUp : first.runs ticket)
    (accepted : (u.run T opening).Accepted T ticket q) {me : Snowflake}
    (known : (u.run T opening).identity.selfId = some me)
    (sent : (u.sought q me).rendezvous.InReach (u.sendOpening T ticket q).2.bus)
    (abreast : (u.run T opening).Abreast ticket) :
    ∃ w' c', Poised T ticket q (u.sought q me) ((u.run T opening).now + q.timeout.nanos)
      (u.run T opening) w' c' (u.sought q me).rendezvous := by
  cases opening with
  | nil =>
    cases accepted with
    | atOnce call' fresh' accepted =>
      exact ⟨_, c, poised_at_once call fresh miss accepted known sent⟩
    | released call' opening accepted released =>
      have he := Option.some.inj (call.symm.trans call')
      rw [← he, fresh] at opening
      exact absurd opening (by simp)
  | cons b opening =>
    have he : b = first := Option.some.inj head
    subst he
    have h₀ : Course ticket (Subscribes u.bus.states.history.length u.bus.servers.history.length)
        (fun _ _ => True) u := .pending call (by rw [fresh]; exact ⟨rfl, rfl⟩)
    have hcourse := run_course_begun (T := T) subscribes_carried subscribes_untouched looksUp
      hu.tidy h₀ opening
    have htidy := (hu.run (b :: opening)).tidy
    have hgrows := run_grows (T := T) u (b :: opening)
    cases accepted with
    | atOnce call' fresh' accepted =>
      have hbegun := (hcourse.of_call htidy call').1
      rw [fresh'] at hbegun
      exact absurd hbegun (by simp [Task.begun])
    | @released c' states servers f call' stage accepted released =>
      have hsub := (hcourse.of_call htidy call').2
      rw [stage] at hsub
      obtain ⟨rfl, rfl⟩ := hsub
      exact ⟨_, c', poised_of_released call' stage rfl accepted released known
        hgrows.bus.states.history.length_le hgrows.bus.servers.history.length_le abreast⟩

end VoiceGateway.Coordinator
