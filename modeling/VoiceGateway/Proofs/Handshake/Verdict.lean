import VoiceGateway.Proofs.Handshake.Poised
import VoiceGateway.Proofs.Handshake.Subscriptions
import VoiceGateway.Transport.Scripted

/-!
# How a handshake turns out

Along a run a join stays at what it pursues, and the next time it is run decides how it
ends. So its outcome is known from what was published when: the first matches if both
were there before the deadline, a stream that had ended without its match, or the
deadline.

> `handshake_verdict`: the outcome of a join by what was published when.
-/

namespace VoiceGateway.Coordinator

variable {σ : Type} {T : Transport σ} {ticket : Nat} {q : JoinRequest} {k : Sought}
  {deadline : Nat} {w w' : Coordinator σ} {c : Call} {r : Rendezvous}

/-! ## Runs -/

/-- A run keeps to what a join pursues. -/
theorem run_pursues {w : Coordinator σ} (tidy : w.Tidy)
    (h : Course ticket (Pursues q k deadline) (Concluded T ticket q k deadline) w)
    {acts : List (Act σ)} (abreast : ∀ l, l <+: acts → (w.run T l).Abreast ticket) :
    Course ticket (Pursues q k deadline) (Concluded T ticket q k deadline) (w.run T acts) :=
  run_course_along pursues_carried pursues_untouched (fun hL hc => hL _ hc) acts tidy abreast h

/-- A join that gathers is poised when it is run next, unless it is given up before. -/
theorem next_run {w : Coordinator σ} (tidy : w.Tidy) {c : Call} {r : Rendezvous}
    (call : w.call? ticket = some c) (gathering : c.task = .join q (.gathering r deadline))
    (faithful : k.Faithful w.bus r) {acts : List (Act σ)} (runs : ∃ b ∈ acts, b.runs ticket)
    (abreast : ∀ l, l <+: acts → (w.run T l).Abreast ticket) :
    (∃ o, (w.run T acts).outcome? ticket = some o ∧ (o = .aborted ∨ o = .outOfPatience)) ∨
      ∃ before b after c', acts = before ++ b :: after ∧ b.runs ticket ∧
        Poised T ticket q k deadline (w.run T before) (w.run T before) c' r := by
  obtain ⟨before, b, after, rfl, hb, idle⟩ := exists_first_run runs
  cases run_stays (T := T) tidy call idle with
  | finished ended outside =>
    rw [run_append]
    exact Or.inl ⟨_, (run_grows (T := T) _ _).outcome? ended, outside⟩
  | pending found holds =>
    have hpoised := poised_of_gathering (T := T) found (holds.trans gathering)
      (faithful.of_grows (run_grows (T := T) w before).bus)
      (abreast before (List.prefix_append ..))
    exact Or.inr ⟨before, b, after, _, rfl, hb, hpoised⟩

/-- A join that is about to take up the acceptance of its command in the next act, or
pursues what it is after. -/
inductive Underway (T : Transport σ) (ticket : Nat) (q : JoinRequest) (k : Sought)
    (deadline : Nat) (w : Coordinator σ) : List (Act σ) → Prop
  | takesUp {w' : Coordinator σ} {c : Call} {r : Rendezvous} {a : Act σ} {acts : List (Act σ)}
      (poised : Poised T ticket q k deadline w w' c r) (runs : a.runs ticket) :
      Underway T ticket q k deadline w (a :: acts)
  | pursues {acts : List (Act σ)}
      (course : Course ticket (Pursues q k deadline) (Concluded T ticket q k deadline) w) :
      Underway T ticket q k deadline w acts

/-- From the act that takes up the acceptance on a join pursues what it is after. -/
theorem Poised.pursues_along (h : Poised T ticket q k deadline w w' c r) (tidy : w.Tidy)
    {a : Act σ} (takesUp : a.runs ticket) {acts : List (Act σ)}
    (abreast : ∀ l, l <+: a :: acts → (w.run T l).Abreast ticket) {l : List (Act σ)}
    (hl : l <+: acts) : Course ticket (Pursues q k deadline) (Concluded T ticket q k deadline)
      (w.run T (a :: l)) := by
  rw [run_cons]
  refine run_pursues (step_tidy tidy a) (h.pursues tidy takesUp) fun l' hl' => ?_
  exact abreast (a :: l') (List.cons_prefix_cons.mpr ⟨rfl, hl'.trans hl⟩)

/-- At any point from before that act on a join is under way. -/
theorem Poised.underway (h : Poised T ticket q k deadline w w' c r) (tidy : w.Tidy)
    {a : Act σ} (takesUp : a.runs ticket) {acts : List (Act σ)}
    (abreast : ∀ l, l <+: a :: acts → (w.run T l).Abreast ticket) {before later : List (Act σ)}
    (split : a :: acts = before ++ later) :
    Underway T ticket q k deadline (w.run T before) later := by
  cases before with
  | nil =>
    rw [List.nil_append] at split
    exact split ▸ .takesUp h takesUp
  | cons b before =>
    injection split with hb hacts
    exact hb ▸ .pursues (h.pursues_along tidy takesUp abreast ⟨later, hacts.symm⟩)

/-- A join that has not failed while there was time, and finds both matches, is joined
when it is run next. -/
theorem joins_of_matched {w : Coordinator σ} (tidy : w.Tidy)
    {acts : List (Act σ)} (h : Underway T ticket q k deadline w acts) (early : w.now < deadline)
    {e : StateEvent} {v : ServerEvent} (he : k.state? w.bus = some e)
    (hv : k.server? w.bus = some v) (runs : ∃ b ∈ acts, b.runs ticket)
    (abreast : ∀ l, l <+: acts → (w.run T l).Abreast ticket) :
    Course ticket (fun _ _ => False) JoinedAtAll (w.run T acts) := by
  have noReason : ∀ {cause}, ¬ Reason q k deadline w cause := by
    intro cause hr
    cases hr with
    | missed missed => exact missed.not_matched he hv
    | late late => omega
  cases h with
  | takesUp poised hb =>
    rw [run_cons]
    exact run_course joined_carried joined_untouched (step_tidy tidy _)
      (poised.joins tidy hb he hv) _
  | pursues course =>
    cases course with
    | finished ended holds =>
      refine .finished ((run_grows (T := T) w acts).outcome? ended) ?_
      cases holds with
      | joined confirmed => exact Or.inl ⟨_, rfl⟩
      | failed reason => exact absurd reason noReason
      | givenUp outside => exact Or.inr outside
    | pending found holds =>
      generalize htask : Call.task _ = task at holds
      cases holds with
      | leaving reason => exact absurd reason noReason
      | gathering faithful =>
        rcases next_run tidy found htask faithful runs abreast with ⟨o, ho, outside⟩ |
          ⟨before, b, after, c', rfl, hb, hpoised⟩
        · exact .finished ho (Or.inr outside)
        · have hgrows := (run_grows (T := T) w before).bus
          have htidy := run_tidy (T := T) tidy before
          rw [run_append, run_cons]
          exact run_course joined_carried joined_untouched (step_tidy htidy b)
            (hpoised.joins htidy hb (Sought.state?_of_grows hgrows he)
              (Sought.server?_of_grows hgrows hv)) after

/-- A join that has not failed for its deadline while there was time, and finds a stream
that has ended without a match, fails for such a stream when it is run next. -/
theorem fails_of_missed {w : Coordinator σ} (tidy : w.Tidy)
    {acts : List (Act σ)} (h : Underway T ticket q k deadline w acts) (early : w.now < deadline)
    {n : StreamName} (hn : k.Missed w.bus n) (runs : ∃ b ∈ acts, b.runs ticket)
    (abreast : ∀ l, l <+: acts → (w.run T l).Abreast ticket) :
    ∃ n', Course ticket (Failing q (.streamClosed n')) (FailedFor (.streamClosed n'))
      (w.run T acts) := by
  cases h with
  | takesUp poised hb =>
    obtain ⟨n', hcourse⟩ := poised.misses tidy hb hn
    rw [run_cons]
    exact ⟨n', run_course failing_carried failing_untouched (step_tidy tidy _) hcourse _⟩
  | pursues course =>
    cases course with
    | finished ended holds =>
      have hended := (run_grows (T := T) w acts).outcome? ended
      cases holds with
      | joined confirmed => exact (hn.not_matched confirmed.state confirmed.server).elim
      | failed reason =>
        cases reason with
        | @missed n' missed => exact ⟨n', .finished hended (Or.inl rfl)⟩
        | late late => omega
      | givenUp outside => exact ⟨n, .finished hended (Or.inr outside)⟩
    | pending found holds =>
      generalize htask : Call.task _ = task at holds
      cases holds with
      | leaving reason =>
        cases reason with
        | @missed n' missed =>
          exact ⟨n', run_course failing_carried failing_untouched tidy
            (.pending found ⟨_, htask⟩) acts⟩
        | late late => omega
      | gathering faithful =>
        rcases next_run tidy found htask faithful runs abreast with ⟨o, ho, outside⟩ |
          ⟨before, b, after, c', rfl, hb, hpoised⟩
        · exact ⟨n, .finished ho (Or.inr outside)⟩
        · have hgrows := (run_grows (T := T) w before).bus
          have htidy := run_tidy (T := T) tidy before
          obtain ⟨n', hcourse⟩ := hpoised.misses htidy hb (hn.of_grows hgrows)
          rw [run_append, run_cons]
          exact ⟨n', run_course failing_carried failing_untouched (step_tidy htidy b) hcourse after⟩

/-- A join that wants a match on a stream that has not ended, and expires when its deadline
has passed, fails for its deadline. -/
theorem fails_of_late {w : Coordinator σ} (tidy : w.Tidy)
    (h : Course ticket (Pursues q k deadline) (Concluded T ticket q k deadline) w)
    (late : deadline ≤ w.now) (wanting : k.state? w.bus = none ∨ k.server? w.bus = none)
    (unmissed : ∀ n, ¬ k.Missed w.bus n) (abreast : w.Abreast ticket) (order : TurnOrder)
    (acts : List (Act σ)) :
    Course ticket (Failing q (.timeout q.timeout)) (FailedFor (.timeout q.timeout))
      (w.run T (.expire ticket order :: acts)) := by
  cases h with
  | finished ended holds =>
    refine .finished ((run_grows (T := T) w _).outcome? ended) ?_
    cases holds with
    | joined confirmed =>
      rcases wanting with hn | hn
      · exact absurd (hn.symm.trans confirmed.state) (by simp)
      · exact absurd (hn.symm.trans confirmed.server) (by simp)
    | failed reason =>
      cases reason with
      | missed missed => exact absurd missed (unmissed _)
      | late late => exact Or.inl rfl
    | givenUp outside => exact Or.inr outside
  | pending found holds =>
    generalize htask : Call.task _ = task at holds
    cases holds with
    | leaving reason =>
      cases reason with
      | missed missed => exact absurd missed (unmissed _)
      | late late =>
        exact run_course failing_carried failing_untouched tidy (.pending found ⟨_, htask⟩) _
    | gathering faithful =>
      have hpoised := poised_of_gathering (T := T) found htask faithful abreast
      rw [run_cons]
      exact run_course failing_carried failing_untouched (step_tidy tidy _)
        (hpoised.expires tidy order wanting unmissed late) acts

/-- Streams with room for all that is delivered leave nobody behind. -/
theorem abreast_of_room {w : Coordinator σ} {acts : List (Act σ)}
    (states : (w.run T acts).bus.states.history.length ≤ w.bus.states.window)
    (servers : (w.run T acts).bus.servers.history.length ≤ w.bus.servers.window) {l : List (Act σ)}
    (hl : l <+: acts) : (w.run T l).Abreast ticket := by
  obtain ⟨l', rfl⟩ := hl
  have before := (run_grows (T := T) w l).bus
  have after := (run_grows (T := T) (w.run T l) l').bus
  rw [run_append] at states servers
  have hstates : (w.run T l).bus.states.windowStart = 0 := by
    have hlen := after.states.history.length_le
    have hwindow := before.states.window
    unfold Stream.windowStart
    omega
  have hservers : (w.run T l).bus.servers.windowStart = 0 := by
    have hlen := after.servers.history.length_le
    have hwindow := before.servers.window
    unfold Stream.windowStart
    omega
  intro c _
  unfold Task.InReach
  split
  · rw [hstates, hservers]
    exact ⟨Nat.zero_le _, Nat.zero_le _⟩
  · exact ⟨fun _ => hstates ▸ Nat.zero_le _, fun _ => hservers ▸ Nat.zero_le _⟩
  · exact trivial

/-! ## The verdict -/

/-- A join has failed for a cause, or is being cleaned up after for it. -/
def FailsWith (w : Coordinator σ) (ticket : Nat) (q : JoinRequest) (cause : JoinError) : Prop :=
  w.outcome? ticket = some (.joinFailed cause) ∨
    ∃ c f, w.call? ticket = some c ∧ c.task = .join q (.leaving cause f)

theorem failsWith_of_course {w : Coordinator σ} {cause : JoinError}
    (h : Course ticket (Failing q cause) (FailedFor cause) w)
    (kept : w.outcome? ticket ≠ some .aborted ∧ w.outcome? ticket ≠ some .outOfPatience) :
    w.FailsWith ticket q cause := by
  cases h with
  | @pending c found holds =>
    obtain ⟨f, hf⟩ := holds
    exact Or.inr ⟨c, f, found, hf⟩
  | finished ended holds =>
    rcases holds with rfl | rfl | rfl
    · exact Or.inl ended
    · exact absurd ended kept.1
    · exact absurd ended kept.2

/-- The ways in which a join ends that was not given up. -/
theorem Concluded.verdict {w : Coordinator σ} {o : Outcome}
    (h : Concluded T ticket q k deadline w o) (kept : o ≠ .aborted ∧ o ≠ .outOfPatience) :
    (∃ e v s, o = .joined s ∧ Confirmed T ticket q k w e v s) ∨
      (∃ n, o = .joinFailed (.streamClosed n) ∧ k.Missed w.bus n) ∨
      (o = .joinFailed (.timeout q.timeout) ∧ deadline ≤ w.now) := by
  cases h with
  | joined confirmed => exact Or.inl ⟨_, _, _, rfl, confirmed⟩
  | failed reason =>
    cases reason with
    | missed missed => exact Or.inr (Or.inl ⟨_, rfl, missed⟩)
    | late late => exact Or.inr (Or.inr ⟨rfl, late⟩)
  | givenUp outside => exact absurd outside (by simp [kept])

/-- A join that fails for a stream has missed what it is after on that stream. -/
theorem FailsWith.missed {w : Coordinator σ} (tidy : w.Tidy) {n : StreamName}
    (h : w.FailsWith ticket q (.streamClosed n))
    (hcourse : Course ticket (Pursues q k deadline) (Concluded T ticket q k deadline) w) :
    k.Missed w.bus n := by
  have hreason : Reason q k deadline w (.streamClosed n) := by
    rcases h with ended | ⟨c, f, found, htask⟩
    · cases hcourse.of_outcome tidy ended with
      | failed reason => exact reason
      | givenUp outside => exact absurd outside (by simp)
    · have hp := hcourse.of_call tidy found
      rw [htask] at hp
      cases hp with
      | leaving reason => exact reason
  cases hreason with
  | missed missed => exact missed

/-- A join that is joined is joined by what it is after. -/
theorem joined_of_course {w : Coordinator σ} (tidy : w.Tidy)
    (h : Course ticket (fun _ _ => False) JoinedAtAll w)
    (hcourse : Course ticket (Pursues q k deadline) (Concluded T ticket q k deadline) w)
    (kept : w.outcome? ticket ≠ some .aborted ∧ w.outcome? ticket ≠ some .outOfPatience)
    {e : StateEvent} {v : ServerEvent} (he : k.state? w.bus = some e)
    (hv : k.server? w.bus = some v) :
    ∃ s, w.outcome? ticket = some (.joined s) ∧ Confirmed T ticket q k w e v s := by
  cases h with
  | pending found holds => exact absurd holds id
  | finished ended holds =>
    rcases holds with ⟨s, rfl⟩ | rfl | rfl
    · refine ⟨s, ended, ?_⟩
      cases hcourse.of_outcome tidy ended with
      | joined confirmed =>
        rw [Option.some.inj (he.symm.trans confirmed.state),
          Option.some.inj (hv.symm.trans confirmed.server)]
        exact confirmed
      | givenUp outside => exact absurd outside (by simp)
    · exact absurd ended kept.1
    · exact absurd ended kept.2

/-- The verdict on a join that finds no session and whose command is accepted. It is after
the first own voice state and the first assigned server since it has subscribed, which
it did before it sent the command; the deadline counts from when it takes up the
acceptance. Whenever it is run, and in whatever order it asks the streams, as long as
it does not fall behind them:

* it can only be joined by these two, or fail for a stream that has ended without its
  match, or for the deadline once that has passed;
* if both are there before the deadline and it is run again, it is joined by them,
  whatever ends later; if a stream has ended without its match by then, it fails for
  such a stream;
* if at an expiry after the deadline a match is wanting that may still come, it fails
  for the deadline;
* what is published to an open stream that it holds is there from then on. -/
theorem handshake_verdict {u : Coordinator σ} (hu : Reachable T u) {c : Call}
    (call : u.call? ticket = some c) (fresh : c.task = .join q .fresh)
    (miss : u.registry.get? q.guild = none) {opening rest : List (Act σ)} {first a : Act σ}
    (head : (opening ++ [a]).head? = some first) (looksUp : first.runs ticket)
    (takesUp : a.runs ticket) (accepted : (u.run T opening).Accepted T ticket q)
    {me : Snowflake} (known : (u.run T opening).identity.selfId = some me)
    (sent : (u.sought q me).rendezvous.InReach (u.sendOpening T ticket q).2.bus)
    (abreast : ∀ l, l <+: opening ++ a :: rest → (u.run T l).Abreast ticket)
    (kept : (u.run T (opening ++ a :: rest)).outcome? ticket ≠ some .aborted ∧
      (u.run T (opening ++ a :: rest)).outcome? ticket ≠ some .outOfPatience) :
    let k := u.sought q me
    let deadline := (u.run T opening).now + q.timeout.nanos
    let z := u.run T (opening ++ a :: rest)
    (∀ o, z.outcome? ticket = some o →
      (∃ e v s, o = .joined s ∧ Confirmed T ticket q k z e v s) ∨
      (∃ n, o = .joinFailed (.streamClosed n) ∧ k.Missed z.bus n) ∨
      (o = .joinFailed (.timeout q.timeout) ∧ deadline ≤ z.now)) ∧
    (∀ before later, a :: rest = before ++ later → (∃ b ∈ later, b.runs ticket) →
      let x := u.run T (opening ++ before)
      x.now < deadline →
      (∀ e v, k.state? x.bus = some e → k.server? x.bus = some v →
        ∃ s, z.outcome? ticket = some (.joined s) ∧ Confirmed T ticket q k z e v s) ∧
      ((∃ n, k.Missed x.bus n) →
        ∃ n, k.Missed z.bus n ∧ z.FailsWith ticket q (.streamClosed n))) ∧
    (∀ before order later, rest = before ++ .expire ticket order :: later →
      let x := u.run T (opening ++ a :: before)
      deadline ≤ x.now → k.state? x.bus = none ∨ k.server? x.bus = none →
      (∀ n, ¬ k.Missed x.bus n) → z.FailsWith ticket q (.timeout q.timeout)) ∧
    ∀ l c', (u.run T l).call? ticket = some c' →
      let x := u.run T l
      (c'.task.holds .state = true → x.bus.states.closed = false → ∀ e,
        (x.step T (.publish (.state e))).bus.states.history = x.bus.states.history ++ [e]) ∧
      (c'.task.holds .server = true → x.bus.servers.closed = false → ∀ v,
        (x.step T (.publish (.server v))).bus.servers.history = x.bus.servers.history ++ [v]) := by
  intro k deadline z
  obtain ⟨w', c', hpoised⟩ := poised_of_accepted hu call fresh miss head looksUp accepted known sent
    (abreast opening (List.prefix_append ..))
  have hx := (hu.run opening).tidy
  have htidy := (hu.run (opening ++ a :: rest)).tidy
  have hrun := run_append T u opening
  have habreast : ∀ l, l <+: a :: rest → ((u.run T opening).run T l).Abreast ticket :=
    fun l hl => hrun l ▸ abreast _ ((List.prefix_append_right_inj opening).mpr hl)
  have hcourse : ∀ l, l <+: rest → Course ticket (Pursues q k deadline)
      (Concluded T ticket q k deadline) (u.run T (opening ++ a :: l)) :=
    fun l hl => hrun (a :: l) ▸ hpoised.pursues_along hx takesUp habreast hl
  have hz := hcourse rest List.prefix_rfl
  refine ⟨fun o ho => ?_, fun before later split runs early => ?_,
    fun before order later split late wanting unmissed => ?_, fun l c' hc' => ?_⟩
  · exact (hz.of_outcome htidy ho).verdict ⟨fun he => kept.1 (he ▸ ho), fun he => kept.2 (he ▸ ho)⟩
  · have hsplit : opening ++ a :: rest = (opening ++ before) ++ later := by
      rw [split, List.append_assoc]
    have hzrun : z = (u.run T (opening ++ before)).run T later := by
      rw [← run_append, ← hsplit]
    have hreach : ∀ l, l <+: later → ((u.run T (opening ++ before)).run T l).Abreast ticket :=
      fun l hl => run_append T u _ l ▸
        abreast _ (hsplit ▸ (List.prefix_append_right_inj _).mpr hl)
    have hunder : Underway T ticket q k deadline (u.run T (opening ++ before)) later :=
      hrun before ▸ hpoised.underway hx takesUp habreast split
    have hgrows : (u.run T (opening ++ before)).bus.Grows z.bus :=
      hzrun ▸ (run_grows _ later).bus
    have hbefore := (hu.run (opening ++ before)).tidy
    constructor
    · intro e v he hv
      have hjoins := joins_of_matched hbefore hunder early he hv runs hreach
      rw [← hzrun] at hjoins
      exact joined_of_course htidy hjoins hz kept (Sought.state?_of_grows hgrows he)
        (Sought.server?_of_grows hgrows hv)
    · rintro ⟨n, hn⟩
      obtain ⟨n', hmisses⟩ := fails_of_missed hbefore hunder early hn runs hreach
      rw [← hzrun] at hmisses
      have hfails := failsWith_of_course hmisses kept
      exact ⟨n', hfails.missed htidy hz, hfails⟩
  · subst split
    have hl : before <+: before ++ .expire ticket order :: later := List.prefix_append ..
    have hreach : (u.run T (opening ++ a :: before)).Abreast ticket :=
      hrun (a :: before) ▸ habreast _ (List.cons_prefix_cons.mpr ⟨rfl, hl⟩)
    have hlate := fails_of_late (hu.run (opening ++ a :: before)).tidy (hcourse before hl) late
      wanting unmissed hreach order later
    rw [← run_append, List.append_assoc, List.cons_append] at hlate
    exact failsWith_of_course hlate kept
  · exact ⟨fun holds opened e => (hu.run l).delivered_state hc' holds opened e,
      fun holds opened v => (hu.run l).delivered_server hc' holds opened v⟩

/-- A join is completed by the first matches, which come in the wrong order and between
others, although its state stream has ended by the time it is run. -/
theorem handshake_verdict_of_late_close :
    let T := Transport.scripted 4
    let q : JoinRequest := ⟨⟨1⟩, ⟨2⟩, false, false, .ofSecs 5⟩
    let u : Coordinator LineMode :=
      run T { line := .accepts, identity := .fixed (some ⟨7⟩) } [.start 0 (.join q) none]
    let own : StateEvent := ⟨⟨1⟩, ⟨7⟩, none, "s"⟩
    let assigned : ServerEvent := ⟨⟨1⟩, some "host", "t"⟩
    let events : List (Act LineMode) := [.publish (.state ⟨⟨1⟩, ⟨8⟩, none, "r"⟩),
      .publish (.server ⟨⟨1⟩, none, "u"⟩), .publish (.server assigned), .publish (.state own),
      .close .state]
    let z := u.run T ([] ++ .poll 0 statesFirst :: (events ++ [.poll 0 statesFirst]))
    ∃ s, z.outcome? 0 = some (.joined s) ∧ Confirmed T 0 q (u.sought q ⟨7⟩) z own assigned s := by
  intro T q u own assigned events z
  have hu : Reachable T u := ⟨_, _, _, _, rfl⟩
  have call : u.call? 0 = some ⟨0, .join q .fresh, none, none⟩ := by decide
  have polls : (Act.poll 0 statesFirst : Act LineMode).runs 0 := rfl
  have accepted : (u.run T []).Accepted T 0 q := .atOnce call rfl (by decide)
  have sent : (u.sought q ⟨7⟩).rendezvous.InReach (u.sendOpening T 0 q).2.bus :=
    ⟨fun _ => by decide, fun _ => by decide⟩
  have abreast : ∀ l, l <+: [] ++ .poll 0 statesFirst :: (events ++ [.poll 0 statesFirst]) →
      (u.run T l).Abreast 0 := by
    intro l hl
    refine abreast_of_room ?_ ?_ hl
    · decide
    · decide
  have kept : z.outcome? 0 ≠ some .aborted ∧ z.outcome? 0 ≠ some .outOfPatience := by decide
  have h := handshake_verdict hu call rfl (by decide) rfl polls polls accepted rfl sent abreast kept
  exact (h.2.1 (.poll 0 statesFirst :: events) [.poll 0 statesFirst] rfl
    ⟨_, List.mem_singleton_self _, polls⟩ (by decide)).1 own assigned (by decide) (by decide)

end VoiceGateway.Coordinator
