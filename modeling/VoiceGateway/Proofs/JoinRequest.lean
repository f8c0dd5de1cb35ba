import VoiceGateway.CommandLine.Report
import VoiceGateway.JoinRequest
import VoiceGateway.Proofs.Config.Checks

/-!
# What requests are made of

Each part of a request is what was chosen for it last, by a choice of its own or with the
defaults. A request that takes over the defaults of some settings can be made unless these
settings have an error for the join timeout: the check of the settings and the making of a
request go by the same rule.

> `Choices.ofList_eq`: the last choice for each part counts.
> `ofChoices_defaults`: when the defaults of settings make a request.
> `requests_agree_with_checks`: requests, the errors of settings and what is said about them.
-/

namespace VoiceGateway

open JoinRequest

namespace JoinRequest

/-- What a choice tells about the mute flag. -/
def Choice.mute? : Choice → Option Bool
  | .mute on => some on
  | .defaults v => some v.selfMute
  | .deaf _ | .timeout _ => none

/-- What a choice tells about the deaf flag. -/
def Choice.deaf? : Choice → Option Bool
  | .deaf on => some on
  | .defaults v => some v.selfDeaf
  | .mute _ | .timeout _ => none

/-- What a choice tells about the timeout. -/
def Choice.timeout? : Choice → Option Duration
  | .timeout d => some d
  | .defaults v => some v.joinTimeout
  | .mute _ | .deaf _ => none

/-- The value of the last choice that tells something, or else the given one. -/
def last {β : Type} (tells : Choice → Option β) (choices : List Choice) (otherwise : β) : β :=
  (choices.filterMap tells).getLast?.getD otherwise

namespace Choices

/-- A part of the choices that each choice overrides which tells something about it. -/
theorem read_foldl {β : Type} (read : Choices → β) (tells : Choice → Option β)
    (h : ∀ c x, read (choose c x) = (tells x).getD (read c)) (choices : List Choice) (c : Choices) :
    read (choices.foldl choose c) = last tells choices (read c) := by
  induction choices generalizing c with
  | nil => rfl
  | cons x choices ih =>
    rw [List.foldl_cons, ih, h]
    unfold last
    cases hx : tells x with
    | none => rw [List.filterMap_cons_none hx, Option.getD_none]
    | some v =>
      rw [List.filterMap_cons_some hx, List.getLast?_cons, Option.getD_some, Option.getD_some]

/-- The last choice for each part counts. -/
theorem ofList_eq (choices : List Choice) : ofList choices =
    ⟨last Choice.mute? choices false, last Choice.deaf? choices false,
      last Choice.timeout? choices defaultTimeout⟩ := by
  have hmute := read_foldl (·.selfMute) Choice.mute? (fun _ x => by cases x <;> rfl) choices {}
  have hdeaf := read_foldl (·.selfDeaf) Choice.deaf? (fun _ x => by cases x <;> rfl) choices {}
  have htimeout := read_foldl (·.timeout) Choice.timeout? (fun _ x => by cases x <;> rfl) choices {}
  unfold ofList
  generalize choices.foldl choose {} = c at hmute hdeaf htimeout
  obtain ⟨mute, deaf, timeout⟩ := c
  cases hmute
  cases hdeaf
  cases htimeout
  rfl

end Choices

/-- The request that a run of choices makes, if there is time for it. -/
theorem ofChoices_eq (guild channel : Snowflake) (choices : List Choice) :
    ofChoices guild channel choices =
      if (last Choice.timeout? choices defaultTimeout).nanos = 0 then
        .error (.config "join timeout must be greater than 0")
      else .ok ⟨guild, channel, last Choice.mute? choices false, last Choice.deaf? choices false,
        last Choice.timeout? choices defaultTimeout⟩ := by
  unfold ofChoices
  rw [Choices.ofList_eq]
  rfl

/-- The defaults of settings make a request unless they leave no time for it. -/
theorem ofChoices_defaults (guild channel : Snowflake) (v : VoiceSettings) :
    (ofChoices guild channel [.defaults v]).isOk = true ↔ v.joinTimeoutSecs ≠ 0 := by
  rw [ofChoices_eq, Ne, ← VoiceSettings.joinTimeout_eq_zero]
  show (if v.joinTimeout.nanos = 0 then _ else _ : Except _ _).isOk = true ↔ _
  by_cases h : v.joinTimeout.nanos = 0
  · rw [if_pos h]
    exact ⟨fun h => Bool.noConfusion h, fun hn => absurd h hn⟩
  · rw [if_neg h]
    exact ⟨fun _ => h, fun _ => rfl⟩

end JoinRequest

/-- What requests are made of and when settings can be used. Mute, deaf and timeout of a
request are what was chosen for each of them last, or no, no and five seconds; it cannot be
made exactly if that timeout is zero, and it sends these flags for its guild and channel.
Settings have at most two errors: one about the number of shards if there are none, and one
about the join timeout if a request cannot be made of their defaults. The program accepts
settings exactly if they have no error, whatever the warnings; and if there is an issue it
prints all issues and the numbers of errors and warnings, which add up to their number. -/
theorem requests_agree_with_checks :
    (∀ (guild channel : Snowflake) (choices : List Choice),
      let mute := last Choice.mute? choices false
      let deaf := last Choice.deaf? choices false
      let timeout := last Choice.timeout? choices (.ofSecs 5)
      ((ofChoices guild channel choices).isOk = false ↔ timeout.nanos = 0) ∧
        ∀ request, ofChoices guild channel choices = .ok request →
          request = ⟨guild, channel, mute, deaf, timeout⟩ ∧
            request.update = .join guild channel mute deaf) ∧
    ∀ (c : Config) (env : Environment) (guild channel : Snowflake),
      let errors := c.issues.filter (·.severity = .error)
      let answer := Command.validateConfig.runWith c env
      errors =
          (if c.gateway.shardCount = 0 then
            [⟨.error, "gateway.shard_count", "shard_count must be greater than 0"⟩] else []) ++
          (if (ofChoices guild channel [.defaults c.voice]).isOk then [] else
            [⟨.error, "voice.join_timeout_secs", "join timeout must be greater than 0"⟩]) ∧
        (c.isValid = false ↔ errors ≠ []) ∧
        answer.code = (if errors = [] then 0 else 1) ∧
        ∃ errorCount warningCount : Nat,
          errorCount = errors.length ∧ errorCount + warningCount = c.issues.length ∧
          answer.output =
            if c.issues = [] then "Config OK (" ++ env.configPath ++ ")\n"
            else String.join (c.issues.map fun i => i.text ++ "\n") ++ "\n" ++
              Decimal.text errorCount ++ " error(s), " ++ Decimal.text warningCount ++
              " warning(s) in " ++ env.configPath ++ "\n" := by
  refine ⟨fun guild channel choices => ?_, fun c env guild channel => ?_⟩
  · intro mute deaf timeout
    have heq : ofChoices guild channel choices = if timeout.nanos = 0 then _ else _ :=
      ofChoices_eq guild channel choices
    rw [heq]
    by_cases hzero : timeout.nanos = 0
    · rw [if_pos hzero]
      exact ⟨⟨fun _ => hzero, fun _ => rfl⟩, fun request h => nomatch h⟩
    · rw [if_neg hzero]
      refine ⟨⟨fun h => Bool.noConfusion h, fun h => absurd h hzero⟩, fun request h => ?_⟩
      cases h
      exact ⟨rfl, rfl⟩
  · intro errors answer
    have hvalid : c.isValid = true ↔ errors = [] := c.isValid_iff_errors
    have hcount : c.issueCount .error = errors.length := by
      unfold Config.issueCount
      rw [List.countP_eq_length_filter]
      rfl
    refine ⟨?_, ?_, ?_, c.issueCount .error, c.issueCount .warning, hcount, c.issueCount_add, ?_⟩
    · refine c.errors_eq.trans (congrArg _ ?_)
      have hdefaults := ofChoices_defaults guild channel c.voice
      by_cases htime : c.voice.joinTimeoutSecs = 0
      · rw [if_pos htime, if_neg (fun h => hdefaults.mp h htime)]
      · rw [if_neg htime, if_pos (hdefaults.mpr htime)]
    · rw [← Bool.not_eq_true, hvalid]
    · show (if c.isValid then 0 else 1) = _
      by_cases herrors : errors = []
      · rw [if_pos herrors, if_pos (hvalid.mpr herrors)]
      · rw [if_neg herrors, if_neg (fun h => herrors (hvalid.mp h))]
    · show c.report env.configPath = _
      unfold Config.report
      simp only [List.isEmpty_iff]

end VoiceGateway
