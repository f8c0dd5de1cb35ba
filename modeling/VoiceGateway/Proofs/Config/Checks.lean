import VoiceGateway.Config

/-!
# What is wrong with settings

The checks of a set of settings do not depend on one another: the issues of a severity are
those of the checks of that severity that hit. Two of the checks find errors, one about the
shards and one about the time for a join; the others only warn.

> `Config.errors_eq`: the errors of all settings.
> `Config.isValid_iff`: which settings are usable.
> `Config.issueCount_add`: an issue is an error or a warning.
-/

namespace VoiceGateway

namespace Config

/-- The issues of a severity are found by the checks of that severity. -/
theorem filter_issues (c : Config) (s : Severity) :
    c.issues.filter (·.severity = s) = (c.checks.filter (·.2.severity = s)).filterMap
      fun (wrong, issue) => if wrong then some issue else none := by
  unfold issues
  induction c.checks with
  | nil => rfl
  | cons k checks ih =>
    obtain ⟨wrong, issue⟩ := k
    by_cases h : issue.severity = s <;> cases wrong <;> simp [h, ih]

/-- The errors of settings are about the number of shards and the time for a join. -/
theorem errors_eq (c : Config) : c.issues.filter (·.severity = .error) =
    (if c.gateway.shardCount = 0 then
      [⟨.error, "gateway.shard_count", "shard_count must be greater than 0"⟩] else []) ++
    (if c.voice.joinTimeoutSecs = 0 then
      [⟨.error, "voice.join_timeout_secs", "join timeout must be greater than 0"⟩] else []) := by
  rw [filter_issues]
  by_cases hs : c.gateway.shardCount = 0 <;> by_cases ht : c.voice.joinTimeoutSecs = 0 <;>
    simp [checks, hs, ht]

/-- Settings are usable if no issue is an error. -/
theorem isValid_iff_errors (c : Config) :
    c.isValid = true ↔ c.issues.filter (·.severity = .error) = [] := by
  unfold isValid
  rw [List.all_eq_true, List.filter_eq_nil_iff]
  simp

/-- Settings are usable if they have shards and time for a join. -/
theorem isValid_iff (c : Config) :
    c.isValid = true ↔ c.gateway.shardCount ≠ 0 ∧ c.voice.joinTimeoutSecs ≠ 0 := by
  rw [isValid_iff_errors, errors_eq, List.append_eq_nil_iff]
  by_cases hs : c.gateway.shardCount = 0 <;> by_cases ht : c.voice.joinTimeoutSecs = 0 <;>
    simp [hs, ht]

/-- An issue is an error or a warning. -/
theorem issueCount_add (c : Config) :
    c.issueCount .error + c.issueCount .warning = c.issues.length := by
  unfold issueCount
  rw [List.length_eq_countP_add_countP (·.severity == Severity.error)]
  congr 1
  refine List.countP_congr fun i _ => ?_
  cases i.severity <;> decide

end Config

theorem VoiceSettings.joinTimeout_eq_zero {v : VoiceSettings} :
    v.joinTimeout.nanos = 0 ↔ v.joinTimeoutSecs = 0 := by
  show v.joinTimeoutSecs.toNat * 1000000000 = 0 ↔ _
  rw [← UInt64.toNat_inj, Nat.mul_eq_zero]
  simp

end VoiceGateway
