import Mathlib.Algebra.Group.Nat.Defs
import VoiceGateway.CommandLine.Report
import VoiceGateway.Proofs.Toml.Document

/-!
# Settings that are shown are read back

The text of a set of settings is a document of four sections with all keys given, so
every default is overlaid by what was written. There is such a text unless a time is
longer than a signed integer of 64 bits can say; the counts, of 32 bits, always fit.

> `config_round_trip`: what is shown reads as the settings it was made from.
-/

namespace VoiceGateway

open Toml (Bare Entry Part writeInteger writeText writeFloat writeBool)

/-! ## The sections as written -/

namespace Toml.Entry

def ofNat (key : String) (n : Nat) : Entry := ⟨key, Decimal.digits n, .integer n⟩

def ofBool (key : String) (b : Bool) : Entry := ⟨key, writeBool b, .bool b⟩

def ofFloat (key : String) (x : Float) : Entry := ⟨key, writeFloat x, .float x⟩

def ofText (key : String) (s : String) : Entry := ⟨key, writeText s, .text s⟩

end Toml.Entry

def GatewaySettings.part (s : GatewaySettings) : Part :=
  ⟨"gateway", [.ofNat "shard_count" s.shardCount.toNat]⟩

def VoiceSettings.part (s : VoiceSettings) : Part :=
  ⟨"voice", [.ofNat "join_timeout_secs" s.joinTimeoutSecs.toNat, .ofBool "self_mute" s.selfMute,
    .ofBool "self_deaf" s.selfDeaf]⟩

def ReconnectSettings.part (s : ReconnectSettings) : Part :=
  ⟨"reconnect", [.ofNat "max_attempts" s.maxAttempts.toNat,
    .ofNat "initial_delay_ms" s.initialDelayMs.toNat, .ofNat "max_delay_ms" s.maxDelayMs.toNat,
    .ofFloat "backoff_factor" s.backoffFactor]⟩

def LogSettings.part (s : LogSettings) : Part :=
  ⟨"observability", [.ofText "log_filter" s.filter, .ofBool "json_logs" s.asJson]⟩

namespace Config

/-- The sections after the first. -/
def otherParts (c : Config) : List Part := [c.voice.part, c.reconnect.part, c.log.part]

/-- No time is too long to be written. -/
structure Writable (c : Config) : Prop where
  joinTimeout : c.voice.joinTimeoutSecs.toNat < 0x8000000000000000
  initialDelay : c.reconnect.initialDelayMs.toNat < 0x8000000000000000
  maxDelay : c.reconnect.maxDelayMs.toNat < 0x8000000000000000

theorem writeInteger_uint32 (n : UInt32) : writeInteger n.toNat = some (Decimal.digits n.toNat) :=
  if_pos (Nat.lt_trans n.toNat_lt (by decide))

/-- The text that settings have. -/
theorem render_of_writable {c : Config} (h : c.Writable) :
    c.render = some (String.ofList (Toml.documentText c.gateway.part c.otherParts)) := by
  unfold render
  rw [writeInteger_uint32, writeInteger_uint32]
  unfold writeInteger
  rw [if_pos h.joinTimeout, if_pos h.initialDelay, if_pos h.maxDelay]
  simp [Toml.documentText, otherParts, GatewaySettings.part, VoiceSettings.part,
    ReconnectSettings.part, LogSettings.part, Part.lines, Entry.line, Entry.ofNat, Entry.ofBool,
    Entry.ofFloat, Entry.ofText]

theorem lt_of_writeInteger {n : Nat} {cs : List Char} (h : writeInteger n = some cs) :
    n < 0x8000000000000000 := by
  unfold writeInteger at h
  split at h
  · assumption
  · cases h

theorem writable_of_render {c : Config} {s : String} (h : c.render = some s) : c.Writable := by
  unfold render at h
  obtain ⟨_, -, h⟩ := Option.bind_eq_some_iff.mp h
  obtain ⟨_, joinTimeout, h⟩ := Option.bind_eq_some_iff.mp h
  obtain ⟨_, -, h⟩ := Option.bind_eq_some_iff.mp h
  obtain ⟨_, initialDelay, h⟩ := Option.bind_eq_some_iff.mp h
  obtain ⟨_, maxDelay, -⟩ := Option.bind_eq_some_iff.mp h
  exact ⟨lt_of_writeInteger joinTimeout, lt_of_writeInteger initialDelay,
    lt_of_writeInteger maxDelay⟩

end Config

/-! ## The sections can be read -/

theorem legible_ofNat {key : String} (bare : Bare key) {n : Nat} (h : n < 0x8000000000000000) :
    (Entry.ofNat key n).Legible :=
  ⟨bare, Toml.written_integer h⟩

theorem legible_ofUInt32 {key : String} (bare : Bare key) (n : UInt32) :
    (Entry.ofNat key n.toNat).Legible :=
  legible_ofNat bare (Nat.lt_trans n.toNat_lt (by decide))

theorem legible_ofBool {key : String} (bare : Bare key) (b : Bool) : (Entry.ofBool key b).Legible :=
  ⟨bare, Toml.written_bool b⟩

theorem GatewaySettings.part_legible (s : GatewaySettings) : s.part.Legible where
  bare := show Bare "gateway" by decide +kernel
  entries := by
    intro e he
    rw [List.mem_singleton.mp he]
    exact legible_ofUInt32 (by decide +kernel) s.shardCount
  distinct := show ["shard_count"].Nodup by simp

theorem VoiceSettings.part_legible {s : VoiceSettings}
    (h : s.joinTimeoutSecs.toNat < 0x8000000000000000) : s.part.Legible where
  bare := show Bare "voice" by decide +kernel
  entries := by
    intro e he
    simp only [part, List.mem_cons, List.not_mem_nil, or_false] at he
    rcases he with rfl | rfl | rfl
    · exact legible_ofNat (by decide +kernel) h
    · exact legible_ofBool (by decide +kernel) s.selfMute
    · exact legible_ofBool (by decide +kernel) s.selfDeaf
  distinct := show ["join_timeout_secs", "self_mute", "self_deaf"].Nodup by simp

theorem ReconnectSettings.part_legible {s : ReconnectSettings}
    (initial : s.initialDelayMs.toNat < 0x8000000000000000)
    (longest : s.maxDelayMs.toNat < 0x8000000000000000)
    (ordinary : Toml.ReadsBack s.backoffFactor) : s.part.Legible where
  bare := show Bare "reconnect" by decide +kernel
  entries := by
    intro e he
    simp only [part, List.mem_cons, List.not_mem_nil, or_false] at he
    rcases he with rfl | rfl | rfl | rfl
    · exact legible_ofUInt32 (by decide +kernel) s.maxAttempts
    · exact legible_ofNat (by decide +kernel) initial
    · exact legible_ofNat (by decide +kernel) longest
    · exact ⟨show Bare "backoff_factor" by decide +kernel, Toml.written_float ordinary⟩
  distinct :=
    show ["max_attempts", "initial_delay_ms", "max_delay_ms", "backoff_factor"].Nodup by simp

theorem LogSettings.part_legible (s : LogSettings) : s.part.Legible where
  bare := show Bare "observability" by decide +kernel
  entries := by
    intro e he
    simp only [part, List.mem_cons, List.not_mem_nil, or_false] at he
    rcases he with rfl | rfl
    · exact ⟨show Bare "log_filter" by decide +kernel, Toml.written_text s.filter⟩
    · exact legible_ofBool (by decide +kernel) s.asJson
  distinct := show ["log_filter", "json_logs"].Nodup by simp

/-! ## What the sections say -/

theorem Setting.uint32_toNat (n : UInt32) : Setting.uint32 (.integer n.toNat) = .ok n := by
  have hn := n.toNat_lt
  simp only [Setting.uint32]
  rw [if_pos (by omega), Int.toNat_natCast, Nat.toUInt32_eq, UInt32.ofNat_toNat]

theorem Setting.uint64_toNat (n : UInt64) : Setting.uint64 (.integer n.toNat) = .ok n := by
  have hn := n.toNat_lt
  simp only [Setting.uint64]
  rw [if_pos (by omega), Int.toNat_natCast, Nat.toUInt64_eq, UInt64.ofNat_toNat]

theorem SectionShape.overlay_cons {σ : Type} {shape : SectionShape σ} {s s' : σ} {key : String}
    {v : Toml.Value} (known : key ∈ shape.keys) (h : shape.set s key v = .ok s')
    (entries : Toml.Table) : shape.overlay s ((key, v) :: entries) = shape.overlay s' entries := by
  refine foldlM_of_ok ?_ entries
  show (if shape.keys.contains key = true then shape.set s key v else .ok s) = .ok s'
  rw [if_pos (List.contains_iff_mem.mpr known), h]

theorem SectionShape.overlay_nil {σ : Type} (shape : SectionShape σ) (s : σ) :
    shape.overlay s [] = .ok s := rfl

theorem GatewaySettings.read_part (s : GatewaySettings) (origin : Toml.Origin) :
    shape.read (.table origin s.part.table) = .ok s := by
  have hcount : shape.set shape.blank "shard_count" (.integer s.shardCount.toNat) = .ok s := by
    simp only [shape, Setting.uint32_toNat]
    rfl
  show shape.overlay shape.blank [("shard_count", .integer s.shardCount.toNat)] = .ok s
  rw [SectionShape.overlay_cons (by decide) hcount, SectionShape.overlay_nil]

theorem VoiceSettings.read_part (s : VoiceSettings) (origin : Toml.Origin) :
    shape.read (.table origin s.part.table) = .ok s := by
  have htimeout : ∀ t : VoiceSettings,
      shape.set t "join_timeout_secs" (.integer s.joinTimeoutSecs.toNat) =
        .ok { t with joinTimeoutSecs := s.joinTimeoutSecs } := by
    intro t
    simp only [shape, reduceIte, String.reduceEq, Setting.uint64_toNat]
    rfl
  have hmute : ∀ t : VoiceSettings, shape.set t "self_mute" (.bool s.selfMute) =
      .ok { t with selfMute := s.selfMute } := by
    intro t
    simp only [shape, reduceIte, String.reduceEq, Setting.bool]
    rfl
  have hdeaf : ∀ t : VoiceSettings, shape.set t "self_deaf" (.bool s.selfDeaf) =
      .ok { t with selfDeaf := s.selfDeaf } := by
    intro t
    simp only [shape, reduceIte, String.reduceEq, Setting.bool]
    rfl
  show shape.overlay shape.blank [("join_timeout_secs", .integer s.joinTimeoutSecs.toNat),
    ("self_mute", .bool s.selfMute), ("self_deaf", .bool s.selfDeaf)] = .ok s
  rw [SectionShape.overlay_cons (by decide) (htimeout _),
    SectionShape.overlay_cons (by decide) (hmute _),
    SectionShape.overlay_cons (by decide) (hdeaf _), SectionShape.overlay_nil]

theorem ReconnectSettings.read_part (s : ReconnectSettings) (origin : Toml.Origin) :
    shape.read (.table origin s.part.table) = .ok s := by
  have hattempts : ∀ t : ReconnectSettings,
      shape.set t "max_attempts" (.integer s.maxAttempts.toNat) =
        .ok { t with maxAttempts := s.maxAttempts } := by
    intro t
    simp only [shape, reduceIte, String.reduceEq, Setting.uint32_toNat]
    rfl
  have hinitial : ∀ t : ReconnectSettings,
      shape.set t "initial_delay_ms" (.integer s.initialDelayMs.toNat) =
        .ok { t with initialDelayMs := s.initialDelayMs } := by
    intro t
    simp only [shape, reduceIte, String.reduceEq, Setting.uint64_toNat]
    rfl
  have hlongest : ∀ t : ReconnectSettings,
      shape.set t "max_delay_ms" (.integer s.maxDelayMs.toNat) =
        .ok { t with maxDelayMs := s.maxDelayMs } := by
    intro t
    simp only [shape, reduceIte, String.reduceEq, Setting.uint64_toNat]
    rfl
  have hfactor : ∀ t : ReconnectSettings,
      shape.set t "backoff_factor" (.float s.backoffFactor) =
        .ok { t with backoffFactor := s.backoffFactor } := by
    intro t
    simp only [shape, reduceIte, String.reduceEq, Setting.float]
    rfl
  show shape.overlay shape.blank [("max_attempts", .integer s.maxAttempts.toNat),
    ("initial_delay_ms", .integer s.initialDelayMs.toNat),
    ("max_delay_ms", .integer s.maxDelayMs.toNat),
    ("backoff_factor", .float s.backoffFactor)] = .ok s
  rw [SectionShape.overlay_cons (by decide) (hattempts _),
    SectionShape.overlay_cons (by decide) (hinitial _),
    SectionShape.overlay_cons (by decide) (hlongest _),
    SectionShape.overlay_cons (by decide) (hfactor _), SectionShape.overlay_nil]

theorem LogSettings.read_part (s : LogSettings) (origin : Toml.Origin) :
    shape.read (.table origin s.part.table) = .ok s := by
  have hfilter : ∀ t : LogSettings, shape.set t "log_filter" (.text s.filter) =
      .ok { t with filter := s.filter } := by
    intro t
    simp only [shape, reduceIte, Setting.text]
    rfl
  have hjson : ∀ t : LogSettings, shape.set t "json_logs" (.bool s.asJson) =
      .ok { t with asJson := s.asJson } := by
    intro t
    simp only [shape, reduceIte, String.reduceEq, Setting.bool]
    rfl
  show shape.overlay shape.blank
    [("log_filter", .text s.filter), ("json_logs", .bool s.asJson)] = .ok s
  rw [SectionShape.overlay_cons (by decide) (hfilter _),
    SectionShape.overlay_cons (by decide) (hjson _), SectionShape.overlay_nil]

namespace Config

theorem ofTable_step {c c' : Config} {name : String} {v : Toml.Value}
    (h : c.readSection name v = .ok c') (t : Toml.Table) :
    List.foldlM (fun c (name, v) => c.readSection name v) c ((name, v) :: t) =
      List.foldlM (fun c (name, v) => c.readSection name v) c' t :=
  foldlM_of_ok h t

/-- Every section replaces its defaults altogether. -/
theorem ofTable_parts (c : Config) :
    ofTable (Toml.documentTable (c.gateway.part :: c.otherParts)) = .ok c := by
  have hgateway : ∀ d : Config,
      d.readSection c.gateway.part.name (.table .header c.gateway.part.table) =
        .ok { d with gateway := c.gateway } := by
    intro d
    show d.readSection "gateway" _ = _
    simp only [readSection, reduceIte, GatewaySettings.read_part]
    rfl
  have hvoice : ∀ d : Config,
      d.readSection c.voice.part.name (.table .header c.voice.part.table) =
        .ok { d with voice := c.voice } := by
    intro d
    show d.readSection "voice" _ = _
    simp only [readSection, reduceIte, String.reduceEq, VoiceSettings.read_part]
    rfl
  have hreconnect : ∀ d : Config,
      d.readSection c.reconnect.part.name (.table .header c.reconnect.part.table) =
        .ok { d with reconnect := c.reconnect } := by
    intro d
    show d.readSection "reconnect" _ = _
    simp only [readSection, reduceIte, String.reduceEq, ReconnectSettings.read_part]
    rfl
  have hlog : ∀ d : Config, d.readSection c.log.part.name (.table .header c.log.part.table) =
      .ok { d with log := c.log } := by
    intro d
    show d.readSection "observability" _ = _
    simp only [readSection, reduceIte, String.reduceEq, LogSettings.read_part]
    rfl
  unfold ofTable Toml.documentTable otherParts
  rw [List.map_cons, ofTable_step (hgateway _), List.map_cons, ofTable_step (hvoice _),
    List.map_cons, ofTable_step (hreconnect _), List.map_cons, ofTable_step (hlog _)]
  rfl

theorem parts_legible {c : Config} (h : c.Writable)
    (ordinary : Toml.ReadsBack c.reconnect.backoffFactor) :
    ∀ p ∈ c.gateway.part :: c.otherParts, p.Legible := by
  intro p hp
  simp only [otherParts, List.mem_cons, List.not_mem_nil, or_false] at hp
  rcases hp with rfl | rfl | rfl | rfl
  · exact c.gateway.part_legible
  · exact VoiceSettings.part_legible h.joinTimeout
  · exact ReconnectSettings.part_legible h.initialDelay h.maxDelay ordinary
  · exact c.log.part_legible

theorem parts_distinct (c : Config) : ((c.gateway.part :: c.otherParts).map (·.name)).Nodup := by
  show ["gateway", "voice", "reconnect", "observability"].Nodup
  simp

theorem ofText_of_read {c : Config} {s : String} {t : Toml.Table} (hread : Toml.read s = some t)
    (h : ofTable t = .ok c) : ofText s = .ok c := by
  unfold ofText
  simp only [hread, h]

theorem ofText_render {c : Config} (ordinary : Toml.ReadsBack c.reconnect.backoffFactor)
    {s : String} (h : c.render = some s) : ofText s = .ok c := by
  have hwritable := writable_of_render h
  have hread := Toml.read_document c.gateway.part c.otherParts (parts_legible hwritable ordinary)
    c.parts_distinct
  rw [render_of_writable hwritable] at h
  rw [Option.some.inj h] at hread
  exact ofText_of_read hread c.ofTable_parts

end Config

theorem fromUTF8?_toUTF8 (s : String) : String.fromUTF8? s.toUTF8 = some s := by
  rw [String.toUTF8_eq_toByteArray]
  exact dif_pos s.isValidUTF8

/-- What is found in a file with a text that reads as settings. -/
theorem load_file {s : String} {c : Config} (h : Config.ofText s = .ok c) :
    (ConfigSource.file s.toUTF8).load = .ok c := by
  unfold ConfigSource.load
  simp only [fromUTF8?_toUTF8, h]

theorem showConfig_printed {c : Config} {env : Environment} {s : String} :
    Command.showConfig.runWith c env = .printed s ↔ c.render = some s := by
  unfold Command.runWith
  cases h : c.render with
  | none => simp [Report.printed, Report.failed]
  | some text => simp [Report.printed]

/-- Settings can be shown unless a time needs all its 64 bits. What is shown reads as the
settings, and checked from a file they are reported on as before. -/
theorem config_round_trip (c : Config) (env : Environment)
    (ordinary : Toml.ReadsBack c.reconnect.backoffFactor) :
    ((∃ s, Command.showConfig.runWith c env = .printed s) ↔
      c.voice.joinTimeoutSecs.toNat ≤ 2 ^ 63 - 1 ∧
        c.reconnect.initialDelayMs.toNat ≤ 2 ^ 63 - 1 ∧
        c.reconnect.maxDelayMs.toNat ≤ 2 ^ 63 - 1) ∧
    ∀ s, Command.showConfig.runWith c env = .printed s →
      Config.ofText s = .ok c ∧
      Command.validateConfig.run { env with source := .file s.toUTF8 } =
        Command.validateConfig.runWith c env := by
  refine ⟨⟨?_, ?_⟩, ?_⟩
  · rintro ⟨s, h⟩
    have hwritable := Config.writable_of_render (showConfig_printed.mp h)
    exact ⟨Nat.le_of_lt_succ hwritable.joinTimeout, Nat.le_of_lt_succ hwritable.initialDelay,
      Nat.le_of_lt_succ hwritable.maxDelay⟩
  · rintro ⟨joinTimeout, initialDelay, maxDelay⟩
    have hwritable : c.Writable := ⟨Nat.lt_succ_of_le joinTimeout, Nat.lt_succ_of_le initialDelay,
      Nat.lt_succ_of_le maxDelay⟩
    exact ⟨_, showConfig_printed.mpr (Config.render_of_writable hwritable)⟩
  · intro s h
    have hread := Config.ofText_render ordinary (showConfig_printed.mp h)
    refine ⟨hread, ?_⟩
    simp only [Command.run, load_file hread]
    rfl

/-- Settings whose filter fits no form of string without escapes. -/
def Config.quoted : Config where
  voice := { joinTimeoutSecs := 9223372036854775807 }
  reconnect := { backoffFactor := 2.5 }
  log := { filter := "\n\"\"\"\\\t\r\x01\x7f\x27\x27\x27\"" }

theorem config_round_trip_of_quotes :
    Toml.ReadsBack 2.5 ∧
    ∃ s, Command.showConfig.runWith .quoted ⟨"", .missing, ""⟩ = .printed s ∧
      Config.ofText s = .ok .quoted := by
  have hfactor : Toml.ReadsBack 2.5 := by
    intro d _ _
    have hwritten : writeFloat 2.5 = ['2', '.', '5'] := by decide +kernel
    rw [hwritten]
    rfl
  have hround := config_round_trip .quoted ⟨"", .missing, ""⟩ hfactor
  obtain ⟨s, hs⟩ := hround.1.mpr ⟨by decide, by decide, by decide⟩
  exact ⟨hfactor, s, hs, (hround.2 s hs).1⟩

end VoiceGateway
