import VoiceGateway.Config
import VoiceGateway.Mismatch
import VoiceGateway.Toml.Reader

/-!
# Settings from TOML

A section that is given starts with the default of each of its keys: a key that
is given replaces the default, one that is not leaves it, and unknown keys are
passed over. A section may also be an array, which gives its first fields in
order. The first value that does not fit is reported.
-/

namespace VoiceGateway

open Toml (Value)

/-- How doubles are printed in diagnostics about settings. -/
def Config.floatStyle : FloatStyle := ⟨.up, none, "NaN"⟩

/-- What a value is called when it does not fit. -/
def foundValue : Value → Found
  | .text s => .text s
  | .integer i => .integer i
  | .float x => .float x
  | .bool b => .bool b
  | .moment _ => .map
  | .array _ => .sequence
  | .table _ _ => .map
  | .tables _ => .sequence

namespace Setting

def uint32 : Value → Except Mismatch UInt32
  | .integer i =>
    if 0 ≤ i ∧ i < 0x100000000 then .ok i.toNat.toUInt32 else .error (.outOfRange i "u32")
  | v => .error (.wrongType (foundValue v) "u32")

def uint64 : Value → Except Mismatch UInt64
  | .integer i =>
    if 0 ≤ i ∧ i < 0x10000000000000000 then .ok i.toNat.toUInt64
    else .error (.outOfRange i "u64")
  | v => .error (.wrongType (foundValue v) "u64")

/-- A double; an integer stands for the double nearest to it. -/
def float : Value → Except Mismatch Float
  | .float x => .ok x
  | .integer i => .ok (Float.ofInt i)
  | v => .error (.wrongType (foundValue v) "f64")

def bool : Value → Except Mismatch Bool
  | .bool b => .ok b
  | v => .error (.wrongType (foundValue v) "a boolean")

def text : Value → Except Mismatch String
  | .text s => .ok s
  | v => .error (.wrongType (foundValue v) "a string")

end Setting

/-- A section: what it is called in diagnostics, its keys in order, the section
that gives none of them, and how a value is set. -/
structure SectionShape (σ : Type) where
  name : String
  keys : List String
  blank : σ
  set : σ → String → Value → Except Mismatch σ

namespace SectionShape

/-- Sets the known keys among the given ones, in order. -/
def overlay {σ : Type} (shape : SectionShape σ) (section₀ : σ) (entries : Toml.Table) :
    Except Mismatch σ :=
  entries.foldlM
    (fun s (key, v) => if shape.keys.contains key then shape.set s key v else .ok s) section₀

/-- Reads a section; keys that are not given have their defaults. -/
def read {σ : Type} (shape : SectionShape σ) : Value → Except Mismatch σ
  | .table _ entries => shape.overlay shape.blank entries
  -- A date stands for a table without any of the known keys.
  | .moment _ => .ok shape.blank
  | .array items => shape.overlay shape.blank (shape.keys.zip items)
  | .tables rows => shape.overlay shape.blank (shape.keys.zip (rows.map (.table .header)))
  | v => .error (.wrongType (foundValue v) ("struct " ++ shape.name))

end SectionShape

def GatewaySettings.shape : SectionShape GatewaySettings where
  name := "GatewayConfig"
  keys := ["shard_count"]
  blank := { shardCount := defaultShardCount }
  set s _ v := (Setting.uint32 v).map fun n => { s with shardCount := n }

def VoiceSettings.shape : SectionShape VoiceSettings where
  name := "VoiceConfig"
  keys := ["join_timeout_secs", "self_mute", "self_deaf"]
  blank := { joinTimeoutSecs := defaultJoinTimeoutSecs, selfMute := false, selfDeaf := false }
  set s key v :=
    if key = "join_timeout_secs" then
      (Setting.uint64 v).map fun n => { s with joinTimeoutSecs := n }
    else if key = "self_mute" then (Setting.bool v).map fun b => { s with selfMute := b }
    else (Setting.bool v).map fun b => { s with selfDeaf := b }

def ReconnectSettings.shape : SectionShape ReconnectSettings where
  name := "ReconnectConfig"
  keys := ["max_attempts", "initial_delay_ms", "max_delay_ms", "backoff_factor"]
  blank :=
    { maxAttempts := defaultMaxAttempts, initialDelayMs := defaultInitialDelayMs,
      maxDelayMs := defaultMaxDelayMs, backoffFactor := defaultBackoffFactor }
  set s key v :=
    if key = "max_attempts" then (Setting.uint32 v).map fun n => { s with maxAttempts := n }
    else if key = "initial_delay_ms" then
      (Setting.uint64 v).map fun n => { s with initialDelayMs := n }
    else if key = "max_delay_ms" then (Setting.uint64 v).map fun n => { s with maxDelayMs := n }
    else (Setting.float v).map fun x => { s with backoffFactor := x }

def LogSettings.shape : SectionShape LogSettings where
  name := "ObservabilityConfig"
  keys := ["log_filter", "json_logs"]
  blank := { filter := defaultFilter, asJson := false }
  set s key v :=
    if key = "log_filter" then (Setting.text v).map fun t => { s with filter := t }
    else (Setting.bool v).map fun b => { s with asJson := b }

namespace Config

/-- Reads one section; a section of unknown name is passed over. -/
def readSection (c : Config) (name : String) (v : Value) : Except Mismatch Config :=
  if name = "gateway" then
    (GatewaySettings.shape.read v).map fun s => { c with gateway := s }
  else if name = "voice" then
    (VoiceSettings.shape.read v).map fun s => { c with voice := s }
  else if name = "reconnect" then
    (ReconnectSettings.shape.read v).map fun s => { c with reconnect := s }
  else if name = "observability" then
    (LogSettings.shape.read v).map fun s => { c with log := s }
  else .ok c

/-- The settings that a document gives, on top of the defaults. -/
def ofTable (t : Toml.Table) : Except Mismatch Config :=
  t.foldlM (fun c (name, v) => c.readSection name v) {}

/-- Why settings could not be read. -/
inductive ReadError where
  | notToml
  | mismatch (m : Mismatch)

/-- The settings of a text. -/
def ofText (s : String) : Except ReadError Config :=
  match Toml.read s with
  | none => .error .notToml
  | some t =>
    match ofTable t with
    | .error m => .error (.mismatch m)
    | .ok c => .ok c

end Config

end VoiceGateway
