import VoiceGateway.Proofs.Config.RoundTrip
import VoiceGateway.Proofs.Toml.Distinct

/-!
# What is given overlays the defaults

A setting is what the document gives for its key, and its default otherwise, whatever else
stands in the document: other keys and sections, known or not, in any order. The keys of a
section are those of its slots (`Lays`): a key changes its own slot and no other, and as no
key comes twice, each slot ends with the one value given for it (`Lays.overlay`). The
sections are the slots of the settings as a whole, so the same lemma covers the document.

A section that gives some of its keys and a section that is missing take their defaults
from different places; `Section.blank` says that these agree.

> `settings_overlay_defaults`: a document that fits has settings, each given or default,
> and what a section gives besides settings makes no difference.
-/

namespace VoiceGateway

open Toml (Table Value)

/-! ## Kinds of values -/

/-- A kind of value: what it is for a value in a document to say a value of this kind, and
how the value is read. -/
structure Setting.Kind (α : Type) where
  Says : Value → α → Prop
  read : Value → Except Mismatch α
  read_of_says : ∀ {v a}, Says v a → read v = .ok a

namespace Setting.Kind

variable {α σ : Type}

def uint32 : Kind UInt32 where
  Says v n := v = .integer n.toNat
  read := Setting.uint32
  read_of_says := by
    rintro _ n rfl
    exact uint32_toNat n

def uint64 : Kind UInt64 where
  Says v n := v = .integer n.toNat
  read := Setting.uint64
  read_of_says := by
    rintro _ n rfl
    exact uint64_toNat n

/-- An integer says the double nearest to it. -/
def float : Kind Float where
  Says v x := v = .float x ∨ ∃ i, v = .integer i ∧ x = Float.ofInt i
  read := Setting.float
  read_of_says := by
    rintro _ x (rfl | ⟨i, rfl, rfl⟩)
    · rfl
    · rfl

def bool : Kind Bool where
  Says v b := v = .bool b
  read := Setting.bool
  read_of_says := by
    rintro _ b rfl
    rfl

def text : Kind String where
  Says v s := v = .text s
  read := Setting.text
  read_of_says := by
    rintro _ s rfl
    rfl

/-- A section of some shape, given as a table. -/
def table (shape : SectionShape σ) : Kind σ where
  Says v s := ∃ origin entries,
    v = .table origin entries ∧ shape.overlay shape.blank entries = .ok s
  read := shape.read
  read_of_says := by
    rintro _ s ⟨origin, entries, rfl, h⟩
    exact h

/-- The value is the one that is given, or else the default. -/
def Overlays (kind : Kind α) (a₀ : α) : Option Value → α → Prop
  | none, a => a = a₀
  | some v, a => kind.Says v a

theorem says_unique {kind : Kind α} {v : Value} {a b : α} (ha : kind.Says v a)
    (hb : kind.read v = .ok b) : a = b :=
  Except.ok.inj ((kind.read_of_says ha).symm.trans hb)

theorem Overlays.unique {kind : Kind α} {a₀ a b : α} {given : Option Value}
    (ha : kind.Overlays a₀ given a) (hb : kind.Overlays a₀ given b) : a = b := by
  cases given with
  | none => exact Eq.trans ha (Eq.symm hb)
  | some v => exact says_unique ha (kind.read_of_says hb)

end Setting.Kind

/-! ## The keys of a section -/

/-- A place in a section that a key is for. -/
structure Slot (σ : Type) where
  {α : Type}
  key : String
  kind : Setting.Kind α
  get : σ → α

/-- The keys are those of the slots, and each changes its slot only: to what is read. -/
structure Lays {σ : Type} (shape : SectionShape σ) (slots : List (Slot σ)) : Prop where
  keys : shape.keys = slots.map (·.key)
  own : ∀ x ∈ slots, ∀ s v, (shape.set s x.key v).map x.get = x.kind.read v
  other : ∀ key ∈ shape.keys, ∀ s v s', shape.set s key v = .ok s' →
    ∀ x ∈ slots, x.key ≠ key → x.get s' = x.get s

theorem SectionShape.overlay_cons_unknown {σ : Type} {shape : SectionShape σ} {key : String}
    (unknown : key ∉ shape.keys) (s : σ) (v : Value) (entries : Table) :
    shape.overlay s ((key, v) :: entries) = shape.overlay s entries :=
  foldlM_of_ok (if_neg (mt List.contains_iff_mem.mp unknown)) entries

namespace Lays

variable {σ : Type} {shape : SectionShape σ} {slots : List (Slot σ)}

/-- One entry: its slot has what it says, the others are as before. -/
theorem step (h : Lays shape slots) (key : String) (v : Value)
    (fits : ∀ x ∈ slots, x.key = key → ∃ a, x.kind.Says v a) (s : σ) :
    ∃ s₁, (∀ entries, shape.overlay s ((key, v) :: entries) = shape.overlay s₁ entries) ∧
      ∀ x ∈ slots, (x.key = key → x.kind.Says v (x.get s₁)) ∧
        (x.key ≠ key → x.get s₁ = x.get s) := by
  by_cases known : key ∈ shape.keys
  · obtain ⟨y, hy, rfl⟩ := List.mem_map.mp (h.keys ▸ known)
    obtain ⟨a, ha⟩ := fits y hy rfl
    obtain ⟨s₁, hset, -⟩ := map_eq_ok.mp ((h.own y hy s v).trans (y.kind.read_of_says ha))
    refine ⟨s₁, SectionShape.overlay_cons known hset, fun x hx => ⟨fun hkey => ?_, fun hne => ?_⟩⟩
    · obtain ⟨b, hb⟩ := fits x hx hkey
      have hread : x.kind.read v = .ok (x.get s₁) := by
        rw [← h.own x hx s v, hkey, hset]
        rfl
      exact Setting.Kind.says_unique hb hread ▸ hb
    · exact h.other y.key known s v s₁ hset x hx hne
  · refine ⟨s, SectionShape.overlay_cons_unknown known s v,
      fun x hx => ⟨fun hkey => ?_, fun _ => rfl⟩⟩
    exact absurd (h.keys ▸ List.mem_map.mpr ⟨x, hx, hkey⟩) known

/-- All entries, by induction: each slot has what is given for it. -/
theorem overlay (h : Lays shape slots) {entries : Table} (keys : (entries.map (·.1)).Nodup)
    (fits : ∀ x ∈ slots, ∀ v, entries.lookup x.key = some v → ∃ a, x.kind.Says v a) (s : σ) :
    ∃ s', shape.overlay s entries = .ok s' ∧
      ∀ x ∈ slots, x.kind.Overlays (x.get s) (entries.lookup x.key) (x.get s') := by
  induction entries generalizing s with
  | nil => exact ⟨s, rfl, fun _ _ => rfl⟩
  | cons e entries ih =>
    obtain ⟨key, v⟩ := e
    rw [List.map_cons, List.nodup_cons] at keys
    have hlookup : ∀ x : Slot σ, x.key ≠ key →
        List.lookup x.key ((key, v) :: entries) = entries.lookup x.key := fun x hne => by
      rw [List.lookup_cons, beq_false_of_ne hne]
    have hfresh : entries.lookup key = none := lookup_eq_none.mpr keys.1
    have hfits : ∀ x ∈ slots, ∀ w, entries.lookup x.key = some w → ∃ a, x.kind.Says w a := by
      intro x hx w hw
      have hne : x.key ≠ key := by
        intro hkey
        rw [hkey, hfresh] at hw
        cases hw
      exact fits x hx w ((hlookup x hne).trans hw)
    obtain ⟨s₁, hstep, hslots⟩ := h.step key v
      (fun x hx hkey => fits x hx v (hkey ▸ List.lookup_cons_self)) s
    obtain ⟨s', hs', hrest⟩ := ih keys.2 hfits s₁
    refine ⟨s', (hstep entries).trans hs', fun x hx => ?_⟩
    have hx' := hrest x hx
    by_cases hkey : x.key = key
    -- The key stands here and not again, so what is set now stays.
    · rw [hkey, hfresh] at hx'
      have hsame : x.get s' = x.get s₁ := hx'
      rw [hkey, List.lookup_cons_self]
      exact hsame ▸ (hslots x hx).1 hkey
    · rw [hlookup x hkey, ← (hslots x hx).2 hkey]
      exact hx'

end Lays

/-! ## The four sections -/

def GatewaySettings.slots : List (Slot GatewaySettings) :=
  [⟨"shard_count", .uint32, (·.shardCount)⟩]

def VoiceSettings.slots : List (Slot VoiceSettings) :=
  [⟨"join_timeout_secs", .uint64, (·.joinTimeoutSecs)⟩, ⟨"self_mute", .bool, (·.selfMute)⟩,
    ⟨"self_deaf", .bool, (·.selfDeaf)⟩]

def ReconnectSettings.slots : List (Slot ReconnectSettings) :=
  [⟨"max_attempts", .uint32, (·.maxAttempts)⟩, ⟨"initial_delay_ms", .uint64, (·.initialDelayMs)⟩,
    ⟨"max_delay_ms", .uint64, (·.maxDelayMs)⟩, ⟨"backoff_factor", .float, (·.backoffFactor)⟩]

def LogSettings.slots : List (Slot LogSettings) :=
  [⟨"log_filter", .text, (·.filter)⟩, ⟨"json_logs", .bool, (·.asJson)⟩]

theorem GatewaySettings.lays : Lays shape slots where
  keys := rfl
  own := by
    intro x hx s v
    rw [List.mem_singleton.mp hx]
    exact map_map_eq_self (fun _ => rfl) _
  other := by
    intro key hkey _ _ _ _ x hx hne
    rw [List.mem_singleton.mp hx, List.mem_singleton.mp hkey] at hne
    exact absurd rfl hne

theorem VoiceSettings.lays : Lays shape slots where
  keys := rfl
  own := by
    intro x hx s v
    -- one case for each slot
    simp only [slots, List.mem_cons, List.not_mem_nil, or_false] at hx
    rcases hx with rfl | rfl | rfl
    all_goals
      simp only [shape, reduceIte, String.reduceEq]
      exact map_map_eq_self (fun _ => rfl) _
  other := by
    intro key hkey s v s' h
    simp only [shape, List.mem_cons, List.not_mem_nil, or_false] at hkey
    -- one case for each key, and in it all slots but its own
    rcases hkey with rfl | rfl | rfl
    all_goals
      simp only [shape, reduceIte, String.reduceEq] at h
      obtain ⟨_, -, rfl⟩ := map_eq_ok.mp h
      simp [slots]

theorem ReconnectSettings.lays : Lays shape slots where
  keys := rfl
  own := by
    intro x hx s v
    simp only [slots, List.mem_cons, List.not_mem_nil, or_false] at hx
    rcases hx with rfl | rfl | rfl | rfl
    all_goals
      simp only [shape, reduceIte, String.reduceEq]
      exact map_map_eq_self (fun _ => rfl) _
  other := by
    intro key hkey s v s' h
    simp only [shape, List.mem_cons, List.not_mem_nil, or_false] at hkey
    rcases hkey with rfl | rfl | rfl | rfl
    all_goals
      simp only [shape, reduceIte, String.reduceEq] at h
      obtain ⟨_, -, rfl⟩ := map_eq_ok.mp h
      simp [slots]

theorem LogSettings.lays : Lays shape slots where
  keys := rfl
  own := by
    intro x hx s v
    simp only [slots, List.mem_cons, List.not_mem_nil, or_false] at hx
    rcases hx with rfl | rfl
    all_goals
      simp only [shape, reduceIte, String.reduceEq]
      exact map_map_eq_self (fun _ => rfl) _
  other := by
    intro key hkey s v s' h
    simp only [shape, List.mem_cons, List.not_mem_nil, or_false] at hkey
    rcases hkey with rfl | rfl
    all_goals
      simp only [shape, reduceIte, String.reduceEq] at h
      obtain ⟨_, -, rfl⟩ := map_eq_ok.mp h
      simp [slots]

/-- A section of the settings with its slots. -/
structure Section where
  {σ : Type}
  name : String
  shape : SectionShape σ
  slots : List (Slot σ)
  get : Config → σ
  lays : Lays shape slots
  /-- A section without a known key is as if it were missing. -/
  blank : shape.blank = get {}

def sections : List Section :=
  [⟨"gateway", _, _, (·.gateway), GatewaySettings.lays, rfl⟩,
    ⟨"voice", _, _, (·.voice), VoiceSettings.lays, rfl⟩,
    ⟨"reconnect", _, _, (·.reconnect), ReconnectSettings.lays, rfl⟩,
    ⟨"observability", _, _, (·.log), LogSettings.lays, rfl⟩]

namespace Config

/-- All settings, as a section whose keys are the names of the sections. -/
def shape : SectionShape Config where
  name := "Config"
  keys := sections.map (·.name)
  blank := {}
  set := readSection

theorem ofTable_eq_overlay (t : Table) : ofTable t = shape.overlay {} t := by
  unfold ofTable SectionShape.overlay
  congr
  funext c ⟨name, v⟩
  show c.readSection name v = if shape.keys.contains name then c.readSection name v else .ok c
  split
  · rfl
  · next unknown =>
    have hname : name ∉ shape.keys := mt List.contains_iff_mem.mpr unknown
    simp only [shape, sections, List.map_cons, List.map_nil, List.mem_cons, List.not_mem_nil,
      or_false, not_or] at hname
    simp only [readSection, hname, reduceIte]

def slots : List (Slot Config) := sections.map fun p => ⟨p.name, .table p.shape, p.get⟩

theorem lays : Lays shape slots where
  keys := rfl
  own := by
    intro x hx s v
    simp only [slots, sections, List.map_cons, List.map_nil, List.mem_cons, List.not_mem_nil,
      or_false] at hx
    rcases hx with rfl | rfl | rfl | rfl
    all_goals
      simp only [shape, readSection, reduceIte, String.reduceEq]
      exact map_map_eq_self (fun _ => rfl) _
  other := by
    intro key hkey s v s' h
    simp only [shape, sections, List.map_cons, List.map_nil, List.mem_cons, List.not_mem_nil,
      or_false] at hkey
    rcases hkey with rfl | rfl | rfl | rfl
    all_goals
      simp only [shape, readSection, reduceIte, String.reduceEq] at h
      obtain ⟨_, -, rfl⟩ := map_eq_ok.mp h
      simp [slots, sections]

end Config

/-! ## The settings -/

/-- A setting, by the section and the key that a document gives it under. -/
structure Setting where
  {α : Type}
  part : String
  key : String
  kind : Setting.Kind α
  get : Config → α

def Section.settings (p : Section) : List Setting :=
  p.slots.map fun x => ⟨p.name, x.key, x.kind, fun c => x.get (p.get c)⟩

def settings : List Setting := sections.flatMap Section.settings

example : settings.map (fun x => (x.part, x.key)) =
    [("gateway", "shard_count"), ("voice", "join_timeout_secs"), ("voice", "self_mute"),
      ("voice", "self_deaf"), ("reconnect", "max_attempts"), ("reconnect", "initial_delay_ms"),
      ("reconnect", "max_delay_ms"), ("reconnect", "backoff_factor"),
      ("observability", "log_filter"), ("observability", "json_logs")] := rfl

/-- What a document gives for the setting. -/
def Setting.given (x : Setting) (t : Table) : Option Value :=
  match t.lookup x.part with
  | some (.table _ entries) => entries.lookup x.key
  | _ => none

/-- What is given is of the right type and range: the sections are tables, and the settings
say something of their kind. -/
structure Fits (t : Table) : Prop where
  tables : ∀ p ∈ sections, ∀ v, t.lookup p.name = some v →
    ∃ origin entries, v = .table origin entries
  values : ∀ x ∈ settings, ∀ v, x.given t = some v → ∃ a, x.kind.Says v a

theorem mem_settings {p : Section} (hp : p ∈ sections) {y : Slot p.σ} (hy : y ∈ p.slots) :
    (⟨p.name, y.key, y.kind, fun c => y.get (p.get c)⟩ : Setting) ∈ settings :=
  List.mem_flatMap.mpr ⟨p, hp, List.mem_map.mpr ⟨y, hy, rfl⟩⟩

theorem Setting.given_table {x : Setting} {t : Table} {origin : Toml.Origin} {entries : Table}
    (h : t.lookup x.part = some (.table origin entries)) : x.given t = entries.lookup x.key := by
  unfold given
  rw [h]

theorem Setting.given_missing {x : Setting} {t : Table} (h : t.lookup x.part = none) :
    x.given t = none := by
  unfold given
  rw [h]

/-- The settings of a section that is given. -/
theorem Section.overlay {p : Section} (hp : p ∈ sections) {t : Table} (distinct : Toml.Distinct t)
    (fits : Fits t) {origin : Toml.Origin} {entries : Table}
    (h : t.lookup p.name = some (.table origin entries)) :
    ∃ s, p.shape.overlay p.shape.blank entries = .ok s ∧
      ∀ y ∈ p.slots, y.kind.Overlays (y.get (p.get {})) (entries.lookup y.key) (y.get s) := by
  have hentries : Toml.Distinct entries := distinct.value (mem_of_lookup h)
  have hfits : ∀ y ∈ p.slots, ∀ v, entries.lookup y.key = some v → ∃ a, y.kind.Says v a :=
    fun y hy v hv => fits.values _ (mem_settings hp hy) v ((Setting.given_table h).trans hv)
  rw [← p.blank]
  exact p.lays.overlay hentries.keys hfits p.shape.blank

namespace Config

/-- The settings of a document, section by section. -/
theorem ofTable_overlays {t : Table} (distinct : Toml.Distinct t) (fits : Fits t) :
    ∃ c, ofTable t = .ok c ∧
      ∀ x ∈ settings, x.kind.Overlays (x.get {}) (x.given t) (x.get c) := by
  have hfits : ∀ x ∈ slots, ∀ v, t.lookup x.key = some v → ∃ a, x.kind.Says v a := by
    intro x hx v hv
    obtain ⟨p, hp, rfl⟩ := List.mem_map.mp hx
    obtain ⟨origin, entries, rfl⟩ := fits.tables p hp v hv
    obtain ⟨s, hs, -⟩ := Section.overlay hp distinct fits hv
    exact ⟨s, origin, entries, rfl, hs⟩
  -- Once for the document, with the sections as its slots, and then for the section.
  obtain ⟨c, hc, hslots⟩ := lays.overlay distinct.keys hfits {}
  refine ⟨c, (ofTable_eq_overlay t).trans hc, fun x hx => ?_⟩
  obtain ⟨p, hp, hx⟩ := List.mem_flatMap.mp hx
  obtain ⟨y, hy, rfl⟩ := List.mem_map.mp hx
  have hsection : (Setting.Kind.table p.shape).Overlays (p.get {}) (t.lookup p.name) (p.get c) :=
    hslots _ (List.mem_map.mpr ⟨p, hp, rfl⟩)
  cases hlookup : t.lookup p.name with
  | none =>
    rw [hlookup] at hsection
    rw [Setting.given_missing hlookup]
    exact congrArg y.get hsection
  | some v =>
    rw [hlookup] at hsection
    obtain ⟨origin, entries, rfl, hread⟩ := hsection
    obtain ⟨s, hs, hslots⟩ := Section.overlay hp distinct fits hlookup
    obtain rfl := Except.ok.inj (hread.symm.trans hs)
    rw [Setting.given_table hlookup]
    exact hslots y hy

/-- Settings that agree one by one are the same. -/
theorem ext_of_settings {c c' : Config} (h : ∀ x ∈ settings, x.get c = x.get c') : c = c' := by
  obtain ⟨⟨_⟩, ⟨_, _, _⟩, ⟨_, _, _, _⟩, ⟨_, _⟩⟩ := c
  obtain ⟨⟨_⟩, ⟨_, _, _⟩, ⟨_, _, _, _⟩, ⟨_, _⟩⟩ := c'
  simp [settings, sections, Section.settings, GatewaySettings.slots, VoiceSettings.slots,
    ReconnectSettings.slots, LogSettings.slots] at h
  simp [h]

/-- Documents that give the same have the same settings. -/
theorem ofText_congr {s s' : String} {t t' : Table} (parsed : Toml.read s = some t)
    (parsed' : Toml.read s' = some t') (fits : Fits t) (fits' : Fits t')
    (same : ∀ x ∈ settings, x.given t' = x.given t) : ofText s' = ofText s := by
  obtain ⟨c, hc, hgiven⟩ := ofTable_overlays (Toml.read_distinct parsed) fits
  obtain ⟨c', hc', hgiven'⟩ := ofTable_overlays (Toml.read_distinct parsed') fits'
  have heq : c' = c := ext_of_settings fun x hx =>
    Setting.Kind.Overlays.unique (same x hx ▸ hgiven' x hx) (hgiven x hx)
  rw [ofText_of_read parsed hc, ofText_of_read parsed' hc', heq]

end Config

/-! ## Sections that give no setting -/

/-- A section is missing, or it is empty, or it has unknown keys only. -/
inductive Silent (part : String) (t : Table) : Prop
  | missing (h : t.lookup part = none)
  | empty (origin : Toml.Origin) (h : t.lookup part = some (.table origin []))
  | unknown (origin : Toml.Origin) (entries : Table)
    (h : t.lookup part = some (.table origin entries))
    (unknown : ∀ x ∈ settings, x.part = part → x.key ∉ entries.map (·.1))

namespace Silent

variable {part : String} {t t' : Table}

theorem given_eq_none (h : Silent part t) {x : Setting} (hx : x ∈ settings)
    (hpart : x.part = part) : x.given t = none := by
  subst hpart
  cases h with
  | missing h => exact Setting.given_missing h
  | empty origin h => exact Setting.given_table h
  | unknown origin entries h unknown =>
    rw [Setting.given_table h]
    exact lookup_eq_none.mpr (unknown x hx rfl)

theorem is_table (h : Silent part t) {v : Value} (hv : t.lookup part = some v) :
    ∃ origin entries, v = .table origin entries := by
  cases h with
  | missing h => cases h.symm.trans hv
  | empty origin h => exact ⟨origin, [], Option.some.inj (hv.symm.trans h)⟩
  | unknown origin entries h _ => exact ⟨origin, entries, Option.some.inj (hv.symm.trans h)⟩

theorem given_eq (h : Silent part t) (h' : Silent part t')
    (same : ∀ p ∈ sections, p.name ≠ part → t'.lookup p.name = t.lookup p.name) {x : Setting}
    (hx : x ∈ settings) : x.given t' = x.given t := by
  by_cases hpart : x.part = part
  · rw [h.given_eq_none hx hpart, h'.given_eq_none hx hpart]
  · obtain ⟨p, hp, hmem⟩ := List.mem_flatMap.mp hx
    obtain ⟨y, -, rfl⟩ := List.mem_map.mp hmem
    unfold Setting.given
    rw [same p hp hpart]

theorem fits (h : Silent part t) (h' : Silent part t')
    (same : ∀ p ∈ sections, p.name ≠ part → t'.lookup p.name = t.lookup p.name) (fits : Fits t) :
    Fits t' where
  tables p hp v hv := by
    by_cases hpart : p.name = part
    · exact h'.is_table (hpart ▸ hv)
    · exact fits.tables p hp v ((same p hp hpart).symm.trans hv)
  values x hx v hv := fits.values x hx v ((h.given_eq h' same hx).symm.trans hv)

end Silent

/-- A document that gives any of the settings, values of their kinds, is read. Each setting
is what is given for it or else its default. Whether a section is missing, is empty or has
unknown keys only makes no difference. All are defaults if the document is empty, or if
there is none. -/
theorem settings_overlay_defaults {s : String} {t : Table} (parsed : Toml.read s = some t)
    (fits : Fits t) :
    (∃ c, Config.ofText s = .ok c ∧
      ∀ x ∈ settings, x.kind.Overlays (x.get {}) (x.given t) (x.get c)) ∧
    (∀ s' t' part, Toml.read s' = some t' → Silent part t → Silent part t' →
      (∀ p ∈ sections, p.name ≠ part → t'.lookup p.name = t.lookup p.name) →
      Config.ofText s' = Config.ofText s) ∧
    Config.ofText "" = .ok {} ∧ ConfigSource.missing.load = .ok {} := by
  refine ⟨?_, fun s' t' part parsed' silent silent' same => ?_, rfl, rfl⟩
  · obtain ⟨c, hc, hgiven⟩ := Config.ofTable_overlays (Toml.read_distinct parsed) fits
    exact ⟨c, Config.ofText_of_read parsed hc, hgiven⟩
  · exact Config.ofText_congr parsed parsed' fits (silent.fits silent' same fits)
      fun x hx => silent.given_eq silent' same hx

theorem settings_overlay_defaults_of_voice :
    ∃ c, Config.ofText "[voice]\nself_deaf = true\nextra = 1\n" = .ok c ∧
      c.voice.selfDeaf = true ∧ c.voice.joinTimeoutSecs = 5 ∧ c.gateway.shardCount = 1 ∧
      Config.ofText "[gateway]\nextra = 1\n[voice]\nself_deaf = true\nextra = 1\n" = .ok c := by
  let voice : String × Value :=
    ("voice", .table .header [("self_deaf", .bool true), ("extra", .integer 1)])
  have parsed : Toml.read "[voice]\nself_deaf = true\nextra = 1\n" = some [voice] := rfl
  have parsed' : Toml.read "[gateway]\nextra = 1\n[voice]\nself_deaf = true\nextra = 1\n" =
      some [("gateway", .table .header [("extra", .integer 1)]), voice] := rfl
  have fits : Fits [voice] := by
    constructor
    · intro p hp v hv
      exact ⟨_, _, (Prod.ext_iff.mp (List.mem_singleton.mp (mem_of_lookup hv))).2⟩
    · simp [settings, sections, Section.settings, GatewaySettings.slots, VoiceSettings.slots,
        ReconnectSettings.slots, LogSettings.slots, Setting.given, voice, List.lookup_cons,
        Setting.Kind.bool]
  have unknown : ∀ x ∈ settings, x.part = "gateway" → x.key ∉ ["extra"] := by
    simp [settings, sections, Section.settings, GatewaySettings.slots, VoiceSettings.slots,
      ReconnectSettings.slots, LogSettings.slots]
  have others : ∀ p ∈ sections, p.name ≠ "gateway" →
      List.lookup p.name [("gateway", .table .header [("extra", .integer 1)]), voice] =
        List.lookup p.name [voice] := by
    intro p _ hne
    rw [List.lookup_cons, beq_false_of_ne hne]
  obtain ⟨⟨c, hc, hgiven⟩, hsilent, -, -⟩ := settings_overlay_defaults parsed fits
  have hsame := hsilent _ _ "gateway" parsed' (.missing rfl) (.unknown .header _ rfl unknown) others
  have hdeaf := hgiven ⟨"voice", "self_deaf", .bool, (·.voice.selfDeaf)⟩
    (by simp [settings, sections, Section.settings, VoiceSettings.slots])
  have hjoin := hgiven ⟨"voice", "join_timeout_secs", .uint64, (·.voice.joinTimeoutSecs)⟩
    (by simp [settings, sections, Section.settings, VoiceSettings.slots])
  have hcount := hgiven ⟨"gateway", "shard_count", .uint32, (·.gateway.shardCount)⟩
    (by simp [settings, sections, Section.settings, GatewaySettings.slots])
  exact ⟨c, hc, (Value.bool.inj hdeaf).symm, hjoin, hcount, hsame.trans hc⟩

end VoiceGateway
