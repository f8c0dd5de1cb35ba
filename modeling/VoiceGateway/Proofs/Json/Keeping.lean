import VoiceGateway.Json.Decode
import VoiceGateway.Proofs.Reading
import VoiceGateway.Proofs.Json.Grammar

/-!
# Skipping and keeping

A reader can skip over whatever a JSON text says. It can keep a value if its containers nest
no deeper than allowed, its numbers are within the range of doubles and there is no half of
a surrogate pair in its strings and names.

> `skip_phrase`: no value of a JSON text is refused that is skipped.
> `keep_phrase`: which values of JSON texts can be kept.
-/

namespace VoiceGateway.Json

namespace Draft

mutual

/-- How deep the containers of a value nest. -/
def nesting : Draft → Nat
  | .array items _ => nestingOfItems items + 1
  | .object members _ => nestingOfMembers members + 1
  | _ => 0

def nestingOfItems : List Draft → Nat
  | [] => 0
  | d :: ds => max d.nesting (nestingOfItems ds)

def nestingOfMembers : List (Option String × Draft) → Nat
  | [] => 0
  | (_, d) :: ms => max d.nesting (nestingOfMembers ms)

end

mutual

/-- Whether all numbers of a value are within the range of doubles, and all its strings and
names have a content. -/
def Representable : Draft → Prop
  | .number n => ∃ x, n.value = .ok x
  | .text content => content.isSome
  | .array items _ => ItemsRepresentable items
  | .object members _ => MembersRepresentable members
  | _ => True

def ItemsRepresentable : List Draft → Prop
  | [] => True
  | d :: ds => d.Representable ∧ ItemsRepresentable ds

def MembersRepresentable : List (Option String × Draft) → Prop
  | [] => True
  | (name, d) :: ms => name.isSome ∧ d.Representable ∧ MembersRepresentable ms

end

end Draft

theorem both_eq_ok {x y : Except Fault Unit} :
    (do x; y) = .ok () ↔ x = .ok () ∧ y = .ok () := by
  rw [bind_eq_ok]
  constructor
  · rintro ⟨_, h, h'⟩
    exact ⟨h, h'⟩
  · intro h
    exact ⟨(), h⟩

/-- The form of a value that a text gives in full is never at fault. -/
def Phrase.Skips : Phrase → Prop
  | .value d => d.skip = .ok ()
  | .items d ds => Draft.skipItems (d :: ds) = .ok ()
  | .members m ms => Draft.skipMembers (m :: ms) = .ok ()

theorem skip_phrase {cs : List Char} {p : Phrase} (spelled : Spells cs p) : p.Skips := by
  induction spelled with
  | nullWord | trueWord | falseWord | number | text | emptyArray | emptyObject => rfl
  | array items ih => exact both_eq_ok.mpr ⟨ih, rfl⟩
  | object members ih => exact both_eq_ok.mpr ⟨ih, rfl⟩
  | blankBefore blank value ih => exact ih
  | blankAfter blank value ih => exact ih
  | lastItem value ih => exact both_eq_ok.mpr ⟨ih, rfl⟩
  | item value others ih ih' => exact both_eq_ok.mpr ⟨ih, ih'⟩
  | lastMember named value ih ih' => exact both_eq_ok.mpr ⟨ih', rfl⟩
  | member named value others ih ih' ih'' => exact both_eq_ok.mpr ⟨ih', ih''⟩

/-- Which phrases can be kept at a depth. -/
def Phrase.Keeps : Phrase → Prop
  | .value d => ∀ depth, d.keep depth = .ok () ↔ d.nesting ≤ depth ∧ d.Representable
  | .items d ds => ∀ depth, Draft.keepItems depth (d :: ds) = .ok () ↔
      Draft.nestingOfItems (d :: ds) ≤ depth ∧ Draft.ItemsRepresentable (d :: ds)
  | .members m ms => ∀ depth, Draft.keepMembers depth (m :: ms) = .ok () ↔
      Draft.nestingOfMembers (m :: ms) ≤ depth ∧ Draft.MembersRepresentable (m :: ms)

theorem keep_phrase {cs : List Char} {p : Phrase} (spelled : Spells cs p) : p.Keeps := by
  induction spelled with
  | nullWord | trueWord | falseWord =>
    intro depth
    simp [Draft.keep, Draft.nesting, Draft.Representable]
  | @number cs n numeral =>
    intro depth
    cases h : n.value <;> simp [Draft.keep, Draft.nesting, Draft.Representable, h, Except.map]
  | @text cs content text =>
    intro depth
    cases content <;> simp [Draft.keep, Draft.nesting, Draft.Representable]
  | emptyArray | emptyObject =>
    intro depth
    -- A container takes a level for itself, so there is no room for one at depth zero.
    cases depth with
    | zero => exact ⟨fun h => (nomatch h), fun h => absurd h.1 (Nat.not_succ_le_zero 0)⟩
    | succ depth => exact ⟨fun _ => ⟨Nat.succ_le_succ (Nat.zero_le _), trivial⟩, fun _ => rfl⟩
  | @array cs d ds items ih =>
    intro depth
    cases depth with
    | zero => exact ⟨fun h => (nomatch h), fun h => absurd h.1 (Nat.not_succ_le_zero _)⟩
    | succ depth =>
      show (do Draft.keepItems depth (d :: ds); Except.ok ()) = .ok () ↔ _
      rw [both_eq_ok, ih depth]
      simp [Draft.nesting, Draft.Representable]
  | @object cs m ms members ih =>
    intro depth
    cases depth with
    | zero => exact ⟨fun h => (nomatch h), fun h => absurd h.1 (Nat.not_succ_le_zero _)⟩
    | succ depth =>
      show (do Draft.keepMembers depth (m :: ms); Except.ok ()) = .ok () ↔ _
      rw [both_eq_ok, ih depth]
      simp [Draft.nesting, Draft.Representable]
  | blankBefore blank value ih => exact ih
  | blankAfter blank value ih => exact ih
  | @lastItem cs d value ih =>
    intro depth
    show (do d.keep depth; Except.ok ()) = .ok () ↔ _
    rw [both_eq_ok, ih depth]
    simp [Draft.nestingOfItems, Draft.ItemsRepresentable]
  | @item cs cs' d d' ds value others ih ih' =>
    intro depth
    show (do d.keep depth; Draft.keepItems depth (d' :: ds)) = .ok () ↔
      max d.nesting (Draft.nestingOfItems (d' :: ds)) ≤ depth ∧
        d.Representable ∧ Draft.ItemsRepresentable (d' :: ds)
    rw [both_eq_ok, ih depth, ih' depth, Nat.max_le]
    exact and_and_and_comm
  | @lastMember cs cs' name d named value ih ih' =>
    intro depth
    -- A name is kept like a value, and half of a surrogate pair cannot be.
    cases name with
    | none => exact ⟨fun h => (nomatch h), fun h => absurd h.2.1 (by simp)⟩
    | some name =>
      show (do d.keep depth; Except.ok ()) = .ok () ↔ _
      rw [both_eq_ok, ih' depth]
      simp [Draft.nestingOfMembers, Draft.MembersRepresentable]
  | @member cs cs' cs'' name d m ms named value others ih ih' ih'' =>
    intro depth
    cases name with
    | none => exact ⟨fun h => (nomatch h), fun h => absurd h.2.1 (by simp)⟩
    | some name =>
      show (do d.keep depth; Draft.keepMembers depth (m :: ms)) = .ok () ↔
        max d.nesting (Draft.nestingOfMembers (m :: ms)) ≤ depth ∧
          true = true ∧ d.Representable ∧ Draft.MembersRepresentable (m :: ms)
      rw [both_eq_ok, ih' depth, ih'' depth, Nat.max_le]
      exact and_and_and_comm.trans (and_congr_right fun _ => (and_iff_right rfl).symm)

end VoiceGateway.Json
