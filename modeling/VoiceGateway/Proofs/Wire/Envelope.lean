import VoiceGateway.Proofs.Json.Compact
import VoiceGateway.Proofs.Json.Keeping
import VoiceGateway.Wire.Event

/-!
# How an envelope is presented

An event comes as a tag and a content, in an object or in an array. Which event it is does
not depend on the order of the two, nor on members beside them that an envelope does not
know. The order decides only what else can be said: content that comes first has to be
kept, which is possible within limits, and a tag in an array has to be a string, where in an
object it may also be an object with the tag for its only name.

> `decodeContent_kept`: content that was kept is decoded as the text of it would be.
> `decodeObject_tagFirst`, `decodeObject_contentFirst`, `decodeArray_pair`: the three ways
> to read an envelope.
> `envelope_presentation`: what one presentation says another one does, too.
-/

namespace VoiceGateway

namespace Json

/-! ## Records -/

/-- Whether a record is decoded from a text or from a kept value matters only for what is
wrong with it. -/
theorem readItems_origin {origin : Origin} (other : Origin) {expected : String}
    {cut : Option Fault} {index : Nat} {given g : Given} {fields : List Field}
    {items : List Draft} (h : readItems origin expected cut index given fields items = .ok g) :
    readItems other expected cut index given fields items = .ok g := by
  induction fields generalizing index given items with
  | nil =>
    cases items with
    | nil => exact h
    | cons v vs =>
      -- Items that are left over are refused, in two different ways.
      cases origin with
      | text => exact (nomatch h)
      | kept => exact (nomatch h)
  | cons field fields ih =>
    cases items with
    | nil =>
      unfold readItems at h ⊢
      cases cut with
      | some f => exact (nomatch h)
      | none =>
        dsimp only at h ⊢
        by_cases hf : field.mayBeLeftOut = true
        · rw [if_pos hf] at h ⊢
          exact ih h
        · rw [if_neg hf] at h
          exact (nomatch h)
    | cons v vs =>
      unfold readItems at h ⊢
      cases hc : field.check v with
      | error e =>
        rw [hc] at h
        exact (nomatch h)
      | ok u =>
        rw [hc] at h
        exact ih h

theorem readRecord_origin {origin : Origin} (other : Origin) {name : String}
    {fields : List Field} {d : Draft} {g : Given} (h : readRecord origin name fields d = .ok g) :
    readRecord other name fields d = .ok g := by
  cases d with
  | array items cut => exact readItems_origin other h
  | _ => exact h

end Json

theorem StateEvent.decode_origin {origin : Json.Origin} (other : Json.Origin) {d : Json.Draft}
    {e : StateEvent} (h : decode origin d = .ok e) : decode other d = .ok e := by
  obtain ⟨given, hgiven, hrest⟩ := bind_eq_ok.mp h
  exact bind_eq_ok.mpr ⟨given, Json.readRecord_origin other hgiven, hrest⟩

theorem ServerEvent.decode_origin {origin : Json.Origin} (other : Json.Origin) {d : Json.Draft}
    {e : ServerEvent} (h : decode origin d = .ok e) : decode other d = .ok e := by
  obtain ⟨given, hgiven, hrest⟩ := bind_eq_ok.mp h
  exact bind_eq_ok.mpr ⟨given, Json.readRecord_origin other hgiven, hrest⟩

namespace GatewayEvent

open Json (Source Name Member Draft)

variable {kind : Kind} {d t : Draft} {e : GatewayEvent}

/-- What an attempt to decode yields is decoded the same way elsewhere. -/
theorem decodeContent_origin {origin : Json.Origin} (other : Json.Origin)
    (h : decodeContent origin kind d = .ok e) : decodeContent other kind d = .ok e := by
  cases kind with
  | state =>
    obtain ⟨s, hs, rfl⟩ := map_eq_ok.mp h
    exact map_eq_ok.mpr ⟨s, StateEvent.decode_origin other hs, rfl⟩
  | server =>
    obtain ⟨s, hs, rfl⟩ := map_eq_ok.mp h
    exact map_eq_ok.mpr ⟨s, ServerEvent.decode_origin other hs, rfl⟩

/-- Content that was kept is decoded as the text of it would be. -/
theorem decodeContent_kept :
    decodeContent .kept kind d = .ok e ↔ decodeContent .text kind d = .ok e :=
  ⟨decodeContent_origin .text, decodeContent_origin .kept⟩

/-! ## Members that an envelope does not know -/

/-- A member whose name is neither that of the tag nor that of the content. -/
def Unknown (m : Member) : Prop :=
  ∃ name, m.name.content = some name ∧ ∀ part : Part, name ≠ part.name

theorem nextPart_unknown {us : List Member} (unknown : ∀ m ∈ us, Unknown m)
    (ms : List (Option String × Draft)) :
    nextPart .closed (us.map Member.meaning ++ ms) = nextPart .closed ms := by
  induction us with
  | nil => rfl
  | cons m us ih =>
    obtain ⟨hm, hus⟩ := List.forall_mem_cons.mp unknown
    obtain ⟨name, hname, hne⟩ := hm
    have hskip : m.value.meaning.skip = .ok () := Json.skip_phrase m.value.spelled
    show nextPart .closed ((m.name.content, m.value.meaning) :: (us.map Member.meaning ++ ms)) = _
    refine Eq.trans ?_ (ih hus)
    rw [hname, nextPart, if_neg (hne .tag), if_neg (hne .content), hskip]

/-- A member that an envelope knows. -/
theorem nextPart_known (part : Part) (v : Draft) (ms : List (Option String × Draft)) :
    nextPart .closed ((some part.name, v) :: ms) = .ok (some (part, v, ms)) := by
  cases part with
  | tag => exact if_pos rfl
  | content => exact (if_neg (by decide)).trans (if_pos rfl)

theorem noMoreParts_unknown {us : List Member} (unknown : ∀ m ∈ us, Unknown m) :
    noMoreParts .closed (us.map Member.meaning) = .ok () := by
  have h := nextPart_unknown unknown []
  rw [List.append_nil] at h
  unfold noMoreParts
  rw [h]
  rfl

/-! ## Three ways to read an envelope -/

variable {us vs ws : List Member}

/-- Members that the envelope does not know may follow at the end. -/
theorem decodeContent_end {origin : Json.Origin} (hws : ∀ m ∈ ws, Unknown m) :
    (do
      let event ← decodeContent origin kind d
      noMoreParts .closed (ws.map Member.meaning)
      return event) = .ok e ↔ decodeContent origin kind d = .ok e := by
  constructor
  · intro h
    obtain ⟨event, hevent, hrest⟩ := bind_eq_ok.mp h
    obtain ⟨_, _, hpure⟩ := bind_eq_ok.mp hrest
    cases hpure
    exact hevent
  · intro h
    exact bind_eq_ok.mpr ⟨e, h, bind_eq_ok.mpr ⟨(), noMoreParts_unknown hws, rfl⟩⟩

/-- An envelope that is an object with the tag before the content. -/
theorem decodeObject_tagFirst (hus : ∀ m ∈ us, Unknown m) (hvs : ∀ m ∈ vs, Unknown m)
    (hws : ∀ m ∈ ws, Unknown m) :
    decodeObject .closed (us.map Member.meaning ++ (some Part.tag.name, t) ::
      (vs.map Member.meaning ++ (some Part.content.name, d) :: ws.map Member.meaning)) = .ok e ↔
      ∃ kind, decodeTag t = .ok kind ∧ decodeContent .text kind d = .ok e := by
  have hcontent : nextPart .closed
      (vs.map Member.meaning ++ (some Part.content.name, d) :: ws.map Member.meaning) =
        .ok (some (.content, d, ws.map Member.meaning)) := by
    rw [nextPart_unknown hvs, nextPart_known]
  unfold decodeObject
  rw [nextPart_unknown hus, nextPart_known]
  show (decodeTag t >>= fun kind => nextPart .closed _ >>= _) = _ ↔ _
  refine bind_eq_ok.trans (exists_congr fun kind => and_congr_right fun _ => ?_)
  rw [hcontent]
  exact decodeContent_end hws

/-- An envelope that is an object with the content before the tag. -/
theorem decodeObject_contentFirst (hus : ∀ m ∈ us, Unknown m) (hvs : ∀ m ∈ vs, Unknown m)
    (hws : ∀ m ∈ ws, Unknown m) :
    decodeObject .closed (us.map Member.meaning ++ (some Part.content.name, d) ::
      (vs.map Member.meaning ++ (some Part.tag.name, t) :: ws.map Member.meaning)) = .ok e ↔
      d.keep keptDepth = .ok () ∧
        ∃ kind, decodeTag t = .ok kind ∧ decodeContent .text kind d = .ok e := by
  have htag : nextPart .closed
      (vs.map Member.meaning ++ (some Part.tag.name, t) :: ws.map Member.meaning) =
        .ok (some (.tag, t, ws.map Member.meaning)) := by
    rw [nextPart_unknown hvs, nextPart_known]
  unfold decodeObject
  rw [nextPart_unknown hus, nextPart_known]
  dsimp only [bind, Except.bind]
  -- The content is kept before it is known which event it is of.
  cases hkeep : d.keep keptDepth with
  | error f => exact ⟨fun h => (nomatch h), fun h => (nomatch h.1)⟩
  | ok u =>
    rw [and_iff_right rfl]
    show (nextPart .closed _ >>= _) = _ ↔ _
    rw [htag]
    show (decodeTag t >>= fun kind => decodeContent .kept kind d >>= _) = _ ↔ _
    refine bind_eq_ok.trans (exists_congr fun kind => and_congr_right fun _ => ?_)
    exact (decodeContent_end hws).trans decodeContent_kept

/-- An envelope that is an array. -/
theorem decodeArray_pair : decodeArray none [t, d] = .ok e ↔
    ∃ kind, decodePlainTag t = .ok kind ∧ decodeContent .text kind d = .ok e := by
  refine bind_eq_ok.trans (exists_congr fun kind => and_congr_right fun _ => ?_)
  constructor
  · intro h
    obtain ⟨event, hevent, hpure⟩ := bind_eq_ok.mp h
    cases hpure
    exact hevent
  · intro h
    exact bind_eq_ok.mpr ⟨e, h, rfl⟩

/-- A tag in an array has to be a string. -/
theorem decodePlainTag_eq_ok : decodePlainTag t = .ok kind ↔
    decodeTag t = .ok kind ∧ ∃ tag, t = .text tag := by
  cases t with
  | text content =>
    rw [and_iff_left ⟨content, rfl⟩]
    cases content with
    | none => exact ⟨fun h => (nomatch h), fun h => (nomatch h)⟩
    | some tag => exact Iff.rfl
  | _ => exact ⟨fun h => (nomatch h), fun h => (nomatch h.2)⟩

/-! ## Presentations -/

/-- A text is decoded as an event. -/
def Decodes (s : Source) (e : GatewayEvent) : Prop :=
  Json.decode decode (String.ofList s.chars) = .ok e

theorem decodes_iff (s : Source) (e : GatewayEvent) : Decodes s e ↔ decode s.meaning = .ok e := by
  unfold Decodes
  rw [Json.decode_source]

variable {T D : Source} {tag content : Name}

theorem decodes_tagFirst (htag : tag.content = some "t") (hcontent : content.content = some "d")
    (unknown : ∀ m ∈ us ++ vs ++ ws, Unknown m) :
    Decodes (.object (us ++ ⟨tag, T⟩ :: (vs ++ ⟨content, D⟩ :: ws))) e ↔
      ∃ kind, decodeTag T.meaning = .ok kind ∧ decodeContent .text kind D.meaning = .ok e := by
  obtain ⟨hus', hws⟩ := List.forall_mem_append.mp unknown
  obtain ⟨hus, hvs⟩ := List.forall_mem_append.mp hus'
  rw [decodes_iff, ← decodeObject_tagFirst hus hvs hws]
  show decodeObject .closed ((us ++ _ :: (vs ++ _ :: ws)).map Member.meaning) = _ ↔ _
  rw [List.map_append, List.map_cons, List.map_append, List.map_cons]
  unfold Member.meaning
  rw [htag, hcontent]
  rfl

theorem decodes_contentFirst (htag : tag.content = some "t")
    (hcontent : content.content = some "d") (unknown : ∀ m ∈ us ++ vs ++ ws, Unknown m) :
    Decodes (.object (us ++ ⟨content, D⟩ :: (vs ++ ⟨tag, T⟩ :: ws))) e ↔
      D.meaning.keep keptDepth = .ok () ∧
        ∃ kind, decodeTag T.meaning = .ok kind ∧ decodeContent .text kind D.meaning = .ok e := by
  obtain ⟨hus', hws⟩ := List.forall_mem_append.mp unknown
  obtain ⟨hus, hvs⟩ := List.forall_mem_append.mp hus'
  rw [decodes_iff, ← decodeObject_contentFirst hus hvs hws]
  show decodeObject .closed ((us ++ _ :: (vs ++ _ :: ws)).map Member.meaning) = _ ↔ _
  rw [List.map_append, List.map_cons, List.map_append, List.map_cons]
  unfold Member.meaning
  rw [htag, hcontent]
  rfl

/-- The texts of an envelope with the tag `T` and the content `D`, whatever JSON texts
these are and however their names are spelled. With the content first it is decoded as an
event exactly if with the tag first it is decoded as that event and the content can be
kept: it nests within 127 levels with the envelope, its numbers are within the range of
doubles and its strings have no half of a surrogate pair. The array of the two is decoded
as the event exactly if the object is and the tag is a string. And in either order any
members with other names make no difference, wherever they stand and whatever their values
are. -/
theorem envelope_presentation (T D : Source) (tag content : Name)
    (htag : tag.content = some "t") (hcontent : content.content = some "d") (e : GatewayEvent) :
    let t : Member := ⟨tag, T⟩
    let d : Member := ⟨content, D⟩
    (Decodes (.object [d, t]) e ↔
      Decodes (.object [t, d]) e ∧ D.meaning.nesting < 127 ∧ D.meaning.Representable) ∧
    (Decodes (.array [T, D]) e ↔ Decodes (.object [t, d]) e ∧ ∃ s, T.meaning = .text s) ∧
    ∀ us vs ws : List Member, (∀ m ∈ us ++ vs ++ ws, Unknown m) →
      (Decodes (.object (us ++ t :: (vs ++ d :: ws))) e ↔ Decodes (.object [t, d]) e) ∧
      (Decodes (.object (us ++ d :: (vs ++ t :: ws))) e ↔ Decodes (.object [d, t]) e) := by
  intro t d
  have none : ∀ m ∈ ([] : List Member) ++ [] ++ [], Unknown m := fun _ h => absurd h (by simp)
  have hfirst := decodes_tagFirst (T := T) (D := D) (e := e) htag hcontent none
  have hlast := decodes_contentFirst (T := T) (D := D) (e := e) htag hcontent none
  have keeps : Json.Phrase.Keeps (.value D.meaning) := Json.keep_phrase D.spelled
  have hkeep : D.meaning.keep keptDepth = .ok () ↔
      D.meaning.nesting ≤ keptDepth ∧ D.meaning.Representable := keeps keptDepth
  rw [List.nil_append, List.nil_append] at hfirst hlast
  refine ⟨?_, ?_, ?_⟩
  · rw [hlast, hfirst, hkeep, and_comm]
    exact and_congr_right fun _ => and_congr_left fun _ => Nat.lt_succ_iff.symm
  · rw [hfirst, decodes_iff]
    refine decodeArray_pair.trans ?_
    constructor
    · rintro ⟨kind, hkind, hevent⟩
      obtain ⟨hkind', htext⟩ := decodePlainTag_eq_ok.mp hkind
      exact ⟨⟨kind, hkind', hevent⟩, htext⟩
    · rintro ⟨⟨kind, hkind, hevent⟩, htext⟩
      exact ⟨kind, decodePlainTag_eq_ok.mpr ⟨hkind, htext⟩, hevent⟩
  · intro us vs ws unknown
    rw [hfirst, hlast]
    exact ⟨decodes_tagFirst htag hcontent unknown, decodes_contentFirst htag hcontent unknown⟩

/-- An envelope with the content first, whose content is an array with one id as a number
and one as a string. Its event is also that of the array, and of the object with the tag
first and another member at each place. -/
theorem envelope_presentation_of_array :
    let T : Source := .compact (.text stateTag)
    let D : Source := .compact (.array [.number 1, .text "2", .null, .text "s"])
    let t : Member := ⟨.quoted "t", T⟩
    let d : Member := ⟨.quoted "d", D⟩
    let x : Member := ⟨.quoted "x", .compact (.array [.null, .object []])⟩
    let e : GatewayEvent := .state ⟨⟨1⟩, ⟨2⟩, none, "s"⟩
    Decodes (.object [d, t]) e ∧ Decodes (.array [T, D]) e ∧
      Decodes (.object [x, t, x, d, x]) e := by
  intro T D t d x e
  have h := envelope_presentation T D (.quoted "t") (.quoted "d") rfl rfl e
  have hfirst : Decodes (.object [t, d]) e := (decodes_iff _ e).mpr rfl
  have representable : D.meaning.Representable := ⟨⟨_, rfl⟩, rfl, trivial, rfl, trivial⟩
  have unknown : ∀ m ∈ [x] ++ [x] ++ [x], Unknown m := by
    intro m hm
    have hx : m = x := by simpa using hm
    subst hx
    exact ⟨"x", rfl, fun part => by cases part <;> decide⟩
  exact ⟨h.1.mpr ⟨hfirst, by decide, representable⟩, h.2.1.mpr ⟨hfirst, _, rfl⟩,
    (h.2.2 [x] [x] [x] unknown).1.mpr hfirst⟩

/-- A name that is half of a surrogate pair. -/
def halfPair : Name where
  chars := ['"', '\\', 'u', 'd', '8', '0', '0', '"']
  content := none
  spelled := by
    have piece : Json.SpellsPiece ['\\', 'u', 'd', '8', '0', '0'] (.unit 0xD800) :=
      .hex (show Text.hexDigit? 'd' = some 13 from rfl) (show Text.hexDigit? '8' = some 8 from rfl)
        (show Text.hexDigit? '0' = some 0 from rfl) (show Text.hexDigit? '0' = some 0 from rfl)
    exact .text (.quoted (.cons piece .nil))

/-- An object that serves as a tag does so only in an object, and an envelope is refused if
it has a member whose name is half of a surrogate pair. -/
theorem presentation_refused :
    let T : Source := .compact (.object [(stateTag, .null)])
    let D : Source := .compact (.object [("guild_id", .text "1"), ("user_id", .text "2"),
      ("session_id", .text "s")])
    let t : Member := ⟨.quoted "t", T⟩
    let d : Member := ⟨.quoted "d", D⟩
    let e : GatewayEvent := .state ⟨⟨1⟩, ⟨2⟩, none, "s"⟩
    Decodes (.object [d, t]) e ∧ ¬ Decodes (.array [T, D]) e ∧
      ¬ Decodes (.object [⟨halfPair, .compact .null⟩, d, t]) e := by
  intro T D t d e
  have array_refused : ∃ err, decode (Source.array [T, D]).meaning = .error err := ⟨_, rfl⟩
  have half_refused : ∃ err, decode (Source.object [⟨halfPair, .compact .null⟩, d, t]).meaning =
      .error err := ⟨_, rfl⟩
  refine ⟨(decodes_iff _ e).mpr rfl, fun h => ?_, fun h => ?_⟩
  · obtain ⟨err, herr⟩ := array_refused
    rw [decodes_iff, herr] at h
    cases h
  · obtain ⟨err, herr⟩ := half_refused
    rw [decodes_iff, herr] at h
    cases h

end GatewayEvent

end VoiceGateway
