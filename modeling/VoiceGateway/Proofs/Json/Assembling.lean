import VoiceGateway.Json.Decode
import VoiceGateway.Proofs.Json.Scanning

/-!
# The draft of a JSON text

The tokens of what a text says are put together into that again, wherever it stands: in an
array, in an object or alone. So a text of the grammar is decoded as what it says, and
nothing is left of it then.

> `assembled_phrase`: the tokens of a phrase are put where it belongs.
> `decode_source`: decoding a JSON text is decoding what it says.
-/

namespace VoiceGateway.Json

namespace Assembly

/-- Puts together further tokens. -/
abbrev feedAll (a : Assembly) (ts : List Token) : Assembly := ts.foldl feed a

theorem feedAll_append (a : Assembly) (ts us : List Token) :
    a.feedAll (ts ++ us) = (a.feedAll ts).feedAll us := List.foldl_append

/-- An array that has begun takes in its first item like any other. -/
theorem feed_firstItem (stack : List Frame) {t : Token} (h : t ≠ .closeArray) :
    feed (.firstItem stack) t = feed (.value (.item [] :: stack)) t := by
  cases t with
  | closeArray => exact absurd rfl h
  | _ => rfl

end Assembly

open Assembly

namespace Draft

/-- No value begins with the end of an array. -/
theorem tokens_eq_cons (d : Draft) : ∃ t ts, d.tokens = t :: ts ∧ t ≠ .closeArray := by
  cases d with
  | array items cut => exact ⟨.openArray, tokensOfItems items ++ [.closeArray], rfl, by simp⟩
  | object members ending =>
    exact ⟨.openObject, tokensOfMembers members ++ [.closeObject], rfl, by simp⟩
  | _ => exact ⟨_, [], rfl, by simp⟩

theorem tokensOfItems_eq_cons (d : Draft) (ds : List Draft) :
    ∃ t ts, tokensOfItems (d :: ds) = t :: ts ∧ t ≠ .closeArray := by
  obtain ⟨t, ts, hd, ht⟩ := d.tokens_eq_cons
  cases ds with
  | nil => exact ⟨t, ts, hd, ht⟩
  | cons e ds =>
    refine ⟨t, ts ++ .comma :: tokensOfItems (e :: ds), ?_, ht⟩
    show d.tokens ++ .comma :: tokensOfItems (e :: ds) = _
    rw [hd]
    rfl

end Draft

/-- The tokens of a phrase are put where it belongs: those of a value in its place, those
of items and members behind the ones before them, up to the closing bracket. -/
def Phrase.Assembled : Phrase → Prop
  | .value d => ∀ stack, (Assembly.value stack).feedAll d.tokens = place stack d
  | .items d ds => ∀ (done : List Draft) (stack : List Frame),
      (Assembly.value (.item done :: stack)).feedAll
        (Draft.tokensOfItems (d :: ds) ++ [.closeArray]) =
          place stack (.array (done.reverse ++ d :: ds) none)
  | .members m ms => ∀ (done : List (Option String × Draft)) (stack : List Frame),
      (Assembly.nextName done stack).feedAll
        (Draft.tokensOfMembers (m :: ms) ++ [.closeObject]) =
          place stack (.object (done.reverse ++ m :: ms) .closed)

theorem assembled_phrase {cs : List Char} {p : Phrase} (spelled : Spells cs p) :
    p.Assembled := by
  induction spelled with
  | nullWord | trueWord | falseWord | number | text => exact fun _ => rfl
  | emptyArray | emptyObject => exact fun _ => rfl
  | @array cs d ds items ih =>
    intro stack
    obtain ⟨t, ts, hitems, ht⟩ := Draft.tokensOfItems_eq_cons d ds
    have hrest := ih [] stack
    show (Assembly.firstItem stack).feedAll (Draft.tokensOfItems (d :: ds) ++ [.closeArray]) = _
    rw [hitems] at hrest ⊢
    show (feed (.firstItem stack) t).feedAll (ts ++ [.closeArray]) = _
    rw [feed_firstItem stack ht]
    exact hrest
  | @object cs m ms members ih =>
    intro stack
    -- The first name is taken in like any other.
    have hrest := ih [] stack
    show (Assembly.firstName stack).feedAll (Draft.tokensOfMembers (m :: ms) ++ [.closeObject]) = _
    cases ms with
    | nil => exact hrest
    | cons n ms => exact hrest
  | blankBefore blank value ih => exact ih
  | blankAfter blank value ih => exact ih
  | @lastItem cs d value ih =>
    intro done stack
    show (Assembly.value (.item done :: stack)).feedAll (d.tokens ++ [.closeArray]) = _
    rw [feedAll_append, ih]
    show place stack (.array (d :: done).reverse none) = _
    rw [List.reverse_cons]
  | @item cs cs' d d' ds value others ih ih' =>
    intro done stack
    -- What has been put together is held in reverse.
    have hrest := ih' (d :: done) stack
    show (Assembly.value (.item done :: stack)).feedAll
      ((d.tokens ++ .comma :: Draft.tokensOfItems (d' :: ds)) ++ [.closeArray]) = _
    rw [List.append_assoc, feedAll_append, ih]
    rw [List.reverse_cons, List.append_assoc] at hrest
    exact hrest
  | @lastMember cs cs' name d named value ih ih' =>
    intro done stack
    show (Assembly.value (.member done name :: stack)).feedAll (d.tokens ++ [.closeObject]) = _
    rw [feedAll_append, ih']
    show place stack (.object ((name, d) :: done).reverse .closed) = _
    rw [List.reverse_cons]
  | @member cs cs' cs'' name d m ms named value others ih ih' ih'' =>
    intro done stack
    have hrest := ih'' ((name, d) :: done) stack
    show (Assembly.value (.member done name :: stack)).feedAll
      ((d.tokens ++ .comma :: Draft.tokensOfMembers (m :: ms)) ++ [.closeObject]) = _
    rw [List.append_assoc, feedAll_append, ih']
    rw [List.reverse_cons, List.append_assoc] at hrest
    exact hrest

/-- The draft of a JSON text is what it says, and nothing follows it. -/
theorem draft_source (s : Source) : draft s.chars = (s.meaning, false) := by
  have hscan := scan_phrase s.spelled (show Delimits [] from trivial)
  rw [List.append_nil] at hscan
  unfold draft tokens
  rw [hscan]
  show ((Assembly.value []).feedAll (s.meaning.tokens ++ [])).finish = _
  rw [List.append_nil, (assembled_phrase s.spelled : Phrase.Assembled (.value s.meaning))]
  rfl

/-- Decoding a JSON text is decoding what it says. -/
theorem decode_source {α : Type} (decoder : Decoder α) (s : Source) :
    decode decoder (String.ofList s.chars) = decoder s.meaning := by
  unfold decode
  rw [String.toList_ofList, draft_source]
  dsimp only
  cases decoder s.meaning with
  | error e => rfl
  | ok a => rfl

end VoiceGateway.Json
