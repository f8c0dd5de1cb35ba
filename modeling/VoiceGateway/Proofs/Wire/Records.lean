import Mathlib.Data.List.Forall2
import VoiceGateway.Proofs.Wire.Envelope
import VoiceGateway.Proofs.Wire.RoundTrip

/-!
# Records whose members come in any order

An object stands for a record by the members that the record knows, and by nothing else:
not by the order they come in, nor by the members between them. The members are gone
through one by one, and what is not there is noticed at the end, field by field in the order
in which the record declares them. An array stands for a record by its items in that order.

A member that the record does not know may have any value, at any depth and of any size.
Its name has to be a string, though: half of a surrogate pair is none.

> `readMembers_known`: acceptable members leave the known ones behind.
> `concludes_required`, `concludes_nullable`: one field at the end.
> `readsRecord`: what a decoder of records does, from what it does with the known members.
> `record_decoding`: the four records of the wire.
-/

namespace VoiceGateway

namespace Json

/-! ## Members -/

/-- The members of an object that a record with these fields knows, with their values. -/
def known (fields : List Field) : List (Option String × Draft) → Given
  | [] => []
  | (none, _) :: ms => known fields ms
  | (some name, v) :: ms =>
    if fields.any (·.name == name) then (name, v) :: known fields ms else known fields ms

/-- Members that a record accepts, whichever others come after them: every one has a name,
none that the record knows comes twice, and those that it knows have values of their types. -/
structure Accepts (fields : List Field) (ms : List (Option String × Draft)) : Prop where
  named : ∀ m ∈ ms, m.1.isSome
  once : ((known fields ms).map (·.1)).Nodup
  taken : ∀ f ∈ fields, ∀ d, (f.name, d) ∈ known fields ms → f.check d = .ok ()

variable {fields : List Field} {ms rest : List (Option String × Draft)}

/-- What a text says can be skipped, member by member. -/
theorem skip_member {ending : Ending} (h : (Draft.object ms ending).skip = .ok ()) :
    ∀ m ∈ ms, m.2.skip = .ok () := by
  obtain ⟨hmembers, -⟩ := both_eq_ok.mp h
  clear h
  induction ms with
  | nil => exact fun _ hm => absurd hm List.not_mem_nil
  | cons m ms ih =>
    obtain ⟨hm, hms⟩ := both_eq_ok.mp hmembers
    exact List.forall_mem_cons.mpr ⟨hm, ih hms⟩

/-- Members that are accepted behind those that were given before leave those that the
record knows, whatever comes after them. -/
theorem readMembers_known {ending : Ending} (given : Given) (named : ∀ m ∈ ms, m.1.isSome)
    (skipped : ∀ m ∈ ms, m.2.skip = .ok ())
    (once : ((given ++ known fields ms).map (·.1)).Nodup)
    (taken : ∀ f ∈ fields, ∀ d, (f.name, d) ∈ known fields ms → f.check d = .ok ()) :
    readMembers fields ending given (ms ++ rest) =
      readMembers fields ending (given ++ known fields ms) rest := by
  induction ms generalizing given with
  | nil =>
    show readMembers fields ending given rest = readMembers fields ending (given ++ []) rest
    rw [List.append_nil]
  | cons m ms ih =>
    obtain ⟨hm, hnamed⟩ := List.forall_mem_cons.mp named
    obtain ⟨hskip, hskipped⟩ := List.forall_mem_cons.mp skipped
    obtain ⟨content, v⟩ := m
    obtain ⟨name, rfl⟩ := Option.isSome_iff_exists.mp hm
    rw [List.cons_append, readMembers]
    cases hfind : fields.find? (·.name == name) with
    | none =>
      have hunknown : known fields ((some name, v) :: ms) = known fields ms := by
        refine if_neg fun hany => ?_
        obtain ⟨f, hf, he⟩ := List.any_eq_true.mp hany
        exact absurd he (List.find?_eq_none.mp hfind f hf)
      rw [hunknown] at once taken ⊢
      dsimp only at hskip ⊢
      rw [hskip]
      exact ih given hnamed hskipped once taken
    | some f =>
      have hbeq : (f.name == name) = true :=
        List.find?_some (p := fun f : Field => f.name == name) hfind
      have hname : f.name = name := eq_of_beq hbeq
      have hmem : f ∈ fields := List.mem_of_find?_eq_some hfind
      have hknown : known fields ((some name, v) :: ms) = (name, v) :: known fields ms :=
        if_pos (List.any_eq_true.mpr ⟨f, hmem, hbeq⟩)
      rw [hknown] at once taken ⊢
      have hnew : given.any (·.1 == name) = false := by
        rw [List.any_eq_false]
        intro x hx he
        rw [List.map_append] at once
        exact (List.nodup_append.mp once).2.2 _ (List.mem_map_of_mem hx) _ List.mem_cons_self
          (eq_of_beq he)
      have hcheck : f.check v = .ok () := taken f hmem v (hname ▸ List.mem_cons_self)
      have hsplit : given ++ (name, v) :: known fields ms =
          (given ++ [(name, v)]) ++ known fields ms := by
        rw [List.append_assoc]
        rfl
      dsimp only
      rw [hnew, if_neg (by simp), hcheck, hsplit]
      exact ih (given ++ [(name, v)]) hnamed hskipped (hsplit ▸ once)
        fun f hf d hd => taken f hf d (List.mem_cons_of_mem _ hd)

theorem Accepts.readMembers (h : Accepts fields ms) (skipped : ∀ m ∈ ms, m.2.skip = .ok ())
    (ending : Ending) (rest : List (Option String × Draft)) :
    readMembers fields ending [] (ms ++ rest) =
      Json.readMembers fields ending (known fields ms) rest :=
  readMembers_known [] h.named skipped h.once h.taken

/-- A name that the record knows is one of its fields. -/
theorem mem_known {name : String} {d : Draft} (h : (name, d) ∈ known fields ms) :
    ∃ f ∈ fields, f.name = name := by
  induction ms with
  | nil => exact absurd h List.not_mem_nil
  | cons m ms ih =>
    obtain ⟨content, v⟩ := m
    cases content with
    | none => exact ih h
    | some content =>
      unfold known at h
      split at h
      · next hany =>
        rcases List.mem_cons.mp h with he | hmem
        · obtain ⟨f, hf, hbeq⟩ := List.any_eq_true.mp hany
          exact ⟨f, hf, (eq_of_beq hbeq).trans (congrArg Prod.fst he).symm⟩
        · exact ih hmem
      · exact ih h

/-- A name that comes again is noticed before its value is looked at. -/
theorem readMembers_repeated {ending : Ending} {name : String} {d : Draft}
    (h : name ∈ (known fields ms).map (·.1)) :
    readMembers fields ending (known fields ms) ((some name, d) :: rest) =
      .error (.mismatch (.duplicateField name)) := by
  obtain ⟨⟨n, v⟩, hmem, rfl⟩ := List.mem_map.mp h
  obtain ⟨f, hf, hname⟩ := mem_known hmem
  have hany : (known fields ms).any (·.1 == n) = true :=
    List.any_eq_true.mpr ⟨_, hmem, beq_self_eq_true n⟩
  rw [readMembers]
  cases hfind : fields.find? (·.name == n) with
  | none => exact absurd (beq_iff_eq.mpr hname) (List.find?_eq_none.mp hfind f hf)
  | some field =>
    dsimp only
    rw [if_pos hany]

/-! ## Items -/

/-- Items that all fields take are read as the values of the fields, in order. -/
theorem readItems_taken {origin : Origin} {expected : String} {items : List Draft}
    (taken : List.Forall₂ (fun f d => f.check d = .ok ()) fields items) (index : Nat)
    (given : Given) :
    readItems origin expected none index given fields items =
      .ok (given ++ (fields.map (·.name)).zip items) := by
  induction taken generalizing index given with
  | nil =>
    unfold readItems
    show Except.ok given = Except.ok (given ++ [])
    rw [List.append_nil]
  | @cons f d fields items hcheck taken ih =>
    have hrest := ih (index + 1) (given ++ [(f.name, d)])
    rw [List.append_assoc] at hrest
    unfold readItems
    rw [hcheck]
    exact hrest

/-- Items that are the values of fields are taken by them if the values are. -/
theorem items_taken {given : Given} {items : List Draft}
    (same : List.Forall₂ (fun f d => given.lookup f.name = some d) fields items)
    (taken : ∀ f ∈ fields, ∀ d, given.lookup f.name = some d → f.check d = .ok ()) :
    List.Forall₂ (fun f d => f.check d = .ok ()) fields items := by
  induction same with
  | nil => exact .nil
  | cons hvalue same ih =>
    obtain ⟨htaken, hrest⟩ := List.forall_mem_cons.mp taken
    exact .cons (htaken _ hvalue) (ih hrest)

/-- Under the name of each field stands its item. -/
theorem lookup_zip {given : Given} {items : List Draft}
    (same : List.Forall₂ (fun f d => given.lookup f.name = some d) fields items)
    (once : (fields.map (·.name)).Nodup) :
    ∀ f ∈ fields, ((fields.map (·.name)).zip items).lookup f.name = given.lookup f.name := by
  induction same with
  | nil => exact fun f hf => absurd hf List.not_mem_nil
  | @cons g d fields items hvalue same ih =>
    obtain ⟨hg, honce⟩ := List.nodup_cons.mp once
    intro f hf
    show List.lookup f.name ((g.name, d) :: _) = _
    rw [List.lookup_cons]
    by_cases he : f.name = g.name
    · rw [beq_iff_eq.mpr he]
      exact (he ▸ hvalue).symm
    · rw [beq_eq_false_iff_ne.mpr he]
      rcases List.mem_cons.mp hf with rfl | hmem
      · exact absurd rfl he
      · exact ih honce f hmem

/-! ## The end of a record -/

/-- What becomes of a record of which these fields are given: it fails for the first of the
required ones that is not among them, and otherwise it is something of the wanted kind. -/
def Concludes {α : Type} (given : Given) (required : List String) (r : Except Error α)
    (P : α → Prop) : Prop :=
  match required.find? fun name => (given.lookup name).isNone with
  | some name => r = .error (.mismatch (.missingField name))
  | none => ∃ a, r = .ok a ∧ P a

/-- The value of a field is read as `a`. -/
def Gives {α : Type} (given : Given) (name : String) (decoder : Decoder α) (a : α) : Prop :=
  ∃ d, given.lookup name = some d ∧ decoder d = .ok a

/-- The value of a field that may be absent or null: what it is read as, or nothing. -/
def MayGive {α : Type} (given : Given) (name : String) (decoder : Decoder α) (o : Option α) :
    Prop :=
  match given.lookup name with
  | none | some .null => o = none
  | some d => ∃ a, decoder d = .ok a ∧ o = some a

variable {α β : Type} {given given' : Given} {name : String} {required : List String}
  {P : α → Prop}

theorem concludes_required {decoder : Decoder β} {k : β → Except Error α}
    (taken : ∀ d, given.lookup name = some d → (Field.of name decoder).check d = .ok ())
    (more : ∀ b, Gives given name decoder b → Concludes given required (k b) P) :
    Concludes given (name :: required) (given.required name decoder >>= k) P := by
  unfold Given.required
  cases hd : given.lookup name with
  | none =>
    unfold Concludes
    rw [List.find?_cons_of_pos (by simp [hd])]
    rfl
  | some d =>
    obtain ⟨b, hb, -⟩ := map_eq_ok.mp (taken d hd)
    have hmore := more b ⟨d, hd, hb⟩
    unfold Concludes at hmore ⊢
    rw [List.find?_cons_of_neg (by simp [hd])]
    dsimp only
    rw [hb]
    exact hmore

theorem concludes_nullable {decoder : Decoder β} {k : Option β → Except Error α}
    (taken : ∀ d, given.lookup name = some d →
      (Field.of name (decodeNullable decoder)).check d = .ok ())
    (more : ∀ o, MayGive given name decoder o → Concludes given required (k o) P) :
    Concludes given required (given.nullable name decoder >>= k) P := by
  unfold Given.nullable
  cases hd : given.lookup name with
  | none =>
    refine more none ?_
    unfold MayGive
    rw [hd]
  | some d =>
    obtain ⟨o, ho, -⟩ := map_eq_ok.mp (taken d hd)
    dsimp only
    rw [ho]
    refine more o ?_
    unfold MayGive
    rw [hd]
    cases d with
    | null =>
      cases ho
      rfl
    | _ =>
      obtain ⟨a, ha, rfl⟩ := map_eq_ok.mp ho
      exact ⟨a, ha, rfl⟩

theorem concludes_ok {a : α} (h : P a) : Concludes given [] (.ok a) P :=
  ⟨a, rfl, h⟩

theorem Given.required_congr {decoder : Decoder β} (same : given.lookup name = given'.lookup name) :
    given.required name decoder = given'.required name decoder := by
  unfold Given.required
  rw [same]

theorem Given.nullable_congr {decoder : Decoder β} (same : given.lookup name = given'.lookup name) :
    given.nullable name decoder = given'.nullable name decoder := by
  unfold Given.nullable
  rw [same]

/-! ## Records -/

/-- How a decoder deals with the JSON texts of a record. `Has` says that a value has the
given values in its fields. -/
structure ReadsRecord (decoder : Decoder α) (fields : List Field) (required : List String)
    (Has : Given → α → Prop) : Prop where
  /-- Members that are accepted are a record if all required fields are among them. -/
  object : ∀ (s : Source) ms, s.meaning = .object ms .closed → Accepts fields ms →
    Concludes (known fields ms) required (decode decoder (String.ofList s.chars))
      (Has (known fields ms))
  /-- Nothing but the values of the fields matters. -/
  known_only : ∀ (s s' : Source) ms ms', s.meaning = .object ms .closed →
    s'.meaning = .object ms' .closed → Accepts fields ms → Accepts fields ms' →
    (∀ f ∈ fields, (known fields ms).lookup f.name = (known fields ms').lookup f.name) →
    decode decoder (String.ofList s.chars) = decode decoder (String.ofList s'.chars)
  /-- A known field that comes again, with any value and whatever follows. -/
  again : ∀ (s : Source) ms name d rest,
    s.meaning = .object (ms ++ (some name, d) :: rest) .closed → Accepts fields ms →
    name ∈ (known fields ms).map (·.1) →
    decode decoder (String.ofList s.chars) = .error (.mismatch (.duplicateField name))
  /-- A member without a name, whatever follows. -/
  unnamed : ∀ (s : Source) ms d rest, s.meaning = .object (ms ++ (none, d) :: rest) .closed →
    Accepts fields ms → decode decoder (String.ofList s.chars) = .error (.fault .malformed)
  /-- The values of all fields in order, instead of an object with these values. -/
  array : ∀ (s s' : Source) ms items, s.meaning = .object ms .closed →
    s'.meaning = .array items none → Accepts fields ms →
    List.Forall₂ (fun f d => (known fields ms).lookup f.name = some d) fields items →
    decode decoder (String.ofList s'.chars) = decode decoder (String.ofList s.chars)

/-- Whoever reads the fields of a record first and finishes with what they are given. -/
theorem readsRecord {decoder : Decoder α} {record : String} {finish : Given → Except Error α}
    {Has : Given → α → Prop}
    (reads : ∀ d, decoder d = readRecord .text record fields d >>= finish)
    (once : (fields.map (·.name)).Nodup)
    (locally : ∀ given given' : Given,
      (∀ f ∈ fields, given.lookup f.name = given'.lookup f.name) → finish given = finish given')
    (concludes : ∀ given : Given,
      (∀ f ∈ fields, ∀ d, given.lookup f.name = some d → f.check d = .ok ()) →
      Concludes given required (finish given) (Has given)) :
    ReadsRecord decoder fields required Has := by
  have skipped : ∀ (s : Source) ms, s.meaning = .object ms .closed →
      ∀ m ∈ ms, m.2.skip = .ok () := by
    intro s ms hs
    have hskips : Phrase.Skips (.value s.meaning) := skip_phrase s.spelled
    rw [hs] at hskips
    exact skip_member hskips
  have object : ∀ (s : Source) ms, s.meaning = .object ms .closed → Accepts fields ms →
      decode decoder (String.ofList s.chars) = finish (known fields ms) := by
    intro s ms hs accepted
    have hread := accepted.readMembers (skipped s ms hs) .closed []
    rw [List.append_nil] at hread
    rw [decode_source, reads, hs]
    show (Json.readMembers fields .closed [] ms >>= finish) = _
    rw [hread]
    rfl
  refine ⟨fun s ms hs accepted => ?_, fun s s' ms ms' hs hs' accepted accepted' same => ?_,
    fun s ms name d rest hs accepted hname => ?_, fun s ms d rest hs accepted => ?_,
    fun s s' ms items hs hs' accepted same => ?_⟩
  · rw [object s ms hs accepted]
    exact concludes _ fun f hf d hd => accepted.taken f hf d (mem_of_lookup hd)
  · rw [object s ms hs accepted, object s' ms' hs' accepted']
    exact locally _ _ same
  · have hread := accepted.readMembers
      (fun m hm => skipped s _ hs m (List.mem_append_left _ hm)) .closed ((some name, d) :: rest)
    rw [decode_source, reads, hs]
    show (Json.readMembers fields .closed [] (ms ++ (some name, d) :: rest) >>= finish) = _
    rw [hread, readMembers_repeated hname]
    rfl
  · have hread := accepted.readMembers
      (fun m hm => skipped s _ hs m (List.mem_append_left _ hm)) .closed ((none, d) :: rest)
    rw [decode_source, reads, hs]
    show (Json.readMembers fields .closed [] (ms ++ (none, d) :: rest) >>= finish) = _
    rw [hread]
    rfl
  · have htaken := items_taken same fun f hf d hd => accepted.taken f hf d (mem_of_lookup hd)
    rw [object s ms hs accepted, decode_source, reads, hs']
    show (readItems .text _ none 0 [] fields items >>= finish) = _
    rw [readItems_taken htaken]
    exact locally _ _ (lookup_zip same once)

end Json

open Json (Given Gives MayGive ReadsRecord Field readRecord readsRecord concludes_required
  concludes_nullable concludes_ok decodeSnowflake decodeText decodeUInt32 decodeBool)

/-! ## The records of the wire -/

namespace VoiceUpdate

/-- An update has the fields that are given. -/
structure Has (given : Given) (u : VoiceUpdate) : Prop where
  guild : Gives given "guild_id" decodeSnowflake u.guild
  channel : MayGive given "channel_id" decodeSnowflake u.channel
  selfMute : Gives given "self_mute" decodeBool u.selfMute
  selfDeaf : Gives given "self_deaf" decodeBool u.selfDeaf

/-- What is made of the fields of an update. -/
def ofGiven (given : Given) : Except Json.Error VoiceUpdate := do
  let guild ← given.required "guild_id" decodeSnowflake
  let channel ← given.nullable "channel_id" decodeSnowflake
  let selfMute ← given.required "self_mute" decodeBool
  let selfDeaf ← given.required "self_deaf" decodeBool
  return ⟨guild, channel, selfMute, selfDeaf⟩

theorem reads : ReadsRecord decode fields ["guild_id", "self_mute", "self_deaf"] Has := by
  have hreads : ∀ d, decode d = readRecord .text "VoiceStateUpdate" fields d >>= ofGiven :=
    fun _ => rfl
  refine readsRecord hreads (by decide) (fun given given' same => ?_) (fun given taken => ?_)
  · simp only [fields, List.forall_mem_cons, Field.of] at same
    obtain ⟨hguild, hchannel, hmute, hdeaf, -⟩ := same
    unfold ofGiven
    rw [Given.required_congr hguild, Given.nullable_congr hchannel, Given.required_congr hmute,
      Given.required_congr hdeaf]
  · simp only [fields, List.forall_mem_cons] at taken
    obtain ⟨hguild, hchannel, hmute, hdeaf, -⟩ := taken
    refine concludes_required hguild fun guild hg => ?_
    refine concludes_nullable hchannel fun channel hc => ?_
    refine concludes_required hmute fun selfMute hm => ?_
    exact concludes_required hdeaf fun selfDeaf hd => concludes_ok ⟨hg, hc, hm, hd⟩

end VoiceUpdate

namespace ShardCommand

/-- A command has the fields that are given. -/
structure Has (given : Given) (c : ShardCommand) : Prop where
  shard : Gives given "shard_id" decodeUInt32 c.shard
  update : Gives given "payload" VoiceUpdate.decode c.update

/-- What is made of the fields of a command. -/
def ofGiven (given : Given) : Except Json.Error ShardCommand := do
  let shard ← given.required "shard_id" decodeUInt32
  let update ← given.required "payload" VoiceUpdate.decode
  return ⟨shard, update⟩

theorem reads : ReadsRecord decode fields ["shard_id", "payload"] Has := by
  have hreads : ∀ d, decode d = readRecord .text "ShardPayload" fields d >>= ofGiven :=
    fun _ => rfl
  refine readsRecord hreads (by decide) (fun given given' same => ?_) (fun given taken => ?_)
  · simp only [fields, List.forall_mem_cons, Field.of] at same
    obtain ⟨hshard, hupdate, -⟩ := same
    unfold ofGiven
    rw [Given.required_congr hshard, Given.required_congr hupdate]
  · simp only [fields, List.forall_mem_cons] at taken
    obtain ⟨hshard, hupdate, -⟩ := taken
    refine concludes_required hshard fun shard hs => ?_
    exact concludes_required hupdate fun update hu => concludes_ok ⟨hs, hu⟩

end ShardCommand

namespace StateEvent

/-- A state event has the fields that are given. -/
structure Has (given : Given) (e : StateEvent) : Prop where
  guild : Gives given "guild_id" decodeSnowflake e.guild
  user : Gives given "user_id" decodeSnowflake e.user
  channel : MayGive given "channel_id" decodeSnowflake e.channel
  sessionId : Gives given "session_id" decodeText e.sessionId

/-- What is made of the fields of a state event. -/
def ofGiven (given : Given) : Except Json.Error StateEvent := do
  let guild ← given.required "guild_id" decodeSnowflake
  let user ← given.required "user_id" decodeSnowflake
  let channel ← given.nullable "channel_id" decodeSnowflake
  let sessionId ← given.required "session_id" decodeText
  return ⟨guild, user, channel, sessionId⟩

theorem reads : ReadsRecord (decode .text) fields ["guild_id", "user_id", "session_id"] Has := by
  have hreads : ∀ d, decode .text d = readRecord .text "VoiceStateEvent" fields d >>= ofGiven :=
    fun _ => rfl
  refine readsRecord hreads (by decide) (fun given given' same => ?_) (fun given taken => ?_)
  · simp only [fields, List.forall_mem_cons, Field.of, Field.leavable] at same
    obtain ⟨hguild, huser, hchannel, hsession, -⟩ := same
    unfold ofGiven
    rw [Given.required_congr hguild, Given.required_congr huser, Given.nullable_congr hchannel,
      Given.required_congr hsession]
  · simp only [fields, List.forall_mem_cons] at taken
    obtain ⟨hguild, huser, hchannel, hsession, -⟩ := taken
    refine concludes_required hguild fun guild hg => ?_
    refine concludes_required huser fun user hu => ?_
    refine concludes_nullable hchannel fun channel hc => ?_
    exact concludes_required hsession fun sessionId hs => concludes_ok ⟨hg, hu, hc, hs⟩

end StateEvent

namespace ServerEvent

/-- A server event has the fields that are given. -/
structure Has (given : Given) (e : ServerEvent) : Prop where
  guild : Gives given "guild_id" decodeSnowflake e.guild
  endpoint : MayGive given "endpoint" decodeText e.endpoint
  token : Gives given "token" decodeText e.token

/-- What is made of the fields of a server event. -/
def ofGiven (given : Given) : Except Json.Error ServerEvent := do
  let guild ← given.required "guild_id" decodeSnowflake
  let endpoint ← given.nullable "endpoint" decodeText
  let token ← given.required "token" decodeText
  return ⟨guild, endpoint, token⟩

theorem reads : ReadsRecord (decode .text) fields ["guild_id", "token"] Has := by
  have hreads : ∀ d, decode .text d = readRecord .text "VoiceServerEvent" fields d >>= ofGiven :=
    fun _ => rfl
  refine readsRecord hreads (by decide) (fun given given' same => ?_) (fun given taken => ?_)
  · simp only [fields, List.forall_mem_cons, Field.of, Field.leavable] at same
    obtain ⟨hguild, hendpoint, htoken, -⟩ := same
    unfold ofGiven
    rw [Given.required_congr hguild, Given.nullable_congr hendpoint, Given.required_congr htoken]
  · simp only [fields, List.forall_mem_cons] at taken
    obtain ⟨hguild, hendpoint, htoken, -⟩ := taken
    refine concludes_required hguild fun guild hg => ?_
    refine concludes_nullable hendpoint fun endpoint he => ?_
    exact concludes_required htoken fun token ht => concludes_ok ⟨hg, he, ht⟩

end ServerEvent

/-- The four records of the wire, in every JSON text of them: any order of the members and
any members between them, any of the fields left out, ids as numbers or as texts. A channel
or an endpoint that is null or not given is none. -/
theorem record_decoding :
    ReadsRecord VoiceUpdate.decode VoiceUpdate.fields ["guild_id", "self_mute", "self_deaf"]
      VoiceUpdate.Has ∧
    ReadsRecord ShardCommand.decode ShardCommand.fields ["shard_id", "payload"]
      ShardCommand.Has ∧
    ReadsRecord (StateEvent.decode .text) StateEvent.fields
      ["guild_id", "user_id", "session_id"] StateEvent.Has ∧
    ReadsRecord (ServerEvent.decode .text) ServerEvent.fields ["guild_id", "token"]
      ServerEvent.Has :=
  ⟨VoiceUpdate.reads, ShardCommand.reads, StateEvent.reads, ServerEvent.reads⟩

/-- A state event that is given in full is refused if there is a member beside it whose name
is half of a surrogate pair. -/
theorem record_refused :
    let guild : Json.Member := ⟨.quoted "guild_id", .compact (.text "1")⟩
    let user : Json.Member := ⟨.quoted "user_id", .compact (.text "2")⟩
    let session : Json.Member := ⟨.quoted "session_id", .compact (.text "s")⟩
    let half : Json.Member := ⟨GatewayEvent.halfPair, .compact .null⟩
    let event : Json.Source := .object [guild, user, session]
    let beside : Json.Source := .object [half, guild, user, session]
    Json.decode (StateEvent.decode .text) (String.ofList event.chars) =
        .ok ⟨⟨1⟩, ⟨2⟩, none, "s"⟩ ∧
      Json.decode (StateEvent.decode .text) (String.ofList beside.chars) =
        .error (.fault .malformed) := by
  intro guild user session half event beside
  constructor
  · rw [Json.decode_source]
    rfl
  · rw [Json.decode_source]
    rfl

end VoiceGateway
