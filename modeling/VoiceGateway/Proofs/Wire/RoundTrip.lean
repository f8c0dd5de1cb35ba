import VoiceGateway.Proofs.Json.Compact
import VoiceGateway.Wire.Command
import VoiceGateway.Wire.Event

/-!
# Messages read back

What is written of an id, a command or an event is read as that very id, command or
event. A record is written as an object with its fields in order, each once, so it is
enough that every field takes the value that is written for it.

> `readMembers_written`: the members of a written record are all taken.
> `messages_round_trip`: the six kinds of messages are read from their texts.
-/

namespace VoiceGateway

namespace Json

/-! ## Scalars -/

theorem decodeSnowflake_text (id : Snowflake) :
    decodeSnowflake (.text (some id.text)) = .ok id := by
  unfold decodeSnowflake
  simp only [Snowflake.ofText_text]

/-- The value of a count that fits into 64 bits. -/
theorem value_ofNat {n : Nat} (fits : n < 0x10000000000000000) :
    (Numeral.ofNat n).value = .ok (.unsigned n) := by
  unfold Numeral.value Numeral.ofNat
  simp only [Decimal.value_digits]
  rw [if_pos]
  · rfl
  · simp [fits]

theorem decodeUInt32_ofNat (n : UInt32) : decodeUInt32 (.number (.ofNat n.toNat)) = .ok n := by
  have hlt : n.toNat < 0x100000000 := n.toNat_lt
  unfold decodeUInt32
  simp only [value_ofNat (show n.toNat < 0x10000000000000000 by omega)]
  show (if n.toNat < 0x100000000 then Except.ok n.toNat.toUInt32 else _) = _
  rw [if_pos hlt]
  exact congrArg Except.ok UInt32.ofNat_toNat

/-- What may be null is read if what is not null is written as a text. -/
theorem decodeNullable_text {α : Type} {decoder : Decoder α} {spell : α → String}
    (h : ∀ a, decoder (.text (some (spell a))) = .ok a) (o : Option α) :
    decodeNullable decoder (ofOption (fun a => .text (spell a)) o).toDraft = .ok o := by
  cases o with
  | none => rfl
  | some a =>
    show (decoder (.text (some (spell a)))).map some = _
    rw [h]
    rfl

/-! ## Records -/

/-- A field takes what its decoder reads. -/
theorem Field.check_of {α : Type} {name : String} {decoder : Decoder α} {d : Draft} {a : α}
    (h : decoder d = .ok a) : (Field.of name decoder).check d = .ok () := by
  show (decoder d).map _ = _
  rw [h]
  rfl

theorem Field.check_leavable {f : Field} {d : Draft} (h : f.check d = .ok ()) :
    f.leavable.check d = .ok () := h

/-- A field is found by its name. -/
theorem find?_field {fields : List Field} (once : (fields.map (·.name)).Nodup) {f : Field}
    (h : f ∈ fields) : fields.find? (·.name == f.name) = some f := by
  induction fields with
  | nil => exact absurd h List.not_mem_nil
  | cons g fields ih =>
    obtain ⟨hg, once'⟩ := List.nodup_cons.mp once
    rcases List.mem_cons.mp h with rfl | hf
    · rw [List.find?_cons_of_pos (by simp)]
    · have hne : g.name ≠ f.name := by
        intro he
        refine hg ?_
        show g.name ∈ _
        rw [he]
        exact List.mem_map_of_mem hf
      rw [List.find?_cons_of_neg (by simpa using hne)]
      exact ih once' hf

/-- The fields that are still to come are taken behind those that were given. -/
theorem readMembers_behind (passed : List Field) (given : Given) {written : List (Field × Draft)}
    (once : ((passed ++ written.map (·.1)).map (·.name)).Nodup)
    (sofar : given.map (·.1) = passed.map (·.name))
    (taken : ∀ p ∈ written, p.1.check p.2 = .ok ()) :
    readMembers (passed ++ written.map (·.1)) .closed given
      (written.map fun p => (some p.1.name, p.2)) =
        .ok (given ++ written.map fun p => (p.1.name, p.2)) := by
  induction written generalizing passed given with
  | nil =>
    unfold readMembers
    show Except.ok given = Except.ok (given ++ [])
    rw [List.append_nil]
  | cons p written ih =>
    obtain ⟨f, d⟩ := p
    have hcheck : f.check d = .ok () := taken (f, d) List.mem_cons_self
    have hfind : (passed ++ f :: written.map (·.1)).find? (·.name == f.name) = some f :=
      find?_field once (by simp)
    have hnew : given.any (·.1 == f.name) = false := by
      rw [List.any_eq_false]
      intro x hx he
      have hx' : f.name ∈ passed.map (·.name) := by
        rw [← sofar, ← eq_of_beq he]
        exact List.mem_map_of_mem hx
      rw [List.map_append] at once
      exact (List.nodup_append.mp once).2.2 _ hx' _ List.mem_cons_self rfl
    have hsplit : passed ++ f :: written.map (·.1) = (passed ++ [f]) ++ written.map (·.1) := by
      rw [List.append_assoc]
      rfl
    have hrest := ih (passed ++ [f]) (given ++ [(f.name, d)])
      (by rw [← hsplit]; exact once) (by rw [List.map_append, List.map_append, sofar]; rfl)
      (fun p hp => taken p (List.mem_cons_of_mem _ hp))
    rw [← hsplit, List.append_assoc] at hrest
    show readMembers (passed ++ f :: written.map (·.1)) .closed given ((some f.name, d) :: _) = _
    unfold readMembers
    rw [hfind]
    show (if given.any (·.1 == f.name) then _ else _) = _
    rw [hnew, hcheck]
    exact hrest

/-- A record that is written with its fields in order, with values that they take, is
read as these values. -/
theorem readRecord_written (origin : Origin) (name : String) (written : List (Field × Draft))
    (once : (written.map fun p => p.1.name).Nodup) (taken : ∀ p ∈ written, p.1.check p.2 = .ok ()) :
    readRecord origin name (written.map (·.1))
      (.object (written.map fun p => (some p.1.name, p.2)) .closed) =
        .ok (written.map fun p => (p.1.name, p.2)) := by
  have once' : ((([] : List Field) ++ written.map (·.1)).map (·.name)).Nodup := by
    rw [List.nil_append, List.map_map]
    exact once
  exact readMembers_behind [] [] once' rfl taken

/-! ## Fields of a record that was read -/

theorem Given.required_cons {α : Type} (n name : String) (d : Draft) (given : Given)
    (decoder : Decoder α) : Given.required ((n, d) :: given) name decoder =
      if name = n then decoder d else given.required name decoder := by
  unfold Given.required
  rw [List.lookup_cons]
  by_cases h : name = n
  · rw [if_pos h, beq_iff_eq.mpr h]
  · rw [if_neg h, beq_eq_false_iff_ne.mpr h]

theorem Given.nullable_cons {α : Type} (n name : String) (d : Draft) (given : Given)
    (decoder : Decoder α) : Given.nullable ((n, d) :: given) name decoder =
      if name = n then decodeNullable decoder d else given.nullable name decoder := by
  unfold Given.nullable
  rw [List.lookup_cons]
  by_cases h : name = n
  · rw [if_pos h, beq_iff_eq.mpr h]
  · rw [if_neg h, beq_eq_false_iff_ne.mpr h]

end Json

open Json (Field decodeSnowflake decodeNullable decodeText decodeUInt32 decodeBool readRecord)

/-! ## Messages -/

theorem VoiceUpdate.decode_toJson (u : VoiceUpdate) :
    VoiceUpdate.decode u.toJson.toDraft = .ok u := by
  have hguild := Json.decodeSnowflake_text u.guild
  have hchannel := Json.decodeNullable_text Json.decodeSnowflake_text u.channel
  have once : ["guild_id", "channel_id", "self_mute", "self_deaf"].Nodup := by decide
  have hread : readRecord .text "VoiceStateUpdate" fields u.toJson.toDraft = _ :=
    Json.readRecord_written .text "VoiceStateUpdate"
      [(.of "guild_id" decodeSnowflake, _), (.of "channel_id" (decodeNullable decodeSnowflake), _),
        (.of "self_mute" decodeBool, .bool u.selfMute),
        (.of "self_deaf" decodeBool, .bool u.selfDeaf)]
      once (by
        simp only [List.forall_mem_cons]
        exact ⟨Field.check_of hguild, Field.check_of hchannel, rfl, rfl,
          fun _ hm => absurd hm List.not_mem_nil⟩)
  unfold VoiceUpdate.decode
  rw [hread]
  simp [Json.Given.required_cons, Json.Given.nullable_cons, Field.of, bind, Except.bind, pure,
    Except.pure, hguild, hchannel, decodeBool]

theorem ShardCommand.decode_toJson (c : ShardCommand) :
    ShardCommand.decode c.toJson.toDraft = .ok c := by
  have hshard := Json.decodeUInt32_ofNat c.shard
  have hupdate := c.update.decode_toJson
  have once : ["shard_id", "payload"].Nodup := by decide
  have hread : readRecord .text "ShardPayload" fields c.toJson.toDraft = _ :=
    Json.readRecord_written .text "ShardPayload"
      [(.of "shard_id" decodeUInt32, _),
        (.of "payload" VoiceUpdate.decode, c.update.toJson.toDraft)]
      once (by
        simp only [List.forall_mem_cons]
        exact ⟨Field.check_of hshard, Field.check_of hupdate,
          fun _ hm => absurd hm List.not_mem_nil⟩)
  unfold ShardCommand.decode
  rw [hread]
  simp [Json.Given.required_cons, Field.of, bind, Except.bind, pure, Except.pure, hshard, hupdate]

theorem StateEvent.decode_toJson (origin : Json.Origin) (e : StateEvent) :
    StateEvent.decode origin e.toJson.toDraft = .ok e := by
  have hguild := Json.decodeSnowflake_text e.guild
  have huser := Json.decodeSnowflake_text e.user
  have hchannel := Json.decodeNullable_text Json.decodeSnowflake_text e.channel
  have once : ["guild_id", "user_id", "channel_id", "session_id"].Nodup := by decide
  have hread : readRecord origin "VoiceStateEvent" fields e.toJson.toDraft = _ :=
    Json.readRecord_written origin "VoiceStateEvent"
      [(.of "guild_id" decodeSnowflake, _), (.of "user_id" decodeSnowflake, _),
        ((Field.of "channel_id" (decodeNullable decodeSnowflake)).leavable, _),
        (.of "session_id" decodeText, .text (some e.sessionId))]
      once (by
        simp only [List.forall_mem_cons]
        exact ⟨Field.check_of hguild, Field.check_of huser,
          Field.check_leavable (Field.check_of hchannel), rfl,
          fun _ hm => absurd hm List.not_mem_nil⟩)
  unfold StateEvent.decode
  rw [hread]
  simp [Json.Given.required_cons, Json.Given.nullable_cons, Field.of, Field.leavable, bind,
    Except.bind, pure, Except.pure, hguild, huser, hchannel, decodeText]

theorem ServerEvent.decode_toJson (origin : Json.Origin) (e : ServerEvent) :
    ServerEvent.decode origin e.toJson.toDraft = .ok e := by
  have hguild := Json.decodeSnowflake_text e.guild
  have hendpoint : decodeNullable decodeText (Json.ofOption .text e.endpoint).toDraft = _ :=
    Json.decodeNullable_text (fun s => rfl) e.endpoint
  have once : ["guild_id", "endpoint", "token"].Nodup := by decide
  have hread : readRecord origin "VoiceServerEvent" fields e.toJson.toDraft = _ :=
    Json.readRecord_written origin "VoiceServerEvent"
      [(.of "guild_id" decodeSnowflake, _),
        ((Field.of "endpoint" (decodeNullable decodeText)).leavable, _),
        (.of "token" decodeText, .text (some e.token))]
      once (by
        simp only [List.forall_mem_cons]
        exact ⟨Field.check_of hguild, Field.check_leavable (Field.check_of hendpoint), rfl,
          fun _ hm => absurd hm List.not_mem_nil⟩)
  unfold ServerEvent.decode
  rw [hread]
  simp [Json.Given.required_cons, Json.Given.nullable_cons, Field.of, Field.leavable, bind,
    Except.bind, pure, Except.pure, hguild, hendpoint, decodeText]

/-- An envelope with the tag before its content. -/
theorem GatewayEvent.decodeObject_written (tag : String) {kind : Kind} {content : Json.Draft}
    {e : GatewayEvent} (htag : kindOfTag tag = .ok kind)
    (hcontent : decodeContent .text kind content = .ok e) :
    decodeObject .closed [(some "t", .text (some tag)), (some "d", content)] = .ok e := by
  show (kindOfTag tag >>= fun _ => _) = _
  rw [htag]
  show (decodeContent .text kind content >>= fun _ => _) = _
  rw [hcontent]
  rfl

theorem GatewayEvent.decode_toJson (e : GatewayEvent) :
    GatewayEvent.decode e.toJson.toDraft = .ok e := by
  cases e with
  | state e =>
    have hcontent : decodeContent .text .state e.toJson.toDraft = .ok (.state e) := by
      show (StateEvent.decode .text _).map _ = _
      rw [e.decode_toJson]
      rfl
    exact decodeObject_written stateTag rfl hcontent
  | server e =>
    have hcontent : decodeContent .text .server e.toJson.toDraft = .ok (.server e) := by
      show (ServerEvent.decode .text _).map _ = _
      rw [e.decode_toJson]
      rfl
    exact decodeObject_written serverTag rfl hcontent

/-! ## Texts -/

/-- What is written of a value is read as that value. Therefore values with the same text
are the same, and what has been read from any text at all is, once it is written, read
and written as before. -/
structure RoundTrip {α : Type} (write : α → Json) (read : Json.Decoder α) : Prop where
  reads : ∀ a, Json.decode read (write a).compact = .ok a
  injective : ∀ a b, (write a).compact = (write b).compact → a = b
  again : ∀ s a, Json.decode read s = .ok a →
    ∃ b, Json.decode read (write a).compact = .ok b ∧ b = a ∧
      (write b).compact = (write a).compact

/-- It is enough that the draft of a written value is read as the value. -/
theorem roundTrip_of_drafts {α : Type} {write : α → Json} {read : Json.Decoder α}
    (h : ∀ a, read (write a).toDraft = .ok a) : RoundTrip write read := by
  have reads : ∀ a, Json.decode read (write a).compact = .ok a := by
    intro a
    rw [Json.decode_compact, h]
  refine ⟨reads, ?_, fun s a _ => ⟨a, reads a, rfl, rfl⟩⟩
  intro a b same
  have hb := reads b
  rw [← same, reads a] at hb
  injection hb

/-- Ids, voice updates, commands and events are read back from their compact texts: every
id, every flag and shard, whether or not there is a channel or an endpoint, and every
string as session id, endpoint or token. -/
theorem messages_round_trip :
    RoundTrip (fun id : Snowflake => .text id.text) decodeSnowflake ∧
    RoundTrip VoiceUpdate.toJson VoiceUpdate.decode ∧
    RoundTrip ShardCommand.toJson ShardCommand.decode ∧
    RoundTrip StateEvent.toJson (StateEvent.decode .text) ∧
    RoundTrip ServerEvent.toJson (ServerEvent.decode .text) ∧
    RoundTrip GatewayEvent.toJson GatewayEvent.decode := by
  refine ⟨?_, ?_, ?_, ?_, ?_, ?_⟩
  · exact roundTrip_of_drafts Json.decodeSnowflake_text
  · exact roundTrip_of_drafts VoiceUpdate.decode_toJson
  · exact roundTrip_of_drafts ShardCommand.decode_toJson
  · exact roundTrip_of_drafts (StateEvent.decode_toJson .text)
  · exact roundTrip_of_drafts (ServerEvent.decode_toJson .text)
  · exact roundTrip_of_drafts GatewayEvent.decode_toJson

end VoiceGateway
