import VoiceGateway.Json.Decode
import VoiceGateway.Json.Value

/-!
# Gateway events

What the gateway sends on its own account and a voice handshake waits for: that
a user's voice state has changed, and that a guild has been assigned a voice
server. An assignment may come without an endpoint; another one follows then.

On the wire an event is an envelope with a tag `t` and content `d`. The two may
come in either order: content that comes first is kept and decoded once the tag
is known.
-/

namespace VoiceGateway

/-- A user's voice state has changed. -/
structure StateEvent where
  guild : Snowflake
  user : Snowflake
  channel : Option Snowflake
  sessionId : String
deriving DecidableEq, Repr

/-- A guild has been assigned a voice server. -/
structure ServerEvent where
  guild : Snowflake
  endpoint : Option String
  token : String
deriving DecidableEq, Repr

/-- The events that voice handshakes know. -/
inductive GatewayEvent where
  | state (e : StateEvent)
  | server (e : ServerEvent)
deriving DecidableEq, Repr

namespace StateEvent

def toJson (e : StateEvent) : Json :=
  .object [("guild_id", .text e.guild.text), ("user_id", .text e.user.text),
    ("channel_id", Json.ofOption (fun c => .text c.text) e.channel),
    ("session_id", .text e.sessionId)]

/-- The fields in the order in which an array gives them. -/
def fields : List Json.Field :=
  [.of "guild_id" Json.decodeSnowflake, .of "user_id" Json.decodeSnowflake,
    (Json.Field.of "channel_id" (Json.decodeNullable Json.decodeSnowflake)).leavable,
    .of "session_id" Json.decodeText]

def decode (origin : Json.Origin) : Json.Decoder StateEvent := fun d => do
  let given ← Json.readRecord origin "VoiceStateEvent" fields d
  let guild ← given.required "guild_id" Json.decodeSnowflake
  let user ← given.required "user_id" Json.decodeSnowflake
  let channel ← given.nullable "channel_id" Json.decodeSnowflake
  let sessionId ← given.required "session_id" Json.decodeText
  return ⟨guild, user, channel, sessionId⟩

end StateEvent

namespace ServerEvent

def toJson (e : ServerEvent) : Json :=
  .object [("guild_id", .text e.guild.text), ("endpoint", Json.ofOption .text e.endpoint),
    ("token", .text e.token)]

/-- The fields in the order in which an array gives them. -/
def fields : List Json.Field :=
  [.of "guild_id" Json.decodeSnowflake,
    (Json.Field.of "endpoint" (Json.decodeNullable Json.decodeText)).leavable,
    .of "token" Json.decodeText]

def decode (origin : Json.Origin) : Json.Decoder ServerEvent := fun d => do
  let given ← Json.readRecord origin "VoiceServerEvent" fields d
  let guild ← given.required "guild_id" Json.decodeSnowflake
  let endpoint ← given.nullable "endpoint" Json.decodeText
  let token ← given.required "token" Json.decodeText
  return ⟨guild, endpoint, token⟩

end ServerEvent

namespace GatewayEvent

/-- Which kind of event an envelope holds. -/
inductive Kind where
  | state
  | server
deriving DecidableEq, Repr

def stateTag : String := "VOICE_STATE_UPDATE"

def serverTag : String := "VOICE_SERVER_UPDATE"

/-- The guild an event is about. -/
def guild : GatewayEvent → Snowflake
  | .state e => e.guild
  | .server e => e.guild

def toJson : GatewayEvent → Json
  | .state e => .object [("t", .text stateTag), ("d", e.toJson)]
  | .server e => .object [("t", .text serverTag), ("d", e.toJson)]

/-- The kind that a tag names. -/
def kindOfTag (tag : String) : Except Json.Error Kind :=
  if tag = stateTag then .ok .state
  else if tag = serverTag then .ok .server
  else .error (.mismatch (.unknownVariant tag stateTag serverTag))

/-- What a tag is called where something else is found. -/
def tagShape : String := "variant identifier"

/-- The error for a token that stands where an object that serves as a tag should
have its name. -/
def refuseName : Option Json.Token → Json.Error
  | none => .fault .truncated
  | some .null => .mismatch (.wrongType .null tagShape)
  | some (.bool b) => .mismatch (.wrongType (.bool b) tagShape)
  | some (.number n) => (Json.Draft.number n).refuse tagShape
  | some .openArray => .mismatch (.wrongType .sequence tagShape)
  | some .openObject => .mismatch (.wrongType .map tagShape)
  | some (.brokenText k _) => .fault k
  | some (.broken k _) => .fault k
  | some _ => .fault .malformed

/-- The end of an object that serves as a tag: nothing may follow its member. -/
def endOfTag (ending : Json.Ending) (members : List (Option String × Json.Draft)) :
    Except Json.Error Unit :=
  match members, ending with
  | [], .closed => .ok ()
  | [], .cut f => .error (.fault f)
  | _, _ => .error (.fault .malformed)

/-- The tag of an envelope that is an object: a string, or an object whose only
member has the tag for its name and null for its value. -/
def decodeTag : Json.Decoder Kind
  | .text (some tag) => kindOfTag tag
  | .brokenText k _ => .error (.fault k)
  | .absent f => .error (.fault f)
  | .object [] (.nameless next) => .error (refuseName next)
  | .object ((some tag, v) :: ms) ending => do
    let kind ← kindOfTag tag
    match v with
    | .null => pure ()
    | v => throw (v.refuse "unit")
    endOfTag ending ms
    return kind
  | _ => .error (.fault .malformed)

/-- The tag of an envelope that is an array: a string. -/
def decodePlainTag : Json.Decoder Kind
  | .text (some tag) => kindOfTag tag
  | d => .error (d.refuse tagShape)

/-- The content of an envelope of known kind. -/
def decodeContent (origin : Json.Origin) : Kind → Json.Decoder GatewayEvent
  | .state, d => (StateEvent.decode origin d).map .state
  | .server, d => (ServerEvent.decode origin d).map .server

/-- How deep content may nest that has to be kept: 127 levels with the envelope. -/
def keptDepth : Nat := 126

/-- The names an envelope knows. -/
inductive Part where
  | tag
  | content
deriving DecidableEq, Repr

def Part.name : Part → String
  | .tag => "t"
  | .content => "d"

/-- The next member that an envelope knows, its value, and the members after it;
others are skipped. -/
def nextPart (ending : Json.Ending) : List (Option String × Json.Draft) →
    Except Json.Error (Option (Part × Json.Draft × List (Option String × Json.Draft)))
  | [] =>
    match ending.fault? fun k _ => k with
    | none => .ok none
    | some f => .error (.fault f)
  | (none, _) :: _ => .error (.fault .malformed)
  | (some name, v) :: ms =>
    if name = Part.tag.name then .ok (some (.tag, v, ms))
    else if name = Part.content.name then .ok (some (.content, v, ms))
    else
      match v.skip with
      | .error f => .error (.fault f)
      | .ok () => nextPart ending ms

/-- No part may be given twice. -/
def noMoreParts (ending : Json.Ending) (members : List (Option String × Json.Draft)) :
    Except Json.Error Unit := do
  match ← nextPart ending members with
  | none => return ()
  | some (part, _, _) => throw (.mismatch (.duplicateField part.name))

/-- An envelope that is an object. -/
def decodeObject (ending : Json.Ending) (members : List (Option String × Json.Draft)) :
    Except Json.Error GatewayEvent := do
  match ← nextPart ending members with
  | none => throw (.mismatch (.missingField Part.tag.name))
  | some (.tag, v, ms) =>
    let kind ← decodeTag v
    match ← nextPart ending ms with
    | none => throw (.mismatch (.missingField Part.content.name))
    | some (.tag, _, _) => throw (.mismatch (.duplicateField Part.tag.name))
    | some (.content, w, rest) =>
      let event ← decodeContent .text kind w
      noMoreParts ending rest
      return event
  -- The content comes first, so it is kept until the tag is known.
  | some (.content, w, ms) =>
    match w.keep keptDepth with
    | .error f => throw (.fault f)
    | .ok () => pure ()
    match ← nextPart ending ms with
    | none => throw (.mismatch (.missingField Part.tag.name))
    | some (.content, _, _) => throw (.mismatch (.duplicateField Part.content.name))
    | some (.tag, v, rest) =>
      let kind ← decodeTag v
      let event ← decodeContent .kept kind w
      noMoreParts ending rest
      return event

/-- What an envelope is called where something else is found. -/
def shape : String := "adjacently tagged enum GatewayEvent"

/-- An envelope that is an array of tag and content. -/
def decodeArray (cut : Option Json.Fault) : List Json.Draft → Except Json.Error GatewayEvent
  | [] =>
    match cut with
    | some f => .error (.fault f)
    | none => .error (.mismatch (.wrongLength 0 shape))
  | v :: vs => do
    let kind ← decodePlainTag v
    match vs, cut with
    | [], some f => throw (.fault f)
    | [], none => throw (.mismatch (.wrongLength 1 shape))
    | w :: rest, cut =>
      let event ← decodeContent .text kind w
      match rest, cut with
      | [], none => return event
      | [], some f => throw (.fault f)
      | _ :: _, _ => throw (.fault .malformed)

def decode : Json.Decoder GatewayEvent
  | .object members ending => decodeObject ending members
  | .array items cut => decodeArray cut items
  | d => .error (d.refuse shape)

end GatewayEvent

end VoiceGateway
