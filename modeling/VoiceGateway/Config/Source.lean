import VoiceGateway.Config.Decode

/-!
# Where settings come from

Settings are looked for in one place. If there is nothing the defaults apply;
what is there has to be a file with a UTF-8 text.
-/

namespace VoiceGateway

/-- What stands where the settings are looked for. -/
inductive ConfigSource where
  | missing
  | directory
  | file (bytes : ByteArray)

/-- Why settings could not be loaded. -/
inductive LoadError where
  | isDirectory
  | notUtf8
  | unreadable (cause : Config.ReadError)

/-- The wording; where a text is no document, only what kind of error it is. -/
def LoadError.message : LoadError → String
  | .isDirectory => "IO: Is a directory (os error 21)"
  | .notUtf8 => "IO: stream did not contain valid UTF-8"
  | .unreadable _ => "TOML:"

/-- The settings found in a place. -/
def ConfigSource.load : ConfigSource → Except LoadError Config
  | .missing => .ok {}
  | .directory => .error .isDirectory
  | .file bytes =>
    match String.fromUTF8? bytes with
    | none => .error .notUtf8
    | some s =>
      match Config.ofText s with
      | .ok c => .ok c
      | .error e => .error (.unreadable e)

end VoiceGateway
