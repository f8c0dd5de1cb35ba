import Std.Time
import VoiceGateway.CommandLine.Report

/-!
# The program

Takes the arguments, looks at what stands where the settings are looked for, and
prints the answer: its text to the standard output, an error to the standard
error, and the exit code.
-/

namespace VoiceGateway

/-- The code of the system's answer that a path names a directory. -/
def isDirectoryCode : UInt32 := 21

/-- What stands at a path; below something that is no directory there is nothing. -/
def ConfigSource.ofPath (path : String) : IO ConfigSource := do
  try
    return .file (← IO.FS.readBinFile path)
  catch
    | .noFileOrDirectory _ _ _ => return .missing
    | .inappropriateType _ code _ =>
      return if code = isDirectoryCode then .directory else .missing
    | e => throw e

end VoiceGateway

open VoiceGateway in
/-- Answers one command line. -/
def main (words : List String) : IO UInt32 := do
  let path := (← IO.getEnv "VL_CONFIG").getD "voxlink.toml"
  let source ← ConfigSource.ofPath path
  let now ← Std.Time.Timestamp.now
  let report := Report.ofArguments
    { configPath := path, source, now := (Std.Time.DateTime.ofTimestamp now .UTC).toISO8601String }
    words
  IO.print report.output
  if let some message := report.error then IO.eprintln message
  return report.code.toUInt32
