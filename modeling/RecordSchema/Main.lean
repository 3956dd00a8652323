import RecordSchema.CommandLine
import RecordSchema.Text.Lines
import Std.Time

/-! The program: a disk, the standard streams and the clock around the command line. -/
namespace RecordSchema

/-- The number and the words of an error of the system. -/
def systemError? : IO.Error → Option (Nat × String)
  | .alreadyExists _ number words | .otherError number words | .resourceBusy number words
  | .resourceVanished number words | .unsupportedOperation number words | .hardwareFault number words
  | .unsatisfiedConstraints number words | .illegalOperation number words | .protocolError number words
  | .timeExpired number words | .interrupted _ number words | .noFileOrDirectory _ number words
  | .invalidArgument _ number words | .permissionDenied _ number words | .resourceExhausted _ number words
  | .inappropriateType _ number words | .noSuchThing _ number words =>
    -- Some layers of the system give numbers as negative ones.
    some ((min number (0 - number)).toNat, words)
  | .unexpectedEof | .userError _ => none

/-- What an error of the system says about a path. -/
def entryOfError (error : IO.Error) : Except Files.AccessError Files.Entry :=
  match systemError? error with
  | none | some (2, _) => .error .notFound
  | some (20, _) => .error .notADirectory
  | some (21, _) => .ok .directory
  | some (36, _) => .error .nameTooLong
  | some (number, words) => .error (.refused number words)

/-- The disk of the system. -/
def systemDisk : Files.Disk IO where
  look path := do
    if path.toList.contains '\x00' then return .error .embeddedNul
    try
      let octets ← IO.FS.readBinFile path
      return .ok (.file octets.toList)
    catch error => return entryOfError error

/-- The octets that are left of a stream, after the given ones. -/
partial def readRest (stream : IO.FS.Stream) (octets : ByteArray) : IO ByteArray := do
  let more ← stream.read 65536
  if more.isEmpty then return octets else readRest stream (octets ++ more)

/-- The text on the standard input. Octets that are no UTF-8 are an error. -/
def standardInput : IO String := do
  let octets ← readRest (← IO.getStdin) .empty
  match Text.utf8Decode octets.toList with
  | .ok text => return String.ofList (Text.unifyLineEnds text)
  | .error error => throw (.userError error.message)

/-- The time of a log line. -/
def currentTime : IO String := do
  return (← Std.Time.PlainDateTime.now).format "yyyy-MM-dd HH:mm:ss,SSS"

end RecordSchema

/-- Runs the command line and exits with its code, or with 1 and a message if it fails. -/
def main (arguments : List String) : IO UInt32 := do
  let transcript ← RecordSchema.CommandLine.run RecordSchema.systemDisk RecordSchema.standardInput arguments
  IO.print transcript.output
  IO.eprint (transcript.errorOutput (← RecordSchema.currentTime))
  match transcript.ending with
  | .exit code => return code.toUInt32
  | .failed failure =>
    IO.eprintln ((failure.message?).getD "unsupported operation")
    return 1
