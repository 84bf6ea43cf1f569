import DumpConvert.Command.Run
import Std.Time.DateTime.Timestamp

/-!
# The program

The operating system as the host of a run, and the entry point of the program.
-/

namespace DumpConvert.Command

/-! ## The host -/

/-- A fault that has no name of its own, from its number and the words of the system. -/
def numberedFault (number : UInt32) (words : String) : SystemFault :=
  .other (words ++ " (os error " ++ toString number ++ ")").toList

def faultOfError (error : IO.Error) : SystemFault :=
  match error with
  | .noFileOrDirectory .. => .noSuchFile
  | .inappropriateType _ 20 _ => .notDirectory
  | .inappropriateType _ 21 _ => .isDirectory
  | .permissionDenied _ number words => numberedFault number words
  | .invalidArgument _ number words => numberedFault number words
  | .resourceExhausted _ number words => numberedFault number words
  | .resourceVanished number words => numberedFault number words
  | .otherError number words => numberedFault number words
  | _ => .other (toString error).toList

def readTextFile (path : Text) : IO (Except SystemFault Text) := do
  match ← (IO.FS.readBinFile (String.ofList path)).toBaseIO with
  | .error error => pure (.error (faultOfError error))
  | .ok bytes =>
      match String.fromUTF8? bytes with
      | some content => pure (.ok content.toList)
      | none => pure (.error .notUtf8)

def catchFault (action : IO Unit) : IO (Except SystemFault Unit) := do
  match ← action.toBaseIO with
  | .ok () => pure (.ok ())
  | .error error => pure (.error (faultOfError error))

def levelName : Level → String
  | .debug => "DEBUG"
  | .info => "INFO"
  | .warn => "WARN"

def isShown (debug : Bool) (level : Level) : Bool :=
  debug || level != .debug

def systemHost (debug : Bool) (started : Nat) : Host IO :=
  { readFile := readTextFile
    writeFile := fun path t => catchFault (IO.FS.writeFile (String.ofList path) (String.ofList t))
    writeOutput := fun t => catchFault (do
      let out ← IO.getStdout
      out.putStr (String.ofList t)
      out.flush)
    writeReport := fun t => catchFault (IO.eprint (String.ofList t))
    log := fun level message => do
      if isShown debug level then
        IO.eprintln (levelName level ++ " " ++ String.ofList message)
    now := do
      let now ← Std.Time.Timestamp.now
      pure (Moment.ofSeconds now.toSecondsSinceUnixEpoch.val)
    elapsed := do
      let now ← IO.monoMsNow
      pure (now - started) }

/-! ## Usage -/

def usageText : String :=
  String.intercalate "\n"
    [ "Convert a SQLite dump into a PostgreSQL script.",
      "",
      "Usage: dump-convert [OPTIONS] <INPUT> [OUTPUT]",
      "",
      "Options:",
      "      --debug                Show debug messages",
      "      --mode <MODE>          What types are taken from: schema (default) or heuristic",
      "      --profile <FILE>       JSON profile that overrides the built-in tables",
      "      --summary-json <FILE>  Write the summary as JSON to this file",
      "  -h, --help                 Show this help",
      "  -V, --version              Show the version" ]

def usageMessage : Usage → String
  | .invalidValue => "error: an option or a file has no valid value"
  | .unknownArgument => "error: unexpected argument"
  | .argumentConflict => "error: an option is given twice"
  | .missingRequiredArgument => "error: no input file is given"
  | .tooManyValues => "error: an option takes no value"
  | .displayHelp => usageText
  | .displayVersion => "dump-convert 0.1.0"

def showUsage (usage : Usage) : IO UInt32 := do
  if usage.exitCode = 0 then IO.println (usageMessage usage)
  else IO.eprintln (usageMessage usage)
  pure (UInt32.ofNat usage.exitCode)

def runOnSystem (arguments : Arguments) : IO UInt32 := do
  let started ← IO.monoMsNow
  match ← (run (systemHost arguments.debug started) arguments).run with
  | .ok () => pure 0
  | .error failure =>
      IO.eprintln ("ERROR " ++ String.ofList failure.message)
      pure 1

end DumpConvert.Command

open DumpConvert.Command

/-- The entry point: an empty command line is shown the usage. -/
def main (words : List String) : IO UInt32 := do
  if words.isEmpty then
    IO.println usageText
    pure 1
  else
    match Arguments.parse (words.map String.toList) with
    | .error usage => showUsage usage
    | .ok arguments => runOnSystem arguments
