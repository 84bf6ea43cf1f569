import DumpConvert.Command.Arguments
import DumpConvert.Command.Report
import DumpConvert.Profile.File

/-!
# Running a conversion

A run reads the profile and the dump, converts, and writes the script, the summary file
and the report, in this order.  The first step that fails ends the run; what was written
before stays.

The run asks a host for every effect.  The host of the program is the operating system,
and the host of a statement about runs is a value.
-/

namespace DumpConvert.Command

inductive SystemFault where
  | noSuchFile
  | isDirectory
  | notDirectory
  | nameTooLong
  | nulInName
  | notUtf8
  | other (wording : Text)
deriving Repr, DecidableEq

def SystemFault.wording : SystemFault → Text
  | .noSuchFile => "No such file or directory (os error 2)".toList
  | .isDirectory => "Is a directory (os error 21)".toList
  | .notDirectory => "Not a directory (os error 20)".toList
  | .nameTooLong => "File name too long (os error 36)".toList
  | .nulInName => "file name contained an unexpected NUL byte".toList
  | .notUtf8 => "stream did not contain valid UTF-8".toList
  | .other wording => wording

inductive Failure where
  /-- A path could not be read or written. -/
  | io (path : Text) (fault : SystemFault)
  /-- A profile file does not hold a profile. -/
  | profile (path : Text) (fault : Json.Fault)
deriving Repr, DecidableEq

def faultWording : Json.Fault → Text
  | .ended => "the text ends inside a value".toList
  | .malformed => "the text is not JSON".toList
  | .mistyped => "a value has not the expected shape".toList

def Failure.message : Failure → Text
  | .io path fault => "I/O error on ".toList ++ path ++ ':' :: ' ' :: fault.wording
  | .profile path fault =>
      "Invalid profile ".toList ++ path ++ ':' :: ' ' :: faultWording fault

structure Host (m : Type → Type) where
  readFile : Text → m (Except SystemFault Text)
  writeFile : Text → Text → m (Except SystemFault Unit)
  writeOutput : Text → m (Except SystemFault Unit)
  writeReport : Text → m (Except SystemFault Unit)
  log : Level → Text → m Unit
  now : m Moment
  /-- The milliseconds since the run began. -/
  elapsed : m Nat

variable {m : Type → Type} [Monad m]

def onPath {α : Type} (path : Text) (action : m (Except SystemFault α)) : ExceptT Failure m α :=
  ExceptT.mk (do
    match ← action with
    | .ok value => pure (.ok value)
    | .error fault => pure (.error (.io path fault)))

def loadProfile (host : Host m) : Option Text → ExceptT Failure m Profile
  | none => pure Profile.builtIn
  | some path => do
      host.log .debug ("main: Loading profile ".toList ++ path)
      let file ← onPath path (host.readFile path)
      match Profile.load file with
      | .ok profile => pure profile
      | .error fault => throw (.profile path fault)

def writeScript (host : Host m) (output : Option Text) (script : Text) :
    ExceptT Failure m Unit :=
  match output with
  | some path => do
      onPath path (host.writeFile path script)
      host.log .info ("Conversion completed. Output written to: ".toList ++ path)
  | none => onPath "<stdout>".toList (host.writeOutput script)

def writeSummary (host : Host m) (arguments : Arguments) (summary : Summary) :
    ExceptT Failure m Unit :=
  match arguments.summaryFile with
  | none => pure ()
  | some path => do
      let elapsed ← host.elapsed
      onPath path (host.writeFile path (summaryText arguments.mode elapsed summary))

def logEvents (host : Host m) : List Event → m Unit
  | [] => pure ()
  | event :: rest => do
      host.log event.level event.message
      logEvents host rest

def run (host : Host m) (arguments : Arguments) : ExceptT Failure m Unit := do
  host.log .debug ("main: Input file: ".toList ++ arguments.input)
  let profile ← loadProfile host arguments.profile
  let dump ← onPath arguments.input (host.readFile arguments.input)
  let generated ← host.now
  let conversion := convertDump profile arguments.mode generated dump
  ExceptT.lift (logEvents host conversion.events)
  writeScript host arguments.output conversion.script
  writeSummary host arguments conversion.summary
  onPath "<stderr>".toList (host.writeReport (reportText conversion.summary))
  let elapsed ← host.elapsed
  host.log .debug ("main: Conversion took ".toList ++ Text.decimal elapsed ++ "ms".toList)

end DumpConvert.Command
