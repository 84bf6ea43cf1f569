import DumpConvert.Script.Conversion

/-!
# Command lines

A command line names an input file and possibly an output file, and may set options
before, between and after them.  The words are taken from left to right.

An option with a value of its own word, and a file name, wait until the next option or
file name is recognised before they are checked.  An unknown option is therefore reported
before a value that waits, while a known one has the waiting value checked first.
-/

namespace DumpConvert.Command

inductive Usage where
  /-- A value is missing, empty, or none of the possible ones. -/
  | invalidValue
  | unknownArgument
  /-- An option is given twice. -/
  | argumentConflict
  /-- There is no input file. -/
  | missingRequiredArgument
  /-- A value is given to an option without one. -/
  | tooManyValues
  | displayHelp
  | displayVersion
deriving Repr, DecidableEq

/-- Asking for help or for the version is no failure. -/
def Usage.exitCode : Usage → Nat
  | .displayHelp => 0
  | .displayVersion => 0
  | _ => 2

structure Arguments where
  debug : Bool
  mode : Mode
  profile : Option Text
  summaryFile : Option Text
  input : Text
  output : Option Text
deriving Repr, DecidableEq

/-! ## Options -/

inductive ValueOption where
  | mode
  | profile
  | summaryFile
deriving Repr, DecidableEq

inductive Switch where
  | debug
  | help
  | version
deriving Repr, DecidableEq

def valueOption? (name : Text) : Option ValueOption :=
  if name = "mode".toList then some .mode
  else if name = "profile".toList then some .profile
  else if name = "summary-json".toList then some .summaryFile
  else none

def switch? (name : Text) : Option Switch :=
  if name = "debug".toList then some .debug
  else if name = "help".toList then some .help
  else if name = "version".toList then some .version
  else none

def letterSwitch? (c : Char) : Option Switch :=
  if c = 'h' then some .help
  else if c = 'V' then some .version
  else none

def mode? (name : Text) : Option Mode :=
  if name = "schema".toList then some .schema
  else if name = "heuristic".toList then some .heuristic
  else none

/-! ## Taking the words -/

inductive Waiting where
  | option (name : ValueOption) (value : Option Text)
  | file (name : Text)
deriving Repr, DecidableEq

structure Collected where
  debug : Bool := false
  mode : Option Mode := none
  profile : Option Text := none
  summaryFile : Option Text := none
  input : Option Text := none
  output : Option Text := none
  waiting : Option Waiting := none
  /-- The words after `--` are file names. -/
  onlyFiles : Bool := false
deriving Repr, DecidableEq

namespace Collected

def path? (value : Text) : Except Usage Text :=
  if value.isEmpty then .error .invalidValue else .ok value

def setOption (collected : Collected) (name : ValueOption) (value : Text) :
    Except Usage Collected :=
  match name with
  | .mode =>
      if collected.mode.isSome then .error .argumentConflict
      else
        match mode? value with
        | some mode => .ok { collected with mode := some mode }
        | none => .error .invalidValue
  | .profile =>
      if collected.profile.isSome then .error .argumentConflict
      else (path? value).map (fun path => { collected with profile := some path })
  | .summaryFile =>
      if collected.summaryFile.isSome then .error .argumentConflict
      else (path? value).map (fun path => { collected with summaryFile := some path })

def setFile (collected : Collected) (name : Text) : Except Usage Collected :=
  (path? name).map (fun path =>
    if collected.input.isNone then { collected with input := some path }
    else { collected with output := some path })

def settle (collected : Collected) : Except Usage Collected :=
  let free := { collected with waiting := none }
  match collected.waiting with
  | none => .ok free
  | some (.option _ none) => .error .invalidValue
  | some (.option name (some value)) => free.setOption name value
  | some (.file name) => free.setFile name

def applySwitch (collected : Collected) (switch : Switch) : Except Usage Collected :=
  match collected.settle with
  | .error usage => .error usage
  | .ok settled =>
      match switch with
      | .help => .error .displayHelp
      | .version => .error .displayVersion
      | .debug =>
          if settled.debug then .error .argumentConflict
          else .ok { settled with debug := true }

def applyOption
    (collected : Collected) (name : ValueOption) (attached : Option Text) :
    Except Usage Collected :=
  match collected.settle with
  | .error usage => .error usage
  | .ok settled =>
      match attached with
      | some value => settled.setOption name value
      | none => .ok { settled with waiting := some (.option name none) }

/-- The name of a long option and the value after its first equals sign. -/
def attachedValue (word : Text) : Text × Option Text :=
  match word.span (· ≠ '=') with
  | (name, _ :: value) => (name, some value)
  | (name, []) => (name, none)

/-- Act on a long option, given without its hyphens. -/
def takeLong (collected : Collected) (word : Text) : Except Usage Collected :=
  let (name, attached) := attachedValue word
  match valueOption? name with
  | some option => collected.applyOption option attached
  | none =>
      match switch? name, attached with
      | none, _ => .error .unknownArgument
      | some _, some _ => .error .tooManyValues
      | some switch, none => collected.applySwitch switch

def takeLetters (collected : Collected) : Text → Except Usage Collected
  | [] => .ok collected
  | c :: rest =>
      match letterSwitch? c with
      | none => .error .unknownArgument
      | some switch =>
          match collected.applySwitch switch with
          | .error usage => .error usage
          | .ok next => takeLetters next rest

def isFull (collected : Collected) : Bool :=
  collected.output.isSome ||
    (collected.input.isSome &&
      match collected.waiting with
      | some (.file _) => true
      | _ => false)

def takeFile (collected : Collected) (word : Text) : Except Usage Collected :=
  if collected.isFull then .error .unknownArgument
  else collected.settle.map (fun settled => { settled with waiting := some (.file word) })

/-- Take a word that is no option: the value that is waited for, or a file name. -/
def takeValue (collected : Collected) (word : Text) : Except Usage Collected :=
  match collected.waiting with
  | some (.option name none) =>
      .ok { collected with waiting := some (.option name (some word)) }
  | _ => collected.takeFile word

def take (collected : Collected) (word : Text) : Except Usage Collected :=
  if collected.onlyFiles then collected.takeFile word
  else
    match word with
    | ['-', '-'] => .ok { collected with onlyFiles := true }
    | '-' :: '-' :: long => collected.takeLong long
    | '-' :: c :: letters => collected.takeLetters (c :: letters)
    | _ => collected.takeValue word

def takeAll (collected : Collected) : List Text → Except Usage Collected
  | [] => .ok collected
  | word :: rest =>
      match collected.take word with
      | .error usage => .error usage
      | .ok next => takeAll next rest

def finish (collected : Collected) : Except Usage Arguments :=
  match collected.settle with
  | .error usage => .error usage
  | .ok settled =>
      match settled.input with
      | none => .error .missingRequiredArgument
      | some input =>
          .ok
            { debug := settled.debug
              mode := settled.mode.getD .schema
              profile := settled.profile
              summaryFile := settled.summaryFile
              input := input
              output := settled.output }

end Collected

/-- Read a command line, given without the name of the program. -/
def Arguments.parse (words : List Text) : Except Usage Arguments :=
  match ({} : Collected).takeAll words with
  | .error usage => .error usage
  | .ok collected => collected.finish

end DumpConvert.Command
