import DumpConvert.Calendar
import DumpConvert.Profile.Basic
import DumpConvert.Schema.Table
import DumpConvert.Sql.Literal

/-!
# Values

A literal of the dump becomes a literal of the script.  `NULL` and blobs are recognised
first, and a string that is spelled with `replace` calls becomes a plain string.  After
that the declared type and the name of the column decide, if the column is known; else
the shape of the token, its place and the words of its statement do.

Last, a position that is known to hold timestamps turns a numeral into one, unless a
declared type was used.
-/

namespace DumpConvert

inductive ValueKind where
  | null
  | timestamp
  /-- A numeral that no timestamp can be written for, quoted as it is. -/
  | timestampFallback
  | boolean
  | json
  | text
  | numeric
  | blob
  /-- A token of a timestamp or boolean column that is left as it is. -/
  | unchanged
deriving Repr, DecidableEq

structure Rendered where
  text : Text
  kind : ValueKind
deriving Repr, DecidableEq

structure Converted extends Rendered where
  /-- The column of the value decided. -/
  schemaDriven : Bool
  /-- The position of the value made it a timestamp. -/
  repaired : Bool
deriving Repr, DecidableEq

structure Site where
  table : Text
  position : Nat
  column : Option Column
  /-- The statement holds one of the boolean patterns. -/
  booleanHint : Bool
deriving Repr, DecidableEq

namespace Value

/-! ## Timestamps -/

def epochOrQuoted (token : Text) : Rendered :=
  match epochLiteral? token with
  | some literal => ⟨literal, .timestamp⟩
  | none => ⟨'\'' :: token ++ ['\''], .timestampFallback⟩

def isEpochCandidate (profile : Profile) (token : Text) : Bool :=
  Text.isDigits token && profile.minEpochDigits ≤ token.length

def timestampValue (profile : Profile) (token : Text) : Rendered :=
  if Sql.Literal.isQuoted token then ⟨token, .unchanged⟩
  else if isEpochCandidate profile token then epochOrQuoted token
  else ⟨Sql.Literal.escape token, .text⟩

/-! ## Booleans -/

def boolean? (token : Text) : Option Rendered :=
  if token = ['0'] then some ⟨"false".toList, .boolean⟩
  else if token = ['1'] then some ⟨"true".toList, .boolean⟩
  else none

/-! ## Rules -/

def byClass (profile : Profile) (token : Text) : TypeClass → Rendered
  | .timestamp => timestampValue profile token
  | .boolean => (boolean? token).getD ⟨token, .unchanged⟩
  | .text => ⟨Sql.Literal.escape token, .text⟩
  | .numeric => ⟨token, .numeric⟩
  | .json =>
      if Sql.Literal.isQuoted token then ⟨token, .json⟩ else ⟨Sql.Literal.escape token, .json⟩

def numberOrText (token : Text) : Rendered :=
  if Sql.Literal.isNumber token then ⟨token, .numeric⟩ else ⟨Sql.Literal.escape token, .text⟩

/--
Write a token by the column it belongs to.

A timestamp suffix of the name comes before the type.  A column without a type decides
nothing.
-/
def bySchema? (profile : Profile) (token : Text) (column : Column) : Option Rendered :=
  if profile.hasTimestampSuffix column.name then some (timestampValue profile token)
  else
    match profile.typeClass? column.baseType with
    | some kind => some (byClass profile token kind)
    | none => if column.baseType.isEmpty then none else some (numberOrText token)

/-- The text of a string literal is a braced body. -/
def isBraced (body : Text) : Bool :=
  body.head? == some '{' && body.getLast? == some '}'

def byShape (profile : Profile) (token : Text) (site : Site) : Rendered :=
  if Text.isDigits token ∧ token.length = profile.heuristicEpochDigits then epochOrQuoted token
  else
    let isFlag := site.booleanHint || profile.isBooleanPosition site.table site.position
    match (boolean? token).filter (fun _ => isFlag) with
    | some flag => flag
    | none =>
        match Sql.Literal.body? token with
        | some body =>
            if isBraced body then ⟨token, .json⟩ else ⟨Sql.Literal.escape token, .text⟩
        | none => numberOrText token

def plainToken (token : Text) : Text :=
  match Sql.Literal.replaceCall? token with
  | some t => Sql.Literal.ofText t
  | none => token

def isTimestampKind : ValueKind → Bool
  | .timestamp => true
  | .timestampFallback => true
  | _ => false

def withoutSchema (profile : Profile) (token : Text) (site : Site) : Converted :=
  let shaped := byShape profile token site
  if !isTimestampKind shaped.kind && profile.isRepairPosition site.table site.position
      && isEpochCandidate profile token then
    ⟨epochOrQuoted token, false, true⟩
  else
    ⟨shaped, false, false⟩

def convert (profile : Profile) (token : Text) (site : Site) : Converted :=
  if token = "NULL".toList then ⟨⟨"NULL".toList, .null⟩, site.column.isSome, false⟩
  else
    match Sql.Literal.blobDigits? token with
    | some digits =>
        ⟨⟨'\'' :: '\\' :: 'x' :: digits ++ ['\''], .blob⟩, site.column.isSome, false⟩
    | none =>
        let plain := plainToken token
        match site.column.bind (bySchema? profile plain) with
        | some rendered => ⟨rendered, true, false⟩
        | none => withoutSchema profile plain site

end Value

end DumpConvert
