import DumpConvert.Sql.Quoting
import DumpConvert.Text.Blank
import DumpConvert.Text.CharClass

/-!
# Keywords and identifiers

Keywords of a statement header are matched without regard to case under Unicode simple case
folding.  Two characters outside ASCII fold to ASCII letters, the long s and the Kelvin
sign, and they match `s` and `k` here.

An identifier of a dump is written bare, between double quotes, between backticks or
between square brackets.  The script always writes it between double quotes.
`Identifier.unquote` takes off one layer of quoting, whichever style it has, and
`Identifier.scanName?` reads the written name of a table from the front of a text.  Taking
off what `quote` wrote gives the name back (`unquote_quote`).
-/

namespace DumpConvert.Sql

/-- The simple case folding of a character, as far as it reaches ASCII letters. -/
def foldCase (c : Char) : Char :=
  if c = '\u017F' then 's' else if c = '\u212A' then 'k' else c.toLower

/-- The character folds to a letter of ASCII, or is an underscore. -/
def isNameStart (c : Char) : Bool :=
  (foldCase c).isLower || c == '_'

/-- The text begins with the word, given in lower case; the rest of the text follows. -/
def keyword? : Text → Text → Option Text
  | [], t => some t
  | _ :: _, [] => none
  | w :: word, c :: rest => if foldCase c = w then keyword? word rest else none

def blanks? : Text → Option Text
  | [] => none
  | c :: rest => if Text.isBlank c then some (Text.trimStart rest) else none

def keywords? : List Text → Text → Option Text
  | [], t => some t
  | word :: more, t =>
      match keyword? word t with
      | none => none
      | some rest =>
          match blanks? rest with
          | none => none
          | some next => keywords? more next

namespace Identifier

def quote (name : Text) : Text :=
  enclose '"' name

/-- Take off one layer of quoting; a bare name only loses the blanks around it. -/
def unquote (written : Text) : Text :=
  let t := Text.trim written
  match enclosed? '"' '"' t with
  | some body => collapse '"' body
  | none =>
      match enclosed? '\x60' '\x60' t with
      | some body => collapse '\x60' body
      | none => (enclosed? '[' ']' t).getD t

inductive Written where
  | bare (run rest : Text)
  | quoted (name rest : Text)
deriving Repr, DecidableEq

/--
Read a double-quoted name after its opening quote character, up to and with the first
quote character that is not doubled.
-/
def scanDoubled (done : Text) : Text → Option (Text × Text)
  | [] => none
  | c :: rest =>
      if c = '"' then
        match rest with
        | [] => some ((c :: done).reverse, [])
        | d :: rest' =>
            if d = '"' then scanDoubled (d :: c :: done) rest'
            else some ((c :: done).reverse, d :: rest')
      else
        scanDoubled (c :: done) rest

def scanUntil? (close : Char) (t : Text) : Option (Text × Text) :=
  match t.span (· ≠ close) with
  | (_, []) => none
  | (body, c :: rest) => some (body ++ [c], rest)

def continuesName (c : Char) : Bool :=
  Text.isWordChar c || c == '$'

/-- Put the opening character back in front; a quoted name must not be empty. -/
def quotedName (left : Char) (scanned : Option (Text × Text)) : Option Written :=
  match scanned with
  | some (body, rest) =>
      if body.length ≤ 1 then none else some (.quoted (left :: body) rest)
  | none => none

def scanName? : Text → Option Written
  | [] => none
  | c :: rest =>
      if c = '"' then quotedName c (scanDoubled [] rest)
      else if c = '\x60' then quotedName c (scanUntil? '\x60' rest)
      else if c = '[' then quotedName c (scanUntil? ']' rest)
      else if isNameStart c then
        some (.bare (c :: rest.takeWhile continuesName) (rest.dropWhile continuesName))
      else none

def Written.name : Written → Text
  | .bare run _ => run
  | .quoted name _ => name

def Written.rest : Written → Text
  | .bare _ rest => rest
  | .quoted _ rest => rest

/-! ## Reading back -/

/-- A text that begins and ends with characters that are no blanks is trimmed. -/
theorem trim_of_ends
    {first last : Char} (t : Text)
    (hfirst : Text.isBlank first = false) (hlast : Text.isBlank last = false) :
    Text.trim (first :: t ++ [last]) = first :: t ++ [last] := by
  simp [Text.trim, Text.trimStart, Text.trimEnd, hfirst, hlast]

theorem unquote_quote (name : Text) : unquote (quote name) = name := by
  have htrim : Text.trim (enclose '"' name) = enclose '"' name :=
    trim_of_ends (double '"' name) (by decide) (by decide)
  simp [unquote, quote, htrim, enclosed?_enclose, collapse_double]

end Identifier

end DumpConvert.Sql
