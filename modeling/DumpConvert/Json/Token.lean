import DumpConvert.Text.Basic

/-!
# Tokens of a JSON text

A JSON text is read from left to right straight into the value it is expected to hold,
and the first fault decides.  There are three kinds of it: the text ends too early, it is
not JSON, or it is JSON of another shape.

A string is read character by character after its opening quote character.  The scan
knows whether it stands behind a backslash or inside the hexadecimal digits of a code
unit, and it pairs the two surrogate code units of a character outside the basic plane.
A string whose text is wanted must pair its surrogates.  A string that is passed over
need not.

The only numbers a profile holds are naturals below `2 ^ 64`.  Any other number is read to
its end before it is refused, because a fault inside it comes first, and so does a number
too large for a double: the digits that fit into 64 bits make the significand, every
further digit moves the exponent, and significand and power of ten are rounded to doubles
before they are multiplied.
-/

namespace DumpConvert.Json

inductive Fault where
  /-- The text ends inside a value. -/
  | ended
  /-- The text is not JSON. -/
  | malformed
  /-- The value has another shape than the expected one. -/
  | mistyped
deriving Repr, DecidableEq

abbrev Reader (α : Type) := Text → Except Fault (α × Text)

def isSpace (c : Char) : Bool :=
  c == ' ' || c == '\n' || c == '\t' || c == '\r'

def skipSpace (t : Text) : Text :=
  t.dropWhile isSpace

/-- The fault of a text that goes on with something else than expected. -/
def unexpected (t : Text) : Fault :=
  if t.isEmpty then .ended else .malformed

def expectName : Text → Text → Except Fault Text
  | [], t => .ok t
  | _ :: _, [] => .error .ended
  | n :: name, c :: rest => if c = n then expectName name rest else .error .malformed

def nameOf? (c : Char) : Option Text :=
  if c = 'n' then some "null".toList
  else if c = 't' then some "true".toList
  else if c = 'f' then some "false".toList
  else none

def expectColon (t : Text) : Except Fault Text :=
  match skipSpace t with
  | ':' :: rest => .ok rest
  | other => .error (unexpected other)

/-! ## Strings -/

def hexValue? (c : Char) : Option Nat :=
  if c.isDigit then some (c.toNat - 48)
  else if 'a' ≤ c ∧ c ≤ 'f' then some (c.toNat - 87)
  else if 'A' ≤ c ∧ c ≤ 'F' then some (c.toNat - 55)
  else none

def escaped? (c : Char) : Option Char :=
  if c = '"' ∨ c = '\\' ∨ c = '/' then some c
  else if c = 'b' then some '\x08'
  else if c = 'f' then some '\x0C'
  else if c = 'n' then some '\n'
  else if c = 'r' then some '\r'
  else if c = 't' then some '\t'
  else none

/-- The code unit is the first of a surrogate pair. -/
def isLeading (unit : Nat) : Bool :=
  0xD800 ≤ unit && unit ≤ 0xDBFF

def isTrailing (unit : Nat) : Bool :=
  0xDC00 ≤ unit && unit ≤ 0xDFFF

def pairedCodePoint (leading trailing : Nat) : Nat :=
  0x10000 + 0x400 * (leading - 0xD800) + (trailing - 0xDC00)

inductive StringState where
  /-- Between characters. -/
  | plain
  /-- Behind a backslash. -/
  | escape
  /-- Before `left` more digits of a code unit, the first of a pair being already read or not. -/
  | unit (leading : Option Nat) (left value : Nat)
  /-- Behind the first code unit of a pair, before a backslash. -/
  | pairEscape (leading : Nat)
  /-- Behind the first code unit of a pair and a backslash, before the letter `u`. -/
  | pairUnit (leading : Nat)
deriving Repr, DecidableEq

/-- Begin a code unit; its four digits take at least four bytes. -/
def beginUnit (leading : Option Nat) (rest : Text) : Except Fault StringState :=
  if Text.byteLength (rest.take 4) < 4 then .error .ended else .ok (.unit leading 4 0)

/-- What a complete code unit means: a character, or the first half of one. -/
def endUnit
    (strict : Bool) (leading : Option Nat) (unit : Nat) :
    Except Fault (StringState × Option Char) :=
  match leading with
  | some first =>
      if isTrailing unit then .ok (.plain, some (Char.ofNat (pairedCodePoint first unit)))
      else .error .malformed
  | none =>
      if strict ∧ isTrailing unit then .error .malformed
      else if strict ∧ isLeading unit then .ok (.pairEscape unit, none)
      else .ok (.plain, some (Char.ofNat unit))

/-- Take one character of a string, `rest` following it, in a state that does not end the string. -/
def stringStep
    (strict : Bool) (state : StringState) (c : Char) (rest : Text) :
    Except Fault (StringState × Option Char) :=
  match state with
  | .plain =>
      if c = '\\' then .ok (.escape, none)
      else if c.toNat < 0x20 then .error .malformed
      else .ok (.plain, some c)
  | .escape =>
      if c = 'u' then (beginUnit none rest).map (fun next => (next, none))
      else
        match escaped? c with
        | some d => .ok (.plain, some d)
        | none => .error .malformed
  | .unit leading left value =>
      match hexValue? c with
      | none => .error .malformed
      | some digit =>
          if left ≤ 1 then endUnit strict leading (16 * value + digit)
          else .ok (.unit leading (left - 1) (16 * value + digit), none)
  | .pairEscape leading =>
      if c = '\\' then .ok (.pairUnit leading, none) else .error .malformed
  | .pairUnit leading =>
      if c = 'u' then (beginUnit (some leading) rest).map (fun next => (next, none))
      else .error .malformed

/-- Read the rest of a string; `done` holds the characters read so far, latest first. -/
def stringFrom
    (strict : Bool) (state : StringState) (done : Text) : Text → Except Fault (Text × Text)
  | [] => .error .ended
  | c :: rest =>
      if state = .plain ∧ c = '"' then .ok (done.reverse, rest)
      else
        match stringStep strict state c rest with
        | .error fault => .error fault
        | .ok (next, none) => stringFrom strict next done rest
        | .ok (next, some d) => stringFrom strict next (d :: done) rest

def stringBody : Reader Text :=
  stringFrom true .plain []

def skipStringBody (t : Text) : Except Fault Text :=
  (stringFrom false .plain [] t).map (fun read => read.2)

/-! ## Numbers -/

def wordLimit : Nat :=
  Nat.pow 2 64

/-- Take digits into a significand while it fits into 64 bits; the digits left over follow. -/
def absorb (significand : Nat) : Text → Nat × Text
  | [] => (significand, [])
  | c :: rest =>
      let next := 10 * significand + (c.toNat - 48)
      if next < wordLimit then absorb next rest else (significand, c :: rest)

/-! ## Size of a double -/

/-- The double nearest to a natural number below `2 ^ 1024`, a tie going to the even neighbour. -/
def nearestDouble (n : Nat) : Nat :=
  if n < Nat.pow 2 53 then n
  else
    let unit := Nat.pow 2 (n.log2 - 52)
    let kept := n / unit
    let dropped := n % unit
    if 2 * dropped < unit then kept * unit
    else if 2 * dropped = unit ∧ kept % 2 = 0 then kept * unit
    else (kept + 1) * unit

def greatestPower : Nat :=
  308

/-- The significand times the power of ten rounds to infinity. -/
def overflows (significand : Nat) (exponent : Int) : Bool :=
  if exponent < 0 ∨ significand = 0 then false
  else if greatestPower < exponent.toNat then true
  else
    decide (Nat.pow 2 1024 - Nat.pow 2 970 ≤
      nearestDouble significand * nearestDouble (Nat.pow 10 exponent.toNat))

def exponentLimit : Nat :=
  Nat.pow 2 31

/-! ## Reading -/

inductive Number where
  /-- Digits alone, with a value below `2 ^ 64`. -/
  | natural (value : Nat)
  /-- A negative, fractional or larger number. -/
  | other
deriving Repr, DecidableEq

def finishLarge (significand : Nat) (exponent : Int) (rest : Text) :
    Except Fault (Number × Text) :=
  if overflows significand exponent then .error .malformed else .ok (.other, rest)

def readExponent (significand : Nat) (exponent : Int) (t : Text) :
    Except Fault (Number × Text) :=
  let (negative, digits) :=
    match t with
    | '+' :: rest => (false, rest)
    | '-' :: rest => (true, rest)
    | rest => (false, rest)
  match digits.span Char.isDigit with
  | ([], rest) => .error (unexpected rest)
  | (run, rest) =>
      let value := Text.digitsValue run
      if exponentLimit ≤ value then
        if significand = 0 ∨ negative then .ok (.other, rest) else .error .malformed
      else
        finishLarge significand (if negative then exponent - value else exponent + value) rest

def readTail (significand : Nat) (exponent : Int) : Text → Except Fault (Number × Text)
  | [] => finishLarge significand exponent []
  | c :: rest =>
      if c = 'e' ∨ c = 'E' then readExponent significand exponent rest
      else finishLarge significand exponent (c :: rest)

def readFraction (significand : Nat) (exponent : Int) (t : Text) :
    Except Fault (Number × Text) :=
  match t.span Char.isDigit with
  | ([], rest) => .error (unexpected rest)
  | (run, rest) =>
      let (grown, left) := absorb significand run
      readTail grown (exponent - ((run.length - left.length : Nat) : Int)) rest

/-- The number of a run of digits without sign, before the text `rest`. -/
def afterDigits (negative : Bool) (run rest : Text) : Except Fault (Number × Text) :=
  let (significand, left) := absorb 0 run
  match rest with
  | '.' :: fraction => readFraction significand left.length fraction
  | 'e' :: exponent => readExponent significand left.length exponent
  | 'E' :: exponent => readExponent significand left.length exponent
  | _ =>
      if !left.isEmpty then finishLarge significand left.length rest
      else if negative then .ok (.other, rest)
      else .ok (.natural significand, rest)

/-- The digits in front, which must not begin with a needless zero. -/
def wholeDigits (t : Text) : Except Fault (Text × Text) :=
  match t with
  | [] => .error .ended
  | '0' :: rest =>
      if (rest.takeWhile Char.isDigit).isEmpty then .ok (['0'], rest) else .error .malformed
  | c :: rest =>
      if c.isDigit then
        .ok (c :: rest.takeWhile Char.isDigit, rest.dropWhile Char.isDigit)
      else .error .malformed

def readNumber : Reader Number
  | '-' :: t => do
      let (run, rest) ← wholeDigits t
      afterDigits true run rest
  | t => do
      let (run, rest) ← wholeDigits t
      afterDigits false run rest

/-! ## Passing over -/

def skipDigits (t : Text) : Except Fault Text :=
  if (t.takeWhile Char.isDigit).isEmpty then .error .malformed
  else .ok (t.dropWhile Char.isDigit)

def skipExponent : Text → Except Fault Text
  | [] => .ok []
  | c :: rest =>
      if c = 'e' ∨ c = 'E' then
        match rest with
        | '+' :: digits => skipDigits digits
        | '-' :: digits => skipDigits digits
        | digits => skipDigits digits
      else .ok (c :: rest)

/-- Pass over a number, however large; a number that is cut short is malformed. -/
def skipNumber (t : Text) : Except Fault Text :=
  let unsigned :=
    match t with
    | '-' :: rest => rest
    | rest => rest
  match wholeDigits unsigned with
  | .error _ => .error .malformed
  | .ok (_, '.' :: fraction) => do
      let rest ← skipDigits fraction
      skipExponent rest
  | .ok (_, rest) => skipExponent rest

end DumpConvert.Json
