/-!
# Text

A text is the list of its characters, so every scanner of this library is an
ordinary recursion and every statement about it an ordinary induction.  Offsets
and lengths that readers of a dump see are counted in UTF-8 bytes; `byteLength`
is that measure, and it is additive over concatenation.

Two searches are provided beside it: `occursIn` for a substring, and `replaceAll`
for the leftmost, non-overlapping occurrences of a pattern.  `pieces` cuts a text
at separators and loses nothing but the separators.

Integers are read and written in ASCII decimal digits.  Reading is exact: a numeral outside
the range of its width has no value, and neither has a sign without digits.
-/

namespace DumpConvert

abbrev Text := List Char

namespace Text

/-! ## Length in bytes -/

def byteLength : Text → Nat
  | [] => 0
  | c :: rest => c.utf8Size + byteLength rest

@[simp] theorem byteLength_nil : byteLength [] = 0 := by
  rfl

@[simp] theorem byteLength_cons (c : Char) (t : Text) :
    byteLength (c :: t) = c.utf8Size + byteLength t := by
  rfl

theorem byteLength_append (s t : Text) :
    byteLength (s ++ t) = byteLength s + byteLength t := by
  induction s with
  | nil =>
      simp
  | cons c rest ih =>
      simp [ih, Nat.add_assoc]

/-! ## ASCII case -/

/-- Upper-case the letters `a` to `z`; every other character stays. -/
def asciiUpper (t : Text) : Text :=
  t.map Char.toUpper

def asciiLower (t : Text) : Text :=
  t.map Char.toLower

def sameIgnoringCase (s t : Text) : Bool :=
  asciiLower s == asciiLower t

def startsIgnoringCase (start t : Text) : Bool :=
  sameIgnoringCase (t.take start.length) start

/-! ## Searching and replacing -/

def occursIn (pattern : Text) : Text → Bool
  | [] => pattern.isEmpty
  | c :: rest => pattern.isPrefixOf (c :: rest) || occursIn pattern rest

/--
Replace occurrences of a pattern after the first `skip` characters were dropped.

The skipped characters are the remainder of an occurrence that was just replaced,
which is why occurrences never overlap.
-/
def replaceAfter (pattern replacement : Text) : Nat → Text → Text
  | _, [] => []
  | skip + 1, _ :: rest => replaceAfter pattern replacement skip rest
  | 0, c :: rest =>
      if pattern.isPrefixOf (c :: rest) then
        replacement ++ replaceAfter pattern replacement (pattern.length - 1) rest
      else
        c :: replaceAfter pattern replacement 0 rest

/-- Replace the leftmost, non-overlapping occurrences of a non-empty pattern. -/
def replaceAll (pattern replacement t : Text) : Text :=
  replaceAfter pattern replacement 0 t

/-! ## Cutting and joining -/

def prependToFirst (c : Char) : List Text → List Text
  | [] => [[c]]
  | piece :: rest => (c :: piece) :: rest

/--
Cut the text at every character that satisfies `separates`.

There is always at least one piece, and one more piece than there are separators.
-/
def pieces (separates : Char → Bool) (t : Text) : List Text :=
  t.foldr (fun c done => if separates c then [] :: done else prependToFirst c done) [[]]

theorem pieces_cons_of_separates
    {separates : Char → Bool} {c : Char} (t : Text) (h : separates c = true) :
    pieces separates (c :: t) = [] :: pieces separates t := by
  simp [pieces, h]

theorem pieces_cons_of_not_separates
    {separates : Char → Bool} {c : Char} (t : Text) (h : separates c = false) :
    pieces separates (c :: t) = prependToFirst c (pieces separates t) := by
  simp [pieces, h]

theorem pieces_ne_nil (separates : Char → Bool) (t : Text) :
    pieces separates t ≠ [] := by
  cases t with
  | nil =>
      simp [pieces]
  | cons c rest =>
      cases h : separates c with
      | true =>
          simp [pieces_cons_of_separates rest h]
      | false =>
          rw [pieces_cons_of_not_separates rest h]
          cases pieces separates rest <;> simp [prependToFirst]

def joinWith (separator : Text) (ts : List Text) : Text :=
  separator.intercalate ts

/-- Split at the last occurrence of a character, which belongs to neither part. -/
def splitAtLast? (c : Char) (t : Text) : Option (Text × Text) :=
  match t.reverse.span (· ≠ c) with
  | (_, []) => none
  | (after, _ :: before) => some (before.reverse, after.reverse)

/-! ## Decimal numerals -/

/-- The value of a digit string, most significant digit first. -/
def digitsValue (t : Text) : Nat :=
  t.foldl (fun n c => 10 * n + (c.toNat - 48)) 0

/-- The text is a non-empty string of ASCII digits. -/
def isDigits (t : Text) : Bool :=
  !t.isEmpty && t.all Char.isDigit

def natural? (t : Text) : Option Nat :=
  if isDigits t then some (digitsValue t) else none

/-- The number of non-negative integers of 64 bits with a sign, and of negative ones. -/
def int64Half : Nat :=
  Nat.pow 2 63

/-- Read a signed 64-bit integer: an optional sign, then digits. -/
def int64? (t : Text) : Option Int :=
  let value : Option Int :=
    match t with
    | '-' :: digits => (natural? digits).map (fun n => -(n : Int))
    | '+' :: digits => (natural? digits).map (fun n => (n : Int))
    | digits => (natural? digits).map (fun n => (n : Int))
  value.filter (fun v => decide (-(int64Half : Int) ≤ v) && decide (v < (int64Half : Int)))

def uint32? (t : Text) : Option Nat :=
  let value : Option Nat :=
    match t with
    | '+' :: digits => natural? digits
    | digits => natural? digits
  value.filter (fun v => decide (v < Nat.pow 2 32))

def decimal (n : Nat) : Text :=
  Nat.toDigits 10 n

/-- The decimal numeral, filled with zeros in front to at least `width` digits. -/
def paddedDecimal (width n : Nat) : Text :=
  List.replicate (width - (decimal n).length) '0' ++ decimal n

end Text

end DumpConvert
