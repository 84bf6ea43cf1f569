import DumpConvert.Sql.Quoting
import DumpConvert.Sql.ValueList
import DumpConvert.Text.Basic
import DumpConvert.Text.CharClass

/-!
# Literals

The forms a token of a value list can have: a string between apostrophes, a number, a
blob in hexadecimal digits, and the nested `replace(…)` calls by which a dump spells a
string that holds control characters.

`escape` writes any token as one string literal and leaves a well-formed one as it is.
-/

namespace DumpConvert.Sql.Literal

/-! ## Strings -/

def body? (token : Text) : Option Text :=
  enclosed? '\'' '\'' token

/-- The token begins and ends with an apostrophe, and these are two. -/
def isQuoted (token : Text) : Bool :=
  (body? token).isSome

def ofText (t : Text) : Text :=
  enclose '\'' t

def text? (token : Text) : Option Text :=
  (body? token).map (collapse '\'')

/--
Write a token as a string literal.

Outer apostrophes are taken off and pairs inside read as one before everything is
doubled again, so a literal is not quoted twice.
-/
def escape (token : Text) : Text :=
  ofText (collapse '\'' ((body? token).getD token))

theorem text?_ofText (t : Text) : text? (ofText t) = some t := by
  simp [text?, body?, ofText, enclosed?_enclose, collapse_double]

/-- A well-formed string literal is left as it is. -/
theorem escape_ofText (t : Text) : escape (ofText t) = ofText t := by
  simp [escape, body?, ofText, enclosed?_enclose, collapse_double]

/-! ## Numbers -/

def dropSign : Text → Text
  | [] => []
  | c :: rest => if c = '+' ∨ c = '-' then rest else c :: rest

def isExponent : Text → Bool
  | [] => false
  | c :: rest =>
      (c == 'e' || c == 'E') &&
        !(dropSign rest).isEmpty && (dropSign rest).all Text.isDecimalDigit

/-- Digits, or digits with a point before, between or after them; the rest follows. -/
def mantissa? (t : Text) : Option Text :=
  match t.span Text.isDecimalDigit with
  | (whole, '.' :: rest) =>
      let (fraction, after) := rest.span Text.isDecimalDigit
      if whole.isEmpty && fraction.isEmpty then none else some after
  | (whole, rest) => if whole.isEmpty then none else some rest

def isNumber (token : Text) : Bool :=
  match mantissa? (dropSign token) with
  | none => false
  | some rest => rest.isEmpty || isExponent rest

/-! ## Blobs -/

def isHexDigit (c : Char) : Bool :=
  c.isDigit || ('a' ≤ c && c ≤ 'f') || ('A' ≤ c && c ≤ 'F')

def blobDigits? : Text → Option Text
  | [] => none
  | c :: rest =>
      if c = 'x' ∨ c = 'X' then (body? rest).filter (fun digits => digits.all isHexDigit)
      else none

/-! ## Encoded control characters -/

/-- The arguments of a call of the named function, the case of the name disregarded. -/
def arguments? (name token : Text) : Option Text :=
  if Text.startsIgnoringCase (name ++ ['(']) token ∧ token.getLast? = some ')' then
    some (token.drop (name.length + 1)).dropLast
  else
    none

def charCall? (token : Text) : Option Char :=
  match arguments? "char".toList token with
  | none => none
  | some code =>
      match Text.uint32? (Text.trim code) with
      | none => none
      | some n => if n.isValidChar then some (Char.ofNat n) else none

theorem length_lt_of_arguments?
    {name token inner : Text} (h : arguments? name token = some inner) :
    inner.length < token.length := by
  unfold arguments? at h
  split at h
  · rename_i hcall
    have hne : token ≠ [] := by
      intro hnil
      simp [hnil] at hcall
    have hpos : 0 < token.length := List.length_pos_iff.mpr hne
    cases h
    simp
    omega
  · simp at h

/--
The string that nested calls of `replace` denote.

The innermost argument is a string literal; every call around it names a marker, which
is not empty, and the character that takes the place of the marker.
-/
def replaceCall? (token : Text) : Option Text :=
  match hcall : arguments? "replace".toList token with
  | none => none
  | some inner =>
      match hargs : splitValues inner with
      | [base, marker, code] =>
          have : base.length < token.length := by
            have hbase : base.length ≤ inner.length :=
              length_le_of_mem_splitValues (by simp [hargs])
            have hinner := length_lt_of_arguments? hcall
            omega
          let text : Option Text :=
            match text? base with
            | some plain => some plain
            | none => replaceCall? base
          match text, text? marker, charCall? code with
          | some plain, some (m :: ms), some c => some (Text.replaceAll (m :: ms) [c] plain)
          | _, _, _ => none
      | _ => none
termination_by token.length

end DumpConvert.Sql.Literal
