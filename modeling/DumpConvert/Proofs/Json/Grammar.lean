import DumpConvert.Dictionary
import DumpConvert.Json.Reader
import DumpConvert.Text.Basic

/-!
# The grammar of a JSON text

The relations of this module say which texts are JSON and what a text spells, without
regard to how it is read.  A value that nobody asks for only has to be JSON (`IsJson`); a
text that is asked for spells a string, a number or a sequence of items.

A string can be spelled in many ways: most characters stand for themselves, and every
character may be written as one or two code units.  Between tokens any spacing may stand.
-/

namespace DumpConvert.Json

def IsSpacing (t : Text) : Prop :=
  ∀ c ∈ t, c = ' ' ∨ c = '\t' ∨ c = '\n' ∨ c = '\r'

theorem isSpacing_nil : IsSpacing [] := by
  exact List.forall_mem_nil _

/-! ## Strings -/

/-- The character is a hexadecimal digit of this value, in either case. -/
def IsHexDigit (value : Nat) (c : Char) : Prop :=
  value < 16 ∧ (c = Nat.digitChar value ∨ c = (Nat.digitChar value).toUpper)

inductive SpellsUnit : Nat → Text → Prop where
  | digits {i j k l : Nat} {a b c d : Char} (ha : IsHexDigit i a) (hb : IsHexDigit j b)
      (hc : IsHexDigit k c) (hd : IsHexDigit l d) :
      SpellsUnit (16 * (16 * (16 * i + j) + k) + l) [a, b, c, d]

/-- The letters that a backslash makes an escape of, with the characters they stand for. -/
def shortEscapes : List (Char × Char) :=
  [('"', '"'), ('\\', '\\'), ('/', '/'), ('b', '\x08'), ('f', '\x0C'), ('n', '\n'), ('r', '\r'),
    ('t', '\t')]

def IsUnescaped (c : Char) : Prop :=
  c ≠ '"' ∧ c ≠ '\\' ∧ 0x20 ≤ c.toNat

instance : DecidablePred IsUnescaped :=
  fun c => inferInstanceAs (Decidable (c ≠ '"' ∧ c ≠ '\\' ∧ 0x20 ≤ c.toNat))

inductive SpellsChar (c : Char) : Text → Prop where
  | plain (h : IsUnescaped c) : SpellsChar c [c]
  | short {letter : Char} (h : (letter, c) ∈ shortEscapes) : SpellsChar c ['\\', letter]
  | unit {digits : Text} (h : SpellsUnit c.toNat digits) : SpellsChar c ('\\' :: 'u' :: digits)
  /-- A character outside the basic plane is written as a pair of surrogates. -/
  | pair {leading trailing : Nat} {first second : Text}
      (hfirst : SpellsUnit leading first) (hsecond : SpellsUnit trailing second)
      (hleading : 0xD800 ≤ leading ∧ leading ≤ 0xDBFF)
      (htrailing : 0xDC00 ≤ trailing ∧ trailing ≤ 0xDFFF)
      (h : c.toNat = 0x10000 + 0x400 * (leading - 0xD800) + (trailing - 0xDC00)) :
      SpellsChar c ('\\' :: 'u' :: (first ++ '\\' :: 'u' :: second))

inductive SpellsChars : Text → Text → Prop where
  | nil : SpellsChars [] []
  | cons {c : Char} {s t u : Text} (hc : SpellsChar c t) (hs : SpellsChars s u) :
      SpellsChars (c :: s) (t ++ u)

/-- The second text is a JSON string that stands for the first one. -/
def SpellsString (s t : Text) : Prop :=
  ∃ inner, t = '"' :: (inner ++ ['"']) ∧ SpellsChars s inner

/-- A text is spelled by itself if all of its characters may stand for themselves. -/
theorem spellsString_self {s : Text} (h : s.all IsUnescaped = true) :
    SpellsString s ('"' :: (s ++ ['"'])) := by
  refine ⟨s, rfl, ?_⟩
  induction s with
  | nil => exact .nil
  | cons c rest ih =>
      rw [List.all_cons, Bool.and_eq_true, decide_eq_true_eq] at h
      exact .cons (.plain h.1) (ih h.2)

/-- The inside of a JSON string, whose code units need not pair up. -/
inductive IsStringInner : Text → Prop where
  | nil : IsStringInner []
  | plain {c : Char} {t : Text} (hc : IsUnescaped c) (ht : IsStringInner t) :
      IsStringInner (c :: t)
  | short {letter c : Char} {t : Text} (hc : (letter, c) ∈ shortEscapes)
      (ht : IsStringInner t) : IsStringInner ('\\' :: letter :: t)
  | unit {unit : Nat} {digits t : Text} (hdigits : SpellsUnit unit digits)
      (ht : IsStringInner t) : IsStringInner ('\\' :: 'u' :: (digits ++ t))

def IsString (t : Text) : Prop :=
  ∃ inner, t = '"' :: (inner ++ ['"']) ∧ IsStringInner inner

/-! ## Numbers -/

def IsDigitRun (t : Text) : Prop :=
  t ≠ [] ∧ ∀ c ∈ t, c.isDigit = true

/-- Digits without a needless zero in front. -/
def IsWhole (t : Text) : Prop :=
  IsDigitRun t ∧ (t.head? = some '0' → t = ['0'])

def IsFraction (t : Text) : Prop :=
  t = [] ∨ ∃ digits, IsDigitRun digits ∧ t = '.' :: digits

def IsExponent (t : Text) : Prop :=
  t = [] ∨ ∃ letter sign digits, (letter = 'e' ∨ letter = 'E') ∧
    (sign = [] ∨ sign = ['+'] ∨ sign = ['-']) ∧ IsDigitRun digits ∧
    t = letter :: (sign ++ digits)

inductive IsNumber : Text → Prop where
  | parts {sign whole fraction exponent : Text} (hsign : sign = [] ∨ sign = ['-'])
      (hwhole : IsWhole whole) (hfraction : IsFraction fraction)
      (hexponent : IsExponent exponent) :
      IsNumber (sign ++ (whole ++ (fraction ++ exponent)))

/-- The text is the natural number, which fits into 64 bits. -/
def SpellsNatural (n : Nat) (t : Text) : Prop :=
  IsWhole t ∧ Text.digitsValue t = n ∧ n < Nat.pow 2 64

/-! ## Any value -/

/--
What stands in front of an item.

In front of the first item of a frame it is spacing, and in front of a further one a comma
with spacing around it.
-/
inductive IsLead : Bool → Text → Prop where
  | first {gap : Text} (hgap : IsSpacing gap) : IsLead true gap
  | comma {before after : Text} (hbefore : IsSpacing before) (hafter : IsSpacing after) :
      IsLead false (before ++ ',' :: after)

def Frame.opening : Frame → Char
  | .array => '['
  | .object => '{'

/-- What stands in front of the value of an item: nothing, or a key with its colon. -/
def IsLabel : Frame → Text → Prop
  | .array, t => t = []
  | .object, t => ∃ key before after, IsString key ∧ IsSpacing before ∧ IsSpacing after ∧
      t = key ++ (before ++ ':' :: after)

inductive Category where
  | value
  /-- The items of a frame up to its end, from the first one or from a further one on. -/
  | items (frame : Frame) (first : Bool)

inductive IsJson : Category → Text → Prop where
  | name {t : Text} (h : t ∈ ["null".toList, "true".toList, "false".toList]) : IsJson .value t
  | number {t : Text} (h : IsNumber t) : IsJson .value t
  | string {t : Text} (h : IsString t) : IsJson .value t
  | frame {frame : Frame} {t : Text} (h : IsJson (.items frame true) t) :
      IsJson .value (frame.opening :: t)
  | close {frame : Frame} {first : Bool} {gap : Text} (hgap : IsSpacing gap) :
      IsJson (.items frame first) (gap ++ [frame.close])
  | item {frame : Frame} {first : Bool} {lead label t more : Text} (hlead : IsLead first lead)
      (hlabel : IsLabel frame label) (ht : IsJson .value t)
      (hmore : IsJson (.items frame false) more) :
      IsJson (.items frame first) (lead ++ (label ++ (t ++ more)))

/-! ## Sequences of items -/

inductive SpellsItems {α : Type} (spells : α → Text → Prop) (close : Char) :
    Bool → List α → Text → Prop where
  | close {first : Bool} {gap : Text} (hgap : IsSpacing gap) :
      SpellsItems spells close first [] (gap ++ [close])
  | item {first : Bool} {lead t more : Text} {a : α} {items : List α}
      (hlead : IsLead first lead) (ht : spells a t)
      (hmore : SpellsItems spells close false items more) :
      SpellsItems spells close first (a :: items) (lead ++ (t ++ more))

def SpellsArray {α : Type} (spells : α → Text → Prop) (items : List α) (t : Text) : Prop :=
  ∃ inner, t = '[' :: inner ∧ SpellsItems spells ']' true items inner

def SpellsObject {α : Type} (spells : α → Text → Prop) (members : List α) (t : Text) : Prop :=
  ∃ inner, t = '{' :: inner ∧ SpellsItems spells '}' true members inner

/-- The text is a key, a colon, and a value that is written in one of the given ways. -/
def SpellsMember (key : Text) (isValue : Text → Prop) (t : Text) : Prop :=
  ∃ keyText before after value, SpellsString key keyText ∧ IsSpacing before ∧
    IsSpacing after ∧ isValue value ∧ t = keyText ++ (before ++ ':' :: (after ++ value))

theorem spellsMember_self {key value : Text} {isValue : Text → Prop}
    (hkey : key.all IsUnescaped = true) (hvalue : isValue value) :
    SpellsMember key isValue ('"' :: (key ++ ['"']) ++ ':' :: value) := by
  exact ⟨_, [], [], value, spellsString_self hkey, isSpacing_nil, isSpacing_nil, hvalue, rfl⟩

/-- The text is an object whose last value of each key is the one in the dictionary. -/
def SpellsDictionary {α : Type} (spells : α → Text → Prop) (dictionary : Dictionary α)
    (t : Text) : Prop :=
  ∃ entries : List (Text × α), dictionary = .ofList entries ∧
    SpellsObject (fun entry => SpellsMember entry.1 (spells entry.2)) entries t

/-- The whole text is a value with spacing around it. -/
def IsDocument (isValue : Text → Prop) (t : Text) : Prop :=
  ∃ before value after, IsSpacing before ∧ isValue value ∧ IsSpacing after ∧
    t = before ++ (value ++ after)

/-! ## Records -/

structure RecordFormat where
  Name : Type
  order : List Name
  key : Name → Text
  Value : Name → Type
  spells : (name : Name) → Value name → Text → Prop

namespace RecordFormat

abbrev Contents (format : RecordFormat) : Type :=
  (name : format.Name) → Option (format.Value name)

abbrev Setting (format : RecordFormat) : Type :=
  Sigma format.Value

inductive Member (format : RecordFormat) where
  | known (setting : format.Setting)
  | unknown (key : Text)

variable {format : RecordFormat}

def Member.setting? : format.Member → Option format.Setting
  | .known setting => some setting
  | .unknown _ => none

/-- The value of an unknown member may be any JSON. -/
def Member.Spells : format.Member → Text → Prop
  | .known setting => SpellsMember (format.key setting.1) (format.spells setting.1 setting.2)
  | .unknown key => fun t => (∀ name, format.key name ≠ key) ∧ SpellsMember key (IsJson .value) t

structure IsChoice (contents : format.Contents) (settings : List format.Setting) : Prop where
  nodup : (settings.map Sigma.fst).Nodup
  given : ∀ name value, contents name = some value ↔ ⟨name, value⟩ ∈ settings

variable (format)

/-- The text is an object with the given fields once each, in any order, among unknown members. -/
def SpellsAsObject (contents : format.Contents) (t : Text) : Prop :=
  ∃ members : List format.Member, SpellsObject Member.Spells members t ∧
    IsChoice contents (members.filterMap Member.setting?)

/-- The text is an array with the given fields, which are the first ones of the record. -/
def SpellsAsArray (contents : format.Contents) (t : Text) : Prop :=
  ∃ settings : List format.Setting,
    SpellsArray (fun setting => format.spells setting.1 setting.2) settings t ∧
    settings.map Sigma.fst <+: format.order ∧ IsChoice contents settings

def Spells (contents : format.Contents) (t : Text) : Prop :=
  format.SpellsAsObject contents t ∨ format.SpellsAsArray contents t

end RecordFormat

end DumpConvert.Json
