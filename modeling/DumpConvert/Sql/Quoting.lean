import DumpConvert.Text.Basic

/-!
# Quoting and comments

SQL writes a text between two quote characters and doubles every quote character
inside it.  `enclose` writes that form, `collapse` undoes the doubling, and
`enclosed?` takes a text from between its outer quote characters.
Reading the doubled form back gives the text (`collapse_double`), so a quoted form
loses nothing.

A comment runs from two hyphens to the end of the line, or from a slash and a star to
a star and a slash.  Quote characters protect what stands between them, and a comment
protects the quote characters inside it.  Stripping keeps the line feed that ends a line
comment and puts one space for a block comment, so that the words around it stay apart.
-/

namespace DumpConvert.Sql

def double (quote : Char) (t : Text) : Text :=
  t.flatMap (fun c => if c = quote then [c, c] else [c])

/-- One step of `collapse`, taken from the end: a quote character, and whether it may pair up. -/
def collapseStep (quote c : Char) (done : Text × Bool) : Text × Bool :=
  if c = quote then
    if done.2 then (done.1, false) else (c :: done.1, true)
  else
    (c :: done.1, false)

/--
Read pairs of quote characters as one.

In a run of quote characters every pair becomes one, and a last one without a partner
stays, so a run of `n` becomes a run of `n / 2` rounded up.
-/
def collapse (quote : Char) (t : Text) : Text :=
  (t.foldr (collapseStep quote) ([], false)).1

/-- The text between its first and its last character, if these two are `left` and `right`. -/
def enclosed? (left right : Char) : Text → Option Text
  | [] => none
  | c :: rest =>
      if c = left ∧ rest.getLast? = some right then some rest.dropLast else none

def enclose (quote : Char) (t : Text) : Text :=
  quote :: double quote t ++ [quote]

/-! ## Reading back -/

theorem foldr_collapseStep_double (quote : Char) (t : Text) :
    (double quote t).foldr (collapseStep quote) ([], false) = (t, false) := by
  induction t with
  | nil =>
      rfl
  | cons c rest ih =>
      have hcons :
          double quote (c :: rest) =
            (if c = quote then [c, c] else [c]) ++ double quote rest := by
        simp [double]
      rw [hcons]
      by_cases h : c = quote
      · simp [h, ih, collapseStep]
      · simp [h, ih, collapseStep]

theorem collapse_double (quote : Char) (t : Text) :
    collapse quote (double quote t) = t := by
  simp [collapse, foldr_collapseStep_double]

/-- The text between the quote characters of an enclosed text is the doubled text. -/
theorem enclosed?_enclose (quote : Char) (t : Text) :
    enclosed? quote quote (enclose quote t) = some (double quote t) := by
  simp [enclose, enclosed?]

/-! ## Comments -/

inductive CommentMode where
  | code
  | quoted (quote : Char)
  | line
  | block
deriving Repr, DecidableEq

def isProtectingQuote (c : Char) : Bool :=
  c == '\'' || c == '"' || c == '\x60'

def stripFrom : CommentMode → Text → Text
  | _, [] => []
  | .quoted quote, c :: rest =>
      c :: stripFrom (if c = quote then .code else .quoted quote) rest
  | .line, c :: rest =>
      if c = '\n' then c :: stripFrom .code rest else stripFrom .line rest
  | .block, c :: rest =>
      if c = '*' then
        match rest with
        | [] => []
        | d :: rest' => if d = '/' then stripFrom .code rest' else stripFrom .block (d :: rest')
      else
        stripFrom .block rest
  | .code, c :: rest =>
      if isProtectingQuote c then
        c :: stripFrom (.quoted c) rest
      else
        match rest with
        | [] => [c]
        | d :: rest' =>
            if c = '-' ∧ d = '-' then stripFrom .line rest'
            else if c = '/' ∧ d = '*' then ' ' :: stripFrom .block rest'
            else c :: stripFrom .code (d :: rest')

def stripComments (t : Text) : Text :=
  stripFrom .code t

end DumpConvert.Sql
