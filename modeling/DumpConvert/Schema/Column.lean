import DumpConvert.Sql.Identifier

/-!
# Column definitions

A definition inside a `CREATE TABLE` is either a table constraint, which its first word
tells, or a column: a name, an optional type and anything else.

Reading a column cuts the definition into five parts, and the parts put together are the
definition again (`source_of_parse?`).  So the place of the type is known exactly, in
characters and in bytes, and replacing the type leaves every other part alone.
-/

namespace DumpConvert

/-- A column definition cut into parts: blanks, the written name, blanks, the type, the rest. -/
structure ColumnDefinition where
  lead : Text
  writtenName : Text
  gap : Text
  declaredType : Text
  rest : Text
deriving Repr, DecidableEq

namespace ColumnDefinition

def name (column : ColumnDefinition) : Text :=
  Sql.Identifier.unquote column.writtenName

def source (column : ColumnDefinition) : Text :=
  column.lead ++ column.writtenName ++ column.gap ++ column.declaredType ++ column.rest

/-- The byte offset at which the type begins. -/
def typeStart (column : ColumnDefinition) : Nat :=
  Text.byteLength (column.lead ++ column.writtenName ++ column.gap)

def typeEnd (column : ColumnDefinition) : Nat :=
  column.typeStart + Text.byteLength column.declaredType

/-! ## Cutting a definition -/

def closing? (c : Char) : Option Char :=
  if c = '[' then some ']'
  else if c = '"' ∨ c = '\x60' then some c
  else none

/-- Cut after the first occurrence of the character, or at the end if there is none. -/
def cutAfter (c : Char) : Text → Text × Text
  | [] => ([], [])
  | d :: rest =>
      if d = c then ([d], rest) else (d :: (cutAfter c rest).1, (cutAfter c rest).2)

/--
Cut after the written name in front.

A quoted name ends at the first closing character, a bare one before the first blank.
-/
def cutName : Text → Text × Text
  | [] => ([], [])
  | c :: rest =>
      match closing? c with
      | some close => (c :: (cutAfter close rest).1, (cutAfter close rest).2)
      | none =>
          ((c :: rest).takeWhile (fun d => !Text.isBlank d),
            (c :: rest).dropWhile (fun d => !Text.isBlank d))

/--
Cut before the first blank at which no parenthesis is open.

The depth has no bound; in 32 bits it is the same for every definition of fewer than
`2 ^ 31` parentheses.
-/
def cutType (depth : Int) : Text → Text × Text
  | [] => ([], [])
  | c :: rest =>
      if Text.isBlank c ∧ depth ≤ 0 then ([], c :: rest)
      else
        let after := if c = '(' then depth + 1 else if c = ')' then depth - 1 else depth
        (c :: (cutType after rest).1, (cutType after rest).2)

/-- Cut a definition without regard to whether its name is empty. -/
def cut (definition : Text) : ColumnDefinition :=
  let named := cutName (Text.trimStart definition)
  let typed := cutType 0 (Text.trimStart named.2)
  { lead := definition.takeWhile Text.isBlank
    writtenName := named.1
    gap := named.2.takeWhile Text.isBlank
    declaredType := typed.1
    rest := typed.2 }

def parse? (definition : Text) : Option ColumnDefinition :=
  if (cut definition).name.isEmpty then none else some (cut definition)

/-! ## The parts make up the definition -/

theorem cutAfter_append (c : Char) (t : Text) :
    (cutAfter c t).1 ++ (cutAfter c t).2 = t := by
  induction t with
  | nil =>
      rfl
  | cons d rest ih =>
      unfold cutAfter
      split
      · rfl
      · simp [ih]

theorem cutName_append (t : Text) : (cutName t).1 ++ (cutName t).2 = t := by
  cases t with
  | nil =>
      rfl
  | cons c rest =>
      cases h : closing? c with
      | some close =>
          simp [cutName, h, cutAfter_append]
      | none =>
          simp only [cutName, h]
          exact List.takeWhile_append_dropWhile

theorem cutType_append (depth : Int) (t : Text) :
    (cutType depth t).1 ++ (cutType depth t).2 = t := by
  induction t generalizing depth with
  | nil =>
      rfl
  | cons c rest ih =>
      unfold cutType
      split
      · rfl
      · simp [ih]

theorem source_cut (definition : Text) : (cut definition).source = definition := by
  have hname := cutName_append (Text.trimStart definition)
  have htype := cutType_append 0 (Text.trimStart (cutName (Text.trimStart definition)).2)
  have hgap := Text.takeWhile_append_trimStart (cutName (Text.trimStart definition)).2
  have hlead := Text.takeWhile_append_trimStart definition
  simp only [cut, source, List.append_assoc]
  rw [htype, hgap, hname, hlead]

/-- The parts of a column put together are its definition. -/
theorem source_of_parse?
    {definition : Text} {column : ColumnDefinition} (h : parse? definition = some column) :
    column.source = definition := by
  unfold parse? at h
  split at h
  · simp at h
  · cases h
    exact source_cut definition

end ColumnDefinition

/-! ## Constraints and types -/

def constraintWords : List Text :=
  ["CONSTRAINT".toList, "PRIMARY".toList, "FOREIGN".toList, "UNIQUE".toList, "CHECK".toList]

/-- The definition is a table constraint: its first word, up to a blank or a parenthesis, says so. -/
def isConstraint (definition : Text) : Bool :=
  let word := (Text.trimStart definition).takeWhile (fun c => !(Text.isBlank c || c == '('))
  constraintWords.contains (Text.asciiUpper word)

/-- The keyword of a declared type, in upper case and without a parenthesised suffix. -/
def baseType (declaredType : Text) : Text :=
  Text.asciiUpper (Text.trim (declaredType.takeWhile (· ≠ '(')))

end DumpConvert
