import DumpConvert.Profile.Basic
import DumpConvert.Schema.Column
import DumpConvert.Sql.ValueList
import DumpConvert.Statement

/-!
# Table definitions and their registry

A `CREATE TABLE` statement gives a table its name and a list of definitions between
parentheses.  Comments are dropped first.  The body runs from the parenthesis of the
header to the last closing parenthesis of the statement; what follows it are table
options.

The schema of a table lists its columns in order.  Table constraints are no columns and
take no position.

The script has one definition per line.  In a column definition only the type keyword is
exchanged; the name, the suffix of the type and all that follows stay as they are.
Constraints and columns without a type are written unchanged.

The registry collects the schemas that a dump declares.  A table declared again under
the same name replaces its schema.  A name that was not declared exactly finds the table
whose name agrees with it in lower case; of several such spellings the first one
declared counts.
-/

namespace DumpConvert

structure Column where
  name : Text
  declaredType : Text
  position : Nat
deriving Repr, DecidableEq

namespace Column

def baseType (column : Column) : Text :=
  DumpConvert.baseType column.declaredType

end Column

structure TableSchema where
  tableName : Text
  columns : List Column
deriving Repr, DecidableEq

namespace TableSchema

def columnAt? (schema : TableSchema) (position : Nat) : Option Column :=
  schema.columns[position]?

/-- The first column of exactly this name, or else the first whose name differs in ASCII case only. -/
def columnNamed? (schema : TableSchema) (name : Text) : Option Column :=
  match schema.columns.find? (fun column => column.name == name) with
  | some column => some column
  | none => schema.columns.find? (fun column => Text.sameIgnoringCase column.name name)

end TableSchema

/-- A table definition: its definitions trimmed, and the table options after them. -/
structure CreateTable where
  tableName : Text
  definitions : List Text
  options : Text
deriving Repr, DecidableEq

namespace CreateTable

def columnsFrom (position : Nat) : List Text → List Column
  | [] => []
  | definition :: rest =>
      if isConstraint definition then columnsFrom position rest
      else
        match ColumnDefinition.parse? definition with
        | none => columnsFrom position rest
        | some column =>
            ⟨column.name, column.declaredType, position⟩ :: columnsFrom (position + 1) rest

def schema (table : CreateTable) : TableSchema :=
  ⟨table.tableName, columnsFrom 0 table.definitions⟩

/-! ## Reading -/

def namedBody? (t : Text) : Option (Text × Text) :=
  match Sql.Identifier.scanName? t with
  | none => none
  | some written =>
      match Text.trimStart written.rest with
      | '(' :: body => some (written.name, body)
      | _ => none

def header? (t : Text) : Option (Text × Text) :=
  match Sql.keywords? ["create".toList, "table".toList] (Text.trimStart t) with
  | none => none
  | some rest =>
      let guarded :=
        (Sql.keywords? ["if".toList, "not".toList, "exists".toList] rest).bind namedBody?
      match guarded with
      | some found => some found
      | none => namedBody? rest

def dropSemicolons (t : Text) : Text :=
  (t.reverse.dropWhile (· == ';')).reverse

def parse? (t : Text) : Option CreateTable :=
  match header? (Sql.stripComments t) with
  | none => none
  | some (name, rest) =>
      match Text.splitAtLast? ')' rest with
      | none => none
      | some (body, after) =>
          some
            { tableName := Sql.Identifier.unquote name
              definitions := (Sql.splitValues body).filter (fun item => !item.isEmpty)
              options := Text.trim (dropSemicolons (Text.trim after)) }

/-! ## Positions -/

theorem position_columnsFrom
    (start : Nat) (definitions : List Text) {i : Nat} {column : Column}
    (h : (columnsFrom start definitions)[i]? = some column) :
    column.position = start + i := by
  induction definitions generalizing start i with
  | nil =>
      simp [columnsFrom] at h
  | cons definition rest ih =>
      unfold columnsFrom at h
      split at h
      · exact ih start h
      · split at h
        · exact ih start h
        · cases i with
          | zero =>
              simp at h
              rw [← h]
              simp
          | succ i =>
              have hrest := ih (start + 1) (i := i) (by simpa using h)
              omega

end CreateTable

/-! ## Writing -/

namespace ColumnDefinition

/-- The keyword of the declared type: what stands before its first parenthesis. -/
def typeKeyword (column : ColumnDefinition) : Text :=
  column.declaredType.takeWhile (· ≠ '(')

def typeSuffix (column : ColumnDefinition) : Text :=
  column.declaredType.dropWhile (· ≠ '(')

def withTarget (profile : Profile) (column : ColumnDefinition) : ColumnDefinition :=
  { column with declaredType := profile.mapType column.typeKeyword ++ column.typeSuffix }

end ColumnDefinition

def mapDefinition (profile : Profile) (definition : Text) : Text :=
  if isConstraint definition then definition
  else
    match ColumnDefinition.parse? definition with
    | none => definition
    | some column =>
        if column.declaredType.isEmpty then definition
        else (column.withTarget profile).source

namespace CreateTable

def render (profile : Profile) (table : CreateTable) : Text :=
  let indented := table.definitions.map (fun item => "    ".toList ++ mapDefinition profile item)
  "CREATE TABLE IF NOT EXISTS ".toList ++ Sql.Identifier.quote table.tableName
    ++ " (\n".toList ++ Text.joinWith [',', '\n'] indented ++ "\n);".toList

end CreateTable

/-! ## The registry -/

/-- The declared tables by name, and the first declared spelling of each lower-case name. -/
structure Registry where
  tables : Dictionary TableSchema
  spellings : Dictionary Text

namespace Registry

def empty : Registry :=
  ⟨.empty, .empty⟩

/-- Keep the spelling of a name, unless its lower-case form has one already. -/
def keepSpelling (spellings : Dictionary Text) (name : Text) : Dictionary Text :=
  match spellings.get? (Text.lower name) with
  | some _ => spellings
  | none => spellings.insert (Text.lower name) name

def declare (registry : Registry) (schema : TableSchema) : Registry :=
  { tables := registry.tables.insert schema.tableName schema
    spellings := keepSpelling registry.spellings schema.tableName }

def schemaOf? (statement : Statement) : Option TableSchema :=
  if statement.kind = .createTable then
    (CreateTable.parse? statement.text).map CreateTable.schema
  else
    none

def build (statements : List Statement) : Registry :=
  (statements.filterMap schemaOf?).foldl declare empty

def get? (registry : Registry) (table : Text) : Option TableSchema :=
  match registry.tables.get? table with
  | some schema => some schema
  | none => (registry.spellings.get? (Text.lower table)).bind registry.tables.get?

def size (registry : Registry) : Nat :=
  registry.tables.size

def isEmpty (registry : Registry) : Bool :=
  registry.size == 0

end Registry

end DumpConvert
