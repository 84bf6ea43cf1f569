import DumpConvert.Insert
import DumpConvert.Schema.Table
import DumpConvert.Summary
import DumpConvert.Value

/-!
# Rows of the script

The values of an insertion are converted one by one.  The column of a value is the one
its position names in the column list of the insertion, or else the one at its position
in the table.

The place of a value in its row is the position of its site (`convertRowFrom_eq_mapIdx`), so
the value at a place of the converted rows is the token at that place, converted at its site
(`valueAt?_convertRows`).
-/

namespace DumpConvert

namespace Insert

def columnOf? (insert : Insert) (schema : Option TableSchema) (position : Nat) : Option Column :=
  match schema with
  | none => none
  | some table =>
      match insert.columns with
      | some names => (names[position]?).bind table.columnNamed?
      | none => table.columnAt? position

def siteOf
    (insert : Insert) (schema : Option TableSchema) (booleanHint : Bool) (position : Nat) : Site :=
  { table := insert.table
    position := position
    column := insert.columnOf? schema position
    booleanHint := booleanHint }

/-- Convert the values of a row, the first of which stands at the given position. -/
def convertRowFrom
    (profile : Profile) (insert : Insert) (schema : Option TableSchema) (booleanHint : Bool) :
    Nat → List Text → List Converted
  | _, [] => []
  | position, token :: rest =>
      Value.convert profile token (insert.siteOf schema booleanHint position)
        :: convertRowFrom profile insert schema booleanHint (position + 1) rest

def convertRows
    (profile : Profile) (insert : Insert) (schema : Option TableSchema) (booleanHint : Bool) :
    List (List Converted) :=
  insert.rows.map (convertRowFrom profile insert schema booleanHint 0)

/-! ## Value by value -/

theorem convertRowFrom_eq_mapIdx (profile : Profile) (insert : Insert)
    (schema : Option TableSchema) (booleanHint : Bool) (start : Nat) (row : List Text) :
    convertRowFrom profile insert schema booleanHint start row =
      row.mapIdx (fun position token =>
        Value.convert profile token (insert.siteOf schema booleanHint (start + position))) := by
  induction row generalizing start with
  | nil => rfl
  | cons token rest ih =>
      have hshift : ∀ position, start + 1 + position = start + (position + 1) := by
        intro position
        omega
      simp only [convertRowFrom, ih, List.mapIdx_cons, hshift, Nat.add_zero]

def valueAt? (rows : List (List Converted)) (group position : Nat) : Option Converted :=
  (rows[group]?).bind (fun row => row[position]?)

theorem valueAt?_convertRows (profile : Profile) {insert : Insert}
    (schema : Option TableSchema) (booleanHint : Bool) {group position : Nat} {row : List Text}
    {token : Text} (hrow : insert.rows[group]? = some row) (htoken : row[position]? = some token) :
    valueAt? (insert.convertRows profile schema booleanHint) group position =
      some (Value.convert profile token (insert.siteOf schema booleanHint position)) := by
  have hvalue : (convertRowFrom profile insert schema booleanHint 0 row)[position]? =
      some (Value.convert profile token (insert.siteOf schema booleanHint position)) := by
    rw [convertRowFrom_eq_mapIdx, List.getElem?_mapIdx, htoken]
    simp
  rw [valueAt?, convertRows, List.getElem?_map, hrow]
  exact hvalue

/-! ## Writing -/

def rowText (row : List Converted) : Text :=
  '(' :: Sql.joinValues (row.map (fun value => value.text)) ++ [')']

def columnsText : Option (List Text) → Text
  | none => []
  | some names =>
      ' ' :: '(' :: Text.joinWith [',', ' '] (names.map Sql.Identifier.quote) ++ [')']

def render (insert : Insert) (rows : List (List Converted)) : Text :=
  "INSERT INTO ".toList ++ Sql.Identifier.quote insert.table ++ columnsText insert.columns
    ++ " VALUES".toList ++ Text.joinWith [','] (rows.map rowText) ++ [';']

end Insert

namespace Summary

def ofKind : ValueKind → Summary
  | .timestamp => { timestampsConverted := 1 }
  | .timestampFallback => { timestampFallbacks := 1 }
  | .boolean => { booleansConverted := 1 }
  | .blob => { blobsConverted := 1 }
  | _ => zero

/-- What decided about a value; `schemaExpected` tells that tables were registered. -/
def ofDecision (schemaExpected schemaDriven : Bool) : Summary :=
  if schemaDriven then { valuesBySchema := 1 }
  else { valuesByShape := 1, schemaFallbacks := if schemaExpected then 1 else 0 }

def ofValue (schemaExpected : Bool) (value : Converted) : Summary :=
  ofDecision schemaExpected value.schemaDriven + ofKind value.kind
    + { epochRepairs := if value.repaired then 1 else 0 }

def ofRows (schemaExpected : Bool) (rows : List (List Converted)) : Summary :=
  sum (rows.flatten.map (ofValue schemaExpected))
    + { insertsConverted := 1, rows := rows.length }

end Summary

end DumpConvert
