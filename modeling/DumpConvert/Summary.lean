import DumpConvert.Text.Basic

/-!
# What a conversion reports

A summary counts what happened to statements and values.  Summaries are added up field
by field, so the summary of a conversion is the sum of what its statements contribute.

Events are what a conversion reports while it runs.  An event is a value; its level and its
wording are functions of it.
-/

namespace DumpConvert

structure Summary where
  tablesRegistered : Nat := 0
  tablesConverted : Nat := 0
  tablesPassedThrough : Nat := 0
  insertsConverted : Nat := 0
  insertsPassedThrough : Nat := 0
  rows : Nat := 0
  valuesBySchema : Nat := 0
  valuesByShape : Nat := 0
  /-- Values written by their shape although tables were registered. -/
  schemaFallbacks : Nat := 0
  timestampsConverted : Nat := 0
  timestampFallbacks : Nat := 0
  booleansConverted : Nat := 0
  blobsConverted : Nat := 0
  epochRepairs : Nat := 0
  directivesDropped : Nat := 0
  linesPassedThrough : Nat := 0
deriving Repr, DecidableEq

namespace Summary

def zero : Summary :=
  {}

def add (a b : Summary) : Summary :=
  { tablesRegistered := a.tablesRegistered + b.tablesRegistered
    tablesConverted := a.tablesConverted + b.tablesConverted
    tablesPassedThrough := a.tablesPassedThrough + b.tablesPassedThrough
    insertsConverted := a.insertsConverted + b.insertsConverted
    insertsPassedThrough := a.insertsPassedThrough + b.insertsPassedThrough
    rows := a.rows + b.rows
    valuesBySchema := a.valuesBySchema + b.valuesBySchema
    valuesByShape := a.valuesByShape + b.valuesByShape
    schemaFallbacks := a.schemaFallbacks + b.schemaFallbacks
    timestampsConverted := a.timestampsConverted + b.timestampsConverted
    timestampFallbacks := a.timestampFallbacks + b.timestampFallbacks
    booleansConverted := a.booleansConverted + b.booleansConverted
    blobsConverted := a.blobsConverted + b.blobsConverted
    epochRepairs := a.epochRepairs + b.epochRepairs
    directivesDropped := a.directivesDropped + b.directivesDropped
    linesPassedThrough := a.linesPassedThrough + b.linesPassedThrough }

instance : Add Summary :=
  ⟨add⟩

def sum (summaries : List Summary) : Summary :=
  summaries.foldl (· + ·) zero

theorem add_def (a b : Summary) : a + b = add a b := by
  rfl

theorem zero_add (a : Summary) : zero + a = a := by
  simp [add_def, add, zero]

theorem add_zero (a : Summary) : a + zero = a := by
  simp [add_def, add, zero]

theorem add_assoc (a b c : Summary) : a + b + c = a + (b + c) := by
  simp [add_def, add, Nat.add_assoc]

theorem add_comm (a b : Summary) : a + b = b + a := by
  simp [add_def, add, Nat.add_comm]

end Summary

/-! ## Events -/

inductive Level where
  | debug
  | info
  | warn
deriving Repr, DecidableEq

inductive Event where
  /-- A statement was still open when this line started another one. -/
  | statementCutOff (line : Text)
  | dumpSplit (statements lines : Nat)
  | registryStarted
  | tableRegistered (table : Text) (columns : Nat)
  | tableUnreadable (firstLine : Text)
  | registryEmpty
  | conversionStarted
  | tablePassedThrough (firstLine : Text)
  | optionsDropped (options table : Text)
  | insertUnterminated (firstLine : Text)
  | insertUnreadable (firstLine : Text)
  | schemaMissing (table : Text)
  | directiveDropped (line : Text)
  | commitMissing
deriving Repr, DecidableEq

namespace Event

def level : Event → Level
  | .statementCutOff _ => .warn
  | .registryStarted => .info
  | .registryEmpty => .warn
  | .conversionStarted => .info
  | .insertUnterminated _ => .warn
  | .commitMissing => .warn
  | _ => .debug

def message : Event → Text
  | .statementCutOff line =>
      "statement: Unterminated statement closed before line: ".toList ++ line
  | .dumpSplit statements lines =>
      "Convert: ".toList ++ Text.decimal statements ++ " statements over ".toList
        ++ Text.decimal lines ++ " lines".toList
  | .registryStarted => "Extracting table schemas...".toList
  | .tableRegistered table columns =>
      "SchemaRegistry: ".toList ++ table ++ " has ".toList ++ Text.decimal columns
        ++ " columns".toList
  | .tableUnreadable firstLine =>
      "SchemaRegistry: could not parse CREATE TABLE: ".toList ++ firstLine
  | .registryEmpty => "No CREATE TABLE statements found; using heuristics only".toList
  | .conversionStarted => "Converting SQL statements...".toList
  | .tablePassedThrough firstLine =>
      "Convert: passing through CREATE TABLE ".toList ++ firstLine
  | .optionsDropped options table =>
      "Convert: dropping table options '".toList ++ options ++ "' on ".toList ++ table
  | .insertUnterminated firstLine =>
      "Convert: passing through unterminated INSERT: ".toList ++ firstLine
  | .insertUnreadable firstLine =>
      "Convert: INSERT did not match expected shape: ".toList ++ firstLine
  | .schemaMissing table =>
      "Convert: no schema for table ".toList ++ table ++ ", using heuristics".toList
  | .directiveDropped line => "Convert: dropping directive ".toList ++ line
  | .commitMissing => "Dump has no COMMIT; closing the transaction at end of output".toList

end Event

end DumpConvert
