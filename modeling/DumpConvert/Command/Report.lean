import DumpConvert.Script.Conversion

/-!
# Reports

Two reports tell what a conversion did: a short table for the reader of the terminal, and
a JSON text with every counter, its keys in alphabetical order.
-/

namespace DumpConvert.Command

/-! ## The table -/

def ruleLine : Text :=
  List.replicate 60 '='

def reportRows (summary : Summary) : List (Text × Nat) :=
  [ ("Tables:            ".toList, summary.tablesConverted),
    ("Inserts:           ".toList, summary.insertsConverted),
    ("Rows:              ".toList, summary.rows),
    ("Passed through:    ".toList, summary.insertsPassedThrough),
    ("Timestamps:        ".toList, summary.timestampsConverted),
    ("Booleans:          ".toList, summary.booleansConverted),
    ("Blobs:             ".toList, summary.blobsConverted),
    ("Heuristic values:  ".toList, summary.valuesByShape),
    ("Schema fallbacks:  ".toList, summary.schemaFallbacks) ]

def reportText (summary : Summary) : Text :=
  let rows := (reportRows summary).map (fun row => row.1 ++ Text.decimal row.2)
  let lines := [[], ruleLine, "SUMMARY".toList, ruleLine] ++ rows ++ [ruleLine]
  lines.flatMap (fun line => line ++ ['\n'])

/-! ## The JSON text -/

/-- The counters by key, in alphabetical order. -/
def counters (summary : Summary) : List (Text × Nat) :=
  [ ("blobs_converted".toList, summary.blobsConverted),
    ("booleans_converted".toList, summary.booleansConverted),
    ("directives_dropped".toList, summary.directivesDropped),
    ("epoch_repairs".toList, summary.epochRepairs),
    ("inserts_passed_through".toList, summary.insertsPassedThrough),
    ("inserts_rewritten".toList, summary.insertsConverted),
    ("lines_passed_through".toList, summary.linesPassedThrough),
    ("rows".toList, summary.rows),
    ("schema_fallbacks".toList, summary.schemaFallbacks),
    ("tables_passed_through".toList, summary.tablesPassedThrough),
    ("tables_registered".toList, summary.tablesRegistered),
    ("tables_rewritten".toList, summary.tablesConverted),
    ("timestamp_fallbacks".toList, summary.timestampFallbacks),
    ("timestamps_converted".toList, summary.timestampsConverted),
    ("values_heuristic".toList, summary.valuesByShape),
    ("values_schema_driven".toList, summary.valuesBySchema) ]

def modeName : Mode → Text
  | .schema => "schema".toList
  | .heuristic => "heuristic".toList

def member (depth : Nat) (key value : Text) : Text :=
  List.replicate (2 * depth) ' ' ++ '"' :: key ++ '"' :: ':' :: ' ' :: value

/-- An object with its members on lines of their own; its closing brace is indented by `depth` steps. -/
def objectText (depth : Nat) (members : List Text) : Text :=
  '{' :: '\n' :: Text.joinWith [',', '\n'] members
    ++ '\n' :: List.replicate (2 * depth) ' ' ++ ['}']

def summaryText (mode : Mode) (elapsedMillis : Nat) (summary : Summary) : Text :=
  let inner := (counters summary).map (fun entry => member 2 entry.1 (Text.decimal entry.2))
  objectText 0
    [ member 1 "elapsed_ms".toList (Text.decimal elapsedMillis),
      member 1 "mode".toList ('"' :: modeName mode ++ ['"']),
      member 1 "summary".toList (objectText 1 inner) ]

end DumpConvert.Command
