import DumpConvert.Schema.Table
import DumpConvert.Script.Row
import DumpConvert.Summary

/-!
# Blocks of the script

Every statement of the dump contributes one block of lines, and nothing but the statement,
the profile and the registry decides what it is.  A table definition or an insertion that
cannot be read is passed through, and so is an insertion that was cut off.
-/

namespace DumpConvert

structure Block where
  lines : List Text
  counts : Summary
  events : List Event
  /-- The statement closes the dump. -/
  commits : Bool

namespace Block

def ofLines (lines : List Text) (counts : Summary) (events : List Event) : Block :=
  ⟨lines, counts, events, false⟩

def optionEvents (table : CreateTable) : List Event :=
  if table.options.isEmpty then [] else [.optionsDropped table.options table.tableName]

def ofCreateTable (profile : Profile) (text : Text) : Block :=
  match CreateTable.parse? text with
  | some table =>
      ofLines [table.render profile, []] { tablesConverted := 1 } (optionEvents table)
  | none =>
      ofLines [text] { tablesPassedThrough := 1 } [.tablePassedThrough (Text.firstLine text)]

def ofInsert (profile : Profile) (registry : Option Registry) (text : Text) : Block :=
  match Insert.parse? text with
  | none =>
      ofLines [text] { insertsPassedThrough := 1 } [.insertUnreadable (Text.firstLine text)]
  | some insert =>
      let schema := registry.bind (fun tables => tables.get? insert.table)
      let hint := profile.mentionsBoolean (Text.lower text)
      let rows := insert.convertRows profile schema hint
      let missing := registry.isSome && schema.isNone
      ofLines [insert.render rows] (Summary.ofRows registry.isSome rows)
        (if missing then [.schemaMissing insert.table] else [])

def closingLines (profile : Profile) : List Text :=
  [[], "-- Create indexes for performance".toList] ++ profile.indexes ++
    [[], "-- Re-enable foreign key checks".toList,
      "SET session_replication_role = DEFAULT;".toList, [], "COMMIT;".toList]

def ofOther (profile : Profile) (text : Text) : Block :=
  if profile.isDirective text then
    ofLines [] { directivesDropped := 1 } [.directiveDropped text]
  else if profile.isCommit text then
    ⟨closingLines profile, .zero, [], true⟩
  else
    ofLines [text] { linesPassedThrough := 1 } []

def ofStatement (profile : Profile) (registry : Option Registry) (statement : Statement) : Block :=
  match statement.kind with
  | .createTable => ofCreateTable profile statement.text
  | .insert =>
      if statement.isTerminated then ofInsert profile registry statement.text
      else
        ofLines [statement.text] { insertsPassedThrough := 1 }
          [.insertUnterminated (Text.firstLine statement.text)]
  | .other => ofOther profile statement.text

end Block

end DumpConvert
