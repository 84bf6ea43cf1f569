import DumpConvert.Proofs.Script.Conservation
import DumpConvert.Proofs.Script.Independence
import DumpConvert.Proofs.Value.Column
import DumpConvert.Script.Row

/-!
# Where the schema has nothing to say

The two modes differ in the registry alone, and the registry reaches a value only through
its column.  So a value without a column, or with a silent one, has the same text and kind
in both modes (`toRendered_rowsAmong`).

A dump without a readable table definition has an empty registry.  Every block then has the
lines it has without a registry, and its counters differ in one place: the values that were
written by their shape count as fallbacks (`counts_ofStatement_empty`).  Both facts add up
over the statements (`schema_eq_heuristic_where_silent`).
-/

namespace DumpConvert

/-! ## Counting fallbacks -/

namespace Summary

/-- The counters of a run that registered tables and found no column. -/
def withFallbacks (counts : Summary) : Summary :=
  { counts with schemaFallbacks := counts.valuesByShape }

theorem withFallbacks_add (a b : Summary) :
    (a + b).withFallbacks = a.withFallbacks + b.withFallbacks := by
  rfl

theorem withFallbacks_sum (summaries : List Summary) :
    (sum summaries).withFallbacks = sum (summaries.map withFallbacks) := by
  induction summaries with
  | nil => rfl
  | cons first rest ih => rw [sum_cons, withFallbacks_add, ih, List.map_cons, sum_cons]

theorem withFallbacks_ofKind (kind : ValueKind) : (ofKind kind).withFallbacks = ofKind kind := by
  cases kind <;> rfl

theorem withFallbacks_ofDecision (schemaDriven : Bool) :
    (ofDecision false schemaDriven).withFallbacks = ofDecision true schemaDriven := by
  cases schemaDriven <;> rfl

theorem withFallbacks_ofValue (value : Converted) :
    (ofValue false value).withFallbacks = ofValue true value := by
  rw [ofValue, withFallbacks_add, withFallbacks_add, withFallbacks_ofDecision,
    withFallbacks_ofKind]
  rfl

theorem withFallbacks_ofRows (rows : List (List Converted)) :
    (ofRows false rows).withFallbacks = ofRows true rows := by
  have hvalues : withFallbacks ∘ ofValue false = ofValue true := funext withFallbacks_ofValue
  rw [ofRows, withFallbacks_add, withFallbacks_sum, List.map_map, hvalues]
  rfl

end Summary

/-! ## Blocks with an empty registry -/

namespace Registry

theorem build_eq_empty {statements : List Statement}
    (h : ∀ statement ∈ statements, schemaOf? statement = none) : build statements = empty := by
  have hschemas : statements.filterMap schemaOf? = [] := List.filterMap_eq_nil_iff.mpr h
  rw [build, hschemas]
  rfl

end Registry

namespace Block

theorem lines_ofInsert_empty (profile : Profile) (text : Text) :
    (ofInsert profile (some .empty) text).lines = (ofInsert profile none text).lines := by
  unfold ofInsert
  cases Insert.parse? text with
  | none => rfl
  | some insert => rfl

theorem counts_ofInsert_empty (profile : Profile) (text : Text) :
    (ofInsert profile (some .empty) text).counts =
      (ofInsert profile none text).counts.withFallbacks := by
  unfold ofInsert
  cases Insert.parse? text with
  | none => rfl
  | some insert => exact (Summary.withFallbacks_ofRows _).symm

theorem lines_ofStatement_empty (profile : Profile) (statement : Statement) :
    (ofStatement profile (some .empty) statement).lines =
      (ofStatement profile none statement).lines := by
  unfold ofStatement
  cases statement.kind with
  | createTable => rfl
  | insert =>
      dsimp only
      split
      · exact lines_ofInsert_empty profile statement.text
      · rfl
  | other => rfl

/-- A statement that is no insertion counts nothing that a registry could change. -/
theorem withFallbacks_counts_ofCreateTable (profile : Profile) (text : Text) :
    (ofCreateTable profile text).counts.withFallbacks = (ofCreateTable profile text).counts := by
  unfold ofCreateTable
  split <;> rfl

theorem withFallbacks_counts_ofOther (profile : Profile) (text : Text) :
    (ofOther profile text).counts.withFallbacks = (ofOther profile text).counts := by
  unfold ofOther
  split
  · rfl
  · split <;> rfl

theorem counts_ofStatement_empty (profile : Profile) (statement : Statement) :
    (ofStatement profile (some .empty) statement).counts =
      (ofStatement profile none statement).counts.withFallbacks := by
  unfold ofStatement
  cases statement.kind with
  | createTable => exact (withFallbacks_counts_ofCreateTable profile statement.text).symm
  | insert =>
      dsimp only
      split
      · exact counts_ofInsert_empty profile statement.text
      · rfl
  | other => exact (withFallbacks_counts_ofOther profile statement.text).symm

end Block

namespace Conversion

/-! ## The two modes without tables -/

theorem scriptLines_empty (profile : Profile) (generated : Moment) (statements : List Statement) :
    scriptLines profile generated (blocks profile (some .empty) statements) =
      scriptLines profile generated (blocks profile none statements) := by
  have hlines : (blocks profile (some .empty) statements).flatMap (fun part => part.lines) =
      (blocks profile none statements).flatMap (fun part => part.lines) := by
    rw [blocks, blocks, List.flatMap_map, List.flatMap_map]
    exact congrArg (statements.flatMap ·) (funext (Block.lines_ofStatement_empty profile))
  rw [scriptLines, scriptLines, hlines, isCommitted_blocks, isCommitted_blocks]

theorem summaryOf_empty (profile : Profile) (statements : List Statement) :
    summaryOf (some .empty) (blocks profile (some .empty) statements) =
      (summaryOf none (blocks profile none statements)).withFallbacks := by
  have hcounts : (blocks profile (some .empty) statements).map (fun part => part.counts) =
      ((blocks profile none statements).map (fun part => part.counts)).map
        Summary.withFallbacks := by
    rw [blocks, blocks, List.map_map, List.map_map, List.map_map]
    exact List.map_congr_left fun statement _ => Block.counts_ofStatement_empty profile statement
  rw [summaryOf, summaryOf, Summary.withFallbacks_add, Summary.withFallbacks_sum, hcounts]
  rfl

/-! ## The values of one insertion -/

def schemaAmong (mode : Mode) (statements : List Statement) (insert : Insert) :
    Option TableSchema :=
  (registryFor mode statements).bind (fun tables => tables.get? insert.table)

/-- The converted rows of an insertion with this text, in the script of these statements. -/
def rowsAmong (profile : Profile) (mode : Mode) (statements : List Statement) (text : Text)
    (insert : Insert) : List (List Converted) :=
  insert.convertRows profile (schemaAmong mode statements insert)
    (profile.mentionsBoolean (Text.lower text))

/-- The script has one line for an insertion that is read, and the line holds these rows. -/
theorem lines_blockAmong (profile : Profile) (mode : Mode) (statements : List Statement)
    {statement : Statement} {insert : Insert} (h : statement.insertion? = some insert) :
    (blockAmong profile mode statements statement).lines =
      [insert.render (rowsAmong profile mode statements statement.text insert)] := by
  have hparts : (statement.kind = .insert ∧ statement.isTerminated = true) ∧
      Insert.parse? statement.text = some insert := by
    unfold Statement.insertion? at h
    split at h
    · rename_i hended
      exact ⟨hended, h⟩
    · cases h
  obtain ⟨⟨hkind, hended⟩, hread⟩ := hparts
  simp only [blockAmong, Block.ofStatement, hkind, hended, if_true, Block.ofInsert, hread]
  rfl

/-- The schema of the table has no column for the position, or a silent one. -/
def IsSilentAt (profile : Profile) (statements : List Statement) (insert : Insert)
    (position : Nat) : Prop :=
  ∀ column ∈ insert.columnOf? (schemaAmong .schema statements insert) position,
    column.IsSilent profile

theorem toRendered_rowsAmong {profile : Profile} (hprofile : profile.NamesTypes)
    (statements : List Statement) (text : Text) {insert : Insert} {group position : Nat}
    {row : List Text} {token : Text} (hrow : insert.rows[group]? = some row)
    (htoken : row[position]? = some token)
    (hsilent : IsSilentAt profile statements insert position) :
    ∃ typed untyped,
      Insert.valueAt? (rowsAmong profile .schema statements text insert) group position =
        some typed ∧
      Insert.valueAt? (rowsAmong profile .heuristic statements text insert) group position =
        some untyped ∧
      typed.toRendered = untyped.toRendered := by
  refine ⟨_, _, Insert.valueAt?_convertRows profile _ _ hrow htoken,
    Insert.valueAt?_convertRows profile _ _ hrow htoken, ?_⟩
  exact Value.convert_of_undecided profile token _ fun column hcolumn =>
    Value.bySchema?_of_isSilent hprofile (hsilent column hcolumn) _

end Conversion

open Conversion in
/--
A value whose column is unknown or silent has the same text and the same kind in both modes.
A dump without a readable table definition has the same script in both, and the summaries
differ in the fallbacks only.
-/
theorem schema_eq_heuristic_where_silent (profile : Profile) (generated : Moment)
    (dump : Text) :
    let statements := splitStatements profile.commitStatements dump
    (profile.NamesTypes →
      ∀ statement ∈ statements, ∀ insert, Insert.parse? statement.text = some insert →
        (∀ mode, statement.insertion? = some insert →
          (blockAmong profile mode statements statement).lines =
            [insert.render (rowsAmong profile mode statements statement.text insert)]) ∧
        ∀ group row position token, insert.rows[group]? = some row →
          row[position]? = some token → IsSilentAt profile statements insert position →
            ∃ typed untyped,
              Insert.valueAt? (rowsAmong profile .schema statements statement.text insert)
                group position = some typed ∧
              Insert.valueAt? (rowsAmong profile .heuristic statements statement.text insert)
                group position = some untyped ∧
              typed.toRendered = untyped.toRendered) ∧
    ((∀ statement ∈ statements, Registry.schemaOf? statement = none) →
      let typed := convertDump profile .schema generated dump
      let untyped := convertDump profile .heuristic generated dump
      typed.script = untyped.script ∧
        typed.summary =
          { untyped.summary with schemaFallbacks := untyped.summary.valuesByShape } ∧
        untyped.summary.schemaFallbacks = 0) := by
  intro statements
  refine ⟨?_, ?_⟩
  · intro hprofile statement _ insert _
    refine ⟨fun mode h => lines_blockAmong profile mode statements h, ?_⟩
    intro group row position token hrow htoken hsilent
    exact toRendered_rowsAmong hprofile statements statement.text hrow htoken hsilent
  · intro hunread typed untyped
    have hempty : registryFor .schema statements = some .empty :=
      congrArg some (Registry.build_eq_empty hunread)
    refine ⟨?_, ?_, ?_⟩
    · simp only [typed, untyped, convertDump, ofStatements]
      rw [hempty, scriptLines_empty]
      rfl
    · simp only [typed, untyped, convertDump, ofStatements]
      rw [hempty]
      exact summaryOf_empty profile statements
    · exact (summaryOf_fields profile none statements).2.1

open Conversion in
/-- A column without a type that is named in a column list, and a dump without a table. -/
theorem schema_eq_heuristic_where_silent_typelessColumn :
    let token := "replace('x,y','y',char(10))".toList
    let text := "INSERT INTO t(b, a) VALUES(1, replace('x,y','y',char(10)));".toList
    let statements := splitStatements Profile.builtIn.commitStatements
      ("CREATE TABLE t(a, b BOOLEAN);\n".toList ++ text)
    let insert : Insert := ⟨['t'], some [['b'], ['a']], [[['1'], token]]⟩
    let statement : Statement := ⟨.insert, text, 1, .complete⟩
    (Profile.builtIn.NamesTypes ∧ statement ∈ statements ∧
        Insert.parse? statement.text = some insert ∧ statement.insertion? = some insert ∧
        insert.rows[0]? = some [['1'], token] ∧ [['1'], token][1]? = some token ∧
        IsSilentAt .builtIn statements insert 1 ∧
        (blockAmong .builtIn .schema statements statement).lines =
          [insert.render (rowsAmong .builtIn .schema statements text insert)] ∧
        ∃ typed untyped,
          Insert.valueAt? (rowsAmong .builtIn .schema statements text insert) 0 1 = some typed ∧
          Insert.valueAt? (rowsAmong .builtIn .heuristic statements text insert) 0 1 =
            some untyped ∧
          typed.toRendered = untyped.toRendered) ∧
      (∀ other ∈ splitStatements Profile.builtIn.commitStatements text,
        Registry.schemaOf? other = none) ∧
      (convertDump .builtIn .schema (Moment.ofMillis 0) text).script =
        (convertDump .builtIn .heuristic (Moment.ofMillis 0) text).script := by
  intro token text statements insert statement
  have hprofile : Profile.builtIn.NamesTypes := by
    intro kind
    cases kind <;> decide
  have hmem : statement ∈ statements := by decide +kernel
  have hread : Insert.parse? statement.text = some insert := by decide +kernel
  have hinsertion : statement.insertion? = some insert := by decide +kernel
  have hcolumn : insert.columnOf? (schemaAmong .schema statements insert) 1 =
      some ⟨['a'], [], 0⟩ := by decide +kernel
  have hsilent : IsSilentAt .builtIn statements insert 1 := by
    intro column hmem
    rw [hcolumn] at hmem
    cases hmem
    exact ⟨by decide, by decide⟩
  obtain ⟨hlines, hvalues⟩ := (schema_eq_heuristic_where_silent .builtIn (Moment.ofMillis 0)
    ("CREATE TABLE t(a, b BOOLEAN);\n".toList ++ text)).1 hprofile statement hmem insert hread
  have htableless : ∀ other ∈ splitStatements Profile.builtIn.commitStatements text,
      Registry.schemaOf? other = none := by decide +kernel
  exact ⟨⟨hprofile, hmem, hread, hinsertion, rfl, rfl, hsilent, hlines .schema hinsertion,
    hvalues 0 _ 1 token rfl rfl hsilent⟩, htableless,
    ((schema_eq_heuristic_where_silent .builtIn (Moment.ofMillis 0) text).2 htableless).1⟩

end DumpConvert
