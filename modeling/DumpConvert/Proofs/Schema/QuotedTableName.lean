import DumpConvert.Proofs.Insert.Grammar
import DumpConvert.Proofs.Schema.Lookup
import DumpConvert.Proofs.Schema.RoundTrip

/-!
# Quoted names of tables

A name between double quotes may hold any character.  A table definition and an insertion
that give it in this form read the same name, whatever marks it holds: the scanner of
comments passes over it (`isUncommented_definitionOf`), and the recogniser of a name takes
it as a whole.  So the insertion finds the schema of the table that was declared under this
name last (`quotedName_read`).
-/

namespace DumpConvert

open Sql

namespace CreateTable

/-- The definition of a table with one column, its name between double quotes. -/
def definitionOf (name : Text) : Text :=
  "CREATE TABLE ".toList ++ (Identifier.quote name ++ " (a TEXT);".toList)

theorem isUncommented_definitionOf (name : Text) : IsUncommented (definitionOf name) := by
  have hwords : IsUncommented "CREATE TABLE ".toList :=
    isUncommented_of_unquoted (by decide) (by decide) (by decide)
  have hbody : IsUncommented " (a TEXT);".toList :=
    isUncommented_of_unquoted (by decide) (by decide) (by decide)
  have hname : IsUncommented (Identifier.quote name) := isUncommented_enclose (by decide) name
  exact hwords.append_of_last (hname.append_of_first hbody rfl (by decide)) rfl (by decide)

theorem header?_definitionOf {name : Text} (hname : name ≠ []) :
    header? (definitionOf name) = some (Identifier.quote name, "a TEXT);".toList) := by
  have hwords : keywords? ["create".toList, "table".toList]
      (Text.trimStart (definitionOf name)) =
        some (Identifier.quote name ++ (" (".toList ++ "a TEXT);".toList)) := by rfl
  have hguard : keywords? ["if".toList, "not".toList, "exists".toList]
      (Identifier.quote name ++ (" (".toList ++ "a TEXT);".toList)) = none := by rfl
  rw [header?, hwords]
  simp only [hguard, Option.bind_none, namedBody?_quote hname]

theorem parse?_definitionOf {name : Text} (hname : name ≠ []) :
    parse? (definitionOf name) =
      some { tableName := name, definitions := ["a TEXT".toList], options := [] } := by
  have hstripped : stripComments (definitionOf name) = definitionOf name :=
    (stripComments_eq_self_iff _).mpr (isUncommented_definitionOf name).free
  have hbody : Text.splitAtLast? ')' "a TEXT);".toList = some ("a TEXT".toList, [';']) := by decide
  have hitems : splitValues "a TEXT".toList = ["a TEXT".toList] := by decide
  rw [parse?, hstripped, header?_definitionOf hname]
  simp only [hbody, hitems, Identifier.unquote_quote]
  rfl

end CreateTable

namespace Insert

def insertionOf (name : Text) : Text :=
  "INSERT INTO ".toList ++ (Identifier.quote name ++ " VALUES(1);".toList)

def insertionLayout (name : Text) : Layout :=
  { lead := []
    insertWord := "INSERT".toList
    insertGap := [' ']
    intoWord := "INTO".toList
    intoGap := [' ']
    name := Identifier.quote name
    tail :=
      { nameGap := [' ']
        columns := none
        columnsGap := []
        valuesWord := "VALUES".toList
        valuesGap := []
        groups := "(1)".toList
        ending := [';'] } }

theorem text_insertionLayout (name : Text) : (insertionLayout name).text = insertionOf name := by
  rfl

theorem wellFormed_insertionLayout {name : Text} (hname : name ≠ []) :
    (insertionLayout name).WellFormed := by
  have hspace : IsGap [' '] := ⟨by simp, List.all_eq_true.mp (by decide)⟩
  exact
    { lead := List.forall_mem_nil _
      insertWord := by rfl
      insertGap := hspace
      intoWord := by rfl
      intoGap := hspace
      name := .inl (.doubled hname)
      tail :=
        { nameGap := hspace.blank
          columns := by simp [insertionLayout]
          columnsGap := List.forall_mem_nil _
          valuesWord := by rfl
          valuesGap := List.forall_mem_nil _
          groups := ⟨['1'], rfl⟩
          ending := .semicolon (List.forall_mem_nil _) (List.forall_mem_nil _) } }

theorem parse?_insertionOf {name : Text} (hname : name ≠ []) :
    parse? (insertionOf name) =
      some { table := name, columns := none, rows := [["1".toList]] } := by
  have hapart : ¬ (insertionLayout name).tail.IsGlued := fun hglued => by cases hglued.1
  have hrows : (splitGroups "(1)".toList).map splitValues = [["1".toList]] := by decide
  rw [← text_insertionLayout, parse?_text (wellFormed_insertionLayout hname) hapart,
    Layout.insertion]
  simp only [insertionLayout, hrows, Identifier.unquote_quote]
  rfl

end Insert

/-! ## Finding the table -/

/-- The table that was declared last under a name is found by this name. -/
theorem Registry.get?_build_of_last {before after : List Statement} {statement : Statement}
    {schema : TableSchema} (hschema : schemaOf? statement = some schema)
    (hafter : ∀ later ∈ after, ∀ other ∈ schemaOf? later, other.tableName ≠ schema.tableName) :
    (build (before ++ statement :: after)).get? schema.tableName = some schema := by
  refine (get?_build_iff _ _ _).mpr (.exact
    ⟨before.filterMap schemaOf?, after.filterMap schemaOf?, ?_, rfl, fun other hother => ?_⟩)
  · rw [List.filterMap_append, List.filterMap_cons_some hschema]
  · obtain ⟨later, hlater, hdeclared⟩ := List.mem_filterMap.mp hother
    exact hafter later hlater other hdeclared

/--
Quoting a name loses nothing, and a table definition and an insertion that give a name in
its quoted form both read this name, whatever characters it has.  So in any list of
statements the insertion finds the schema of the definition, unless a later statement
declares the name again.
-/
theorem quotedName_read (name : Text) :
    Identifier.unquote (Identifier.quote name) = name ∧
      (name ≠ [] → ∃ table insert,
        CreateTable.parse? (CreateTable.definitionOf name) = some table ∧
        table.tableName = name ∧
        Insert.parse? (Insert.insertionOf name) = some insert ∧ insert.table = name ∧
        ∀ (before after : List Statement) (statement : Statement),
          statement.kind = .createTable → statement.text = CreateTable.definitionOf name →
          (∀ later ∈ after, ∀ other ∈ Registry.schemaOf? later, other.tableName ≠ name) →
          (Registry.build (before ++ statement :: after)).get? insert.table =
            some table.schema) := by
  refine ⟨Identifier.unquote_quote name, fun hname => ?_⟩
  have htable := CreateTable.parse?_definitionOf hname
  refine ⟨_, _, htable, rfl, Insert.parse?_insertionOf hname, rfl, ?_⟩
  intro before after statement hkind htext hafter
  have hschema : Registry.schemaOf? statement =
      some (CreateTable.schema ⟨name, ["a TEXT".toList], []⟩) := by
    rw [Registry.schemaOf?, if_pos hkind, htext, htable]
    rfl
  exact Registry.get?_build_of_last hschema hafter

/-- A name that holds quote characters, parentheses, comment marks, line feeds and a keyword. -/
theorem quotedName_read_marks :
    let name := "a\"\"b (c); -- d\n/* VALUES".toList
    let statement : Statement :=
      { kind := .createTable
        text := "CREATE TABLE \"a\"\"\"\"b (c); -- d\n/* VALUES\" (a TEXT);".toList
        lineCount := 2
        ending := .complete }
    let other : Statement :=
      { kind := .createTable, text := "CREATE TABLE A(b);".toList, lineCount := 1,
        ending := .complete }
    name ≠ [] ∧ (∀ schema ∈ Registry.schemaOf? other, schema.tableName ≠ name) ∧
      ∃ table insert, CreateTable.parse? statement.text = some table ∧
        Insert.parse? "INSERT INTO \"a\"\"\"\"b (c); -- d\n/* VALUES\" VALUES(1);".toList =
          some insert ∧
        (Registry.build [other, statement, other]).get? insert.table = some table.schema := by
  intro name statement other
  have hname : name ≠ [] := by decide +kernel
  have hother : ∀ schema ∈ Registry.schemaOf? other, schema.tableName ≠ name := by decide +kernel
  have htext : statement.text = CreateTable.definitionOf name := by rfl
  obtain ⟨table, insert, htable, -, hinsert, -, hfound⟩ := (quotedName_read name).2 hname
  refine ⟨hname, hother, table, insert, ?_, hinsert, ?_⟩
  · rw [htext]
    exact htable
  · refine hfound [other] [other] statement rfl htext fun later hlater => ?_
    rw [List.mem_singleton.mp hlater]
    exact hother

end DumpConvert
