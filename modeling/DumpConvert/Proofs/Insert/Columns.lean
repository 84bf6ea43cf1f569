import DumpConvert.Profile.Basic
import DumpConvert.Proofs.Value.Column
import DumpConvert.Script.Row
import Mathlib.Logic.Equiv.Basic

/-!
# Columns by name and by position

A value finds its column by its position in the table, or by the name that the column list
has at that position.  Where the columns of a table have different names, a name finds the
column that carries it (`columnNamed?_eq_some`); so a row in another order, under the names
in that order, meets the same columns.

If all columns have a type, the columns and the tokens alone make the values
(`convertRowFrom_ofFn`).  Hence a permuted row under permuted names gives the permuted
values, and no place, table, statement or table of shape rules has a say in them
(`convertRowFrom_permuted`).
-/

namespace DumpConvert

namespace TableSchema

theorem find?_name {columns : List Column} (hnames : (columns.map Column.name).Nodup)
    {column : Column} (hmem : column ∈ columns) :
    columns.find? (fun other => other.name == column.name) = some column := by
  induction columns with
  | nil => cases hmem
  | cons first rest ih =>
      rw [List.map_cons, List.nodup_cons] at hnames
      obtain ⟨hfirst, hrest⟩ := hnames
      rcases List.mem_cons.mp hmem with rfl | hlater
      · simp
      · have hne : first.name ≠ column.name := by
          intro heq
          rw [heq] at hfirst
          exact hfirst (List.mem_map_of_mem hlater)
        rw [List.find?_cons_of_neg (by simpa using hne)]
        exact ih hrest hlater

/-- Among different names a name finds its own column. -/
theorem columnNamed?_eq_some {schema : TableSchema}
    (hnames : (schema.columns.map Column.name).Nodup) {column : Column}
    (hmem : column ∈ schema.columns) : schema.columnNamed? column.name = some column := by
  rw [columnNamed?, find?_name hnames hmem]

end TableSchema

namespace Insert

variable {schema : TableSchema}

theorem columnOf?_of_unnamed {insert : Insert} (h : insert.columns = none)
    (i : Fin schema.columns.length) :
    insert.columnOf? (some schema) i = some (schema.columns.get i) := by
  simp [columnOf?, h, TableSchema.columnAt?]

theorem columnOf?_of_named {insert : Insert} {n : Nat} {columns : Fin n → Column}
    (hnames : (schema.columns.map Column.name).Nodup) (hmem : ∀ i, columns i ∈ schema.columns)
    (h : insert.columns = some (List.ofFn fun i => (columns i).name)) (i : Fin n) :
    insert.columnOf? (some schema) i = some (columns i) := by
  have hname : (List.ofFn fun j => (columns j).name)[i.val]? = some (columns i).name := by
    simp
  simp only [columnOf?, h, hname, Option.bind_some]
  exact TableSchema.columnNamed?_eq_some hnames (hmem i)

/-- A row whose columns have types is converted column by column. -/
theorem convertRowFrom_ofFn (profile : Profile) {insert : Insert} (booleanHint : Bool) {n : Nat}
    {columns : Fin n → Column} (tokens : Fin n → Text)
    (hcolumns : ∀ i : Fin n, insert.columnOf? (some schema) i = some (columns i))
    (htypes : ∀ i, (columns i).baseType ≠ []) :
    convertRowFrom profile insert (some schema) booleanHint 0 (List.ofFn tokens) =
      List.ofFn (fun i => Value.typed profile (columns i) (tokens i)) := by
  rw [convertRowFrom_eq_mapIdx]
  apply List.ext_getElem
  · simp
  · intro position hposition hbound
    have hlt : position < n := by
      simpa using hbound
    have hcolumn : (insert.siteOf (some schema) booleanHint (0 + position)).column =
        some (columns ⟨position, hlt⟩) := by
      rw [Nat.zero_add]
      exact hcolumns ⟨position, hlt⟩
    rw [List.getElem_mapIdx, List.getElem_ofFn, List.getElem_ofFn]
    exact Value.convert_of_typed profile _ hcolumn (htypes _)

/--
For a table whose columns have different names and types throughout, the values of a row are
fixed by the columns and the tokens.  A permuted row under the permuted names gives the
permuted values; all of them are driven by the schema and none is repaired.
-/
theorem convertRowFrom_permuted (profile : Profile) (schema : TableSchema)
    (hnames : (schema.columns.map Column.name).Nodup)
    (htypes : ∀ column ∈ schema.columns, column.baseType ≠ [])
    (tokens : Fin schema.columns.length → Text) :
    ∃ values : Fin schema.columns.length → Converted,
      (∀ i, (values i).schemaDriven = true ∧ (values i).repaired = false) ∧
      ∀ digits positions patterns repairs,
        let other := profile.withShapeRules digits positions patterns repairs
        (∀ i (site : Site), site.column = some (schema.columns.get i) →
          Value.convert other (tokens i) site = values i) ∧
        ∀ (insert : Insert) (booleanHint : Bool),
          (insert.columns = none →
            convertRowFrom other insert (some schema) booleanHint 0 (List.ofFn tokens) =
              List.ofFn values) ∧
          ∀ order : Equiv.Perm (Fin schema.columns.length),
            insert.columns = some (List.ofFn fun i => (schema.columns.get (order i)).name) →
              convertRowFrom other insert (some schema) booleanHint 0
                  (List.ofFn (tokens ∘ order)) =
                List.ofFn (values ∘ order) := by
  have hmem : ∀ i, schema.columns.get i ∈ schema.columns := fun i => List.get_mem _ _
  have htyped : ∀ i, (schema.columns.get i).baseType ≠ [] := fun i => htypes _ (hmem i)
  refine ⟨fun i => Value.typed profile (schema.columns.get i) (tokens i), ?_, ?_⟩
  · exact fun i => Value.flags_typed profile (htyped i) (tokens i)
  · intro digits positions patterns repairs other
    -- The other profile writes every value of a typed column in the same way.
    have hother : ∀ i, Value.typed other (schema.columns.get i) =
        Value.typed profile (schema.columns.get i) := fun i =>
      Value.typed_withShapeRules profile digits positions patterns repairs (htyped i)
    refine ⟨?_, fun insert booleanHint => ⟨?_, ?_⟩⟩
    · intro i site hsite
      rw [Value.convert_of_typed other (tokens i) hsite (htyped i), hother]
    · intro hunnamed
      rw [convertRowFrom_ofFn other booleanHint tokens (columnOf?_of_unnamed hunnamed) htyped]
      simp only [hother]
    · intro order hnamed
      have hcolumns := columnOf?_of_named hnames (fun i => hmem (order i)) hnamed
      rw [convertRowFrom_ofFn other booleanHint (tokens ∘ order) hcolumns
        fun i => htyped (order i)]
      simp only [hother]
      rfl

/-- Two names that differ in case only, and a profile and a table with repairs for each place. -/
theorem convertRowFrom_permuted_caseTwins :
    let schema : TableSchema :=
      ⟨['t'], [⟨['a'], "BOOLEAN".toList, 0⟩, ⟨['A'], "INTEGER".toList, 1⟩,
        ⟨"b_at".toList, "TEXT".toList, 2⟩]⟩
    let row : List Text := [['1'], ['1'], "1696089600000".toList]
    let order : Equiv.Perm (Fin 3) := Equiv.swap 0 1
    let named : Insert := ⟨"Order".toList, some [['A'], ['a'], "b_at".toList], []⟩
    let other := Profile.builtIn.withShapeRules 1 .empty [] [⟨"Order".toList, [0, 1, 2]⟩]
    (schema.columns.map Column.name).Nodup ∧
      (∀ column ∈ schema.columns, column.baseType ≠ []) ∧
      named.columns = some (List.ofFn fun i => (schema.columns.get (order i)).name) ∧
      ∃ values : Fin 3 → Converted,
        convertRowFrom .builtIn ⟨['t'], none, []⟩ (some schema) false 0 (List.ofFn row.get) =
          List.ofFn values ∧
        convertRowFrom other named (some schema) true 0 (List.ofFn (row.get ∘ order)) =
          List.ofFn (values ∘ order) := by
  intro schema row order named other
  have hnames : (schema.columns.map Column.name).Nodup := by decide
  have htypes : ∀ column ∈ schema.columns, column.baseType ≠ [] := by decide
  have hnamed : named.columns =
      some (List.ofFn fun i => (schema.columns.get (order i)).name) := by decide
  obtain ⟨values, -, hvalues⟩ :=
    convertRowFrom_permuted .builtIn schema hnames htypes row.get
  exact ⟨hnames, htypes, hnamed, values,
    ((hvalues _ _ _ _).2 ⟨['t'], none, []⟩ false).1 rfl,
    ((hvalues _ _ _ _).2 named true).2 order hnamed⟩

end Insert

end DumpConvert
