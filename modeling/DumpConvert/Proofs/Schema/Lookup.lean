import DumpConvert.Proofs.Schema.Registry
import DumpConvert.Statement

/-!
# Looking up tables and columns

What a registry finds for a name is given by the list of the schemas that were declared.
A name that was declared finds the last schema that bears it; any other name finds the last
schema that bears the first declared spelling of the name (`Registry.Resolves`).  The two
dictionaries of a registry answer the two questions: declaring keeps the last schema of a
name (`get?_tables_build`) and the first spelling of its lower-case form
(`get?_spellings_build`).

The columns of a table are found by name in a similar way, the first one first
(`TableSchema.Names`).
-/

namespace DumpConvert

/-! ## The first and the last of a list -/

variable {α : Type}

def IsFirst (p : α → Prop) (items : List α) (item : α) : Prop :=
  ∃ before after, items = before ++ item :: after ∧ p item ∧ ∀ other ∈ before, ¬ p other

def IsLast (p : α → Prop) (items : List α) (item : α) : Prop :=
  ∃ before after, items = before ++ item :: after ∧ p item ∧ ∀ other ∈ after, ¬ p other

theorem find?_eq_some_iff_isFirst (test : α → Bool) {p : α → Prop}
    (htest : ∀ item, test item = true ↔ p item) (items : List α) (item : α) :
    items.find? test = some item ↔ IsFirst p items item := by
  rw [List.find?_eq_some_iff_append, htest]
  constructor
  · rintro ⟨hitem, before, after, hsplit, hbefore⟩
    refine ⟨before, after, hsplit, hitem, fun other hother hp => ?_⟩
    have hfalse := hbefore other hother
    rw [(htest other).mpr hp] at hfalse
    cases hfalse
  · rintro ⟨before, after, hsplit, hitem, hbefore⟩
    refine ⟨hitem, before, after, hsplit, fun other hother => ?_⟩
    cases hvalue : test other with
    | false => rfl
    | true => exact absurd ((htest other).mp hvalue) (hbefore other hother)

/-- The last item is the first one from behind. -/
theorem isFirst_reverse (p : α → Prop) (items : List α) (item : α) :
    IsFirst p items.reverse item ↔ IsLast p items item := by
  constructor
  · rintro ⟨before, after, hsplit, hitem, hbefore⟩
    refine ⟨after.reverse, before.reverse, ?_, hitem, by simpa using hbefore⟩
    simpa using congrArg List.reverse hsplit
  · rintro ⟨before, after, rfl, hitem, hafter⟩
    exact ⟨after.reverse, before.reverse, by simp, hitem, by simpa using hafter⟩

theorem IsFirst.mem {p : α → Prop} {items : List α} {item : α} (h : IsFirst p items item) :
    item ∈ items ∧ p item := by
  obtain ⟨before, after, rfl, hitem, -⟩ := h
  exact ⟨by simp, hitem⟩

theorem IsLast.mem {p : α → Prop} {items : List α} {item : α} (h : IsLast p items item) :
    item ∈ items ∧ p item := by
  obtain ⟨before, after, rfl, hitem, -⟩ := h
  exact ⟨by simp, hitem⟩

theorem exists_isFirst (p : α → Prop) {items : List α} (h : ∃ item ∈ items, p item) :
    ∃ first, IsFirst p items first := by
  classical
  cases hfind : items.find? (fun item => decide (p item)) with
  | some first =>
      exact ⟨first, (find?_eq_some_iff_isFirst _ (fun item => decide_eq_true_iff) _ _).mp hfind⟩
  | none =>
      obtain ⟨item, hitem, hp⟩ := h
      exact absurd (decide_eq_true hp) (List.find?_eq_none.mp hfind item hitem)

theorem exists_isLast (p : α → Prop) {items : List α} (h : ∃ item ∈ items, p item) :
    ∃ last, IsLast p items last := by
  have hreverse : ∃ item ∈ items.reverse, p item := by simpa using h
  obtain ⟨last, hlast⟩ := exists_isFirst p hreverse
  exact ⟨last, (isFirst_reverse p items last).mp hlast⟩

/-! ## Columns -/

namespace TableSchema

inductive Names (schema : TableSchema) (name : Text) : Column → Prop where
  /-- A column has exactly this name. -/
  | exact {column : Column}
      (h : IsFirst (fun other => other.name = name) schema.columns column) :
      Names schema name column
  /-- No column has exactly this name; the case of ASCII letters is disregarded. -/
  | spelling {column : Column} (hnone : ∀ other ∈ schema.columns, other.name ≠ name)
      (h : IsFirst (fun other => Text.sameIgnoringCase other.name name = true) schema.columns
        column) :
      Names schema name column

theorem columnNamed?_iff (schema : TableSchema) (name : Text) (column : Column) :
    schema.columnNamed? name = some column ↔ schema.Names name column := by
  have hexact := find?_eq_some_iff_isFirst (fun other : Column => other.name == name)
    (fun other => beq_iff_eq) schema.columns
  have hspelling := find?_eq_some_iff_isFirst
    (fun other : Column => Text.sameIgnoringCase other.name name)
    (fun other => Iff.rfl) schema.columns column
  unfold columnNamed?
  cases hfind : schema.columns.find? (fun other => other.name == name) with
  | some found =>
      have hfound := (hexact found).mp hfind
      constructor
      · rintro ⟨⟩
        exact .exact hfound
      · rintro (hfirst | ⟨hnone, -⟩)
        · rw [← hfind, (hexact column).mpr hfirst]
        · exact absurd hfound.mem.2 (hnone found hfound.mem.1)
  | none =>
      have hnone : ∀ other ∈ schema.columns, other.name ≠ name := by
        simpa using List.find?_eq_none.mp hfind
      constructor
      · exact fun hcolumn => .spelling hnone (hspelling.mp hcolumn)
      · rintro (hfirst | ⟨-, hfirst⟩)
        · exact absurd hfirst.mem.2 (hnone column hfirst.mem.1)
        · exact hspelling.mpr hfirst

theorem columnNamed?_eq_none_iff (schema : TableSchema) (name : Text) :
    schema.columnNamed? name = none ↔
      ∀ other ∈ schema.columns, Text.sameIgnoringCase other.name name = false := by
  unfold columnNamed?
  cases hfind : schema.columns.find? (fun other => other.name == name) with
  | some found =>
      have hname : found.name = name := by simpa using List.find?_some hfind
      have hsame : Text.sameIgnoringCase found.name name = true := by
        rw [hname, Text.sameIgnoringCase, beq_self_eq_true]
      refine iff_of_false (Option.some_ne_none found) fun hnone => ?_
      rw [hnone found (List.mem_of_find?_eq_some hfind)] at hsame
      cases hsame
  | none => simp [List.find?_eq_none]

end TableSchema

/-! ## Tables -/

namespace Registry

inductive Resolves (declared : List TableSchema) (table : Text) : TableSchema → Prop where
  /-- The name was declared. -/
  | exact {schema : TableSchema}
      (h : IsLast (fun other => other.tableName = table) declared schema) :
      Resolves declared table schema
  /-- The name was not declared; the first spelling that agrees with it in lower case counts. -/
  | spelling {first schema : TableSchema} (hnone : ∀ other ∈ declared, other.tableName ≠ table)
      (hfirst : IsFirst (fun other => Text.lower other.tableName = Text.lower table) declared
        first)
      (h : IsLast (fun other => other.tableName = first.tableName) declared schema) :
      Resolves declared table schema

/-- The last schema of a name counts, behind those that the registry held before. -/
theorem get?_tables_foldl_declare (registry : Registry) (schemas : List TableSchema)
    (name : Text) :
    (schemas.foldl declare registry).tables.get? name =
      (schemas.reverse.find? (fun schema => schema.tableName == name)).or
        (registry.tables.get? name) := by
  induction schemas generalizing registry with
  | nil => rfl
  | cons schema rest ih =>
      rw [List.foldl_cons, ih, List.reverse_cons, List.find?_append, declare,
        Dictionary.get?_insert, Option.or_assoc]
      by_cases hname : schema.tableName = name <;> simp [hname]

theorem get?_keepSpelling (spellings : Dictionary Text) (name low : Text) :
    (keepSpelling spellings name).get? low =
      (spellings.get? low).or (if Text.lower name = low then some name else none) := by
  unfold keepSpelling
  by_cases hlow : Text.lower name = low
  · subst hlow
    cases hkept : spellings.get? (Text.lower name) with
    | some kept => simp [hkept]
    | none => simp [Dictionary.get?_insert]
  · cases hkept : spellings.get? (Text.lower name) with
    | some kept => simp [hlow]
    | none => simp [Dictionary.get?_insert, hlow]

/-- The first spelling counts, unless the registry held one before. -/
theorem get?_spellings_foldl_declare (registry : Registry) (schemas : List TableSchema)
    (low : Text) :
    (schemas.foldl declare registry).spellings.get? low =
      (registry.spellings.get? low).or
        ((schemas.find? (fun schema => Text.lower schema.tableName == low)).map
          TableSchema.tableName) := by
  induction schemas generalizing registry with
  | nil => simp
  | cons schema rest ih =>
      rw [List.foldl_cons, ih, declare, get?_keepSpelling, Option.or_assoc]
      by_cases hlow : Text.lower schema.tableName = low <;> simp [hlow]

variable (statements : List Statement)

theorem get?_tables_build (name : Text) (schema : TableSchema) :
    (build statements).tables.get? name = some schema ↔
      IsLast (fun other => other.tableName = name) (statements.filterMap schemaOf?) schema := by
  rw [build, get?_tables_foldl_declare, empty, Dictionary.get?_empty, Option.or_none,
    find?_eq_some_iff_isFirst _ (fun other => beq_iff_eq), isFirst_reverse]

theorem get?_spellings_build (low name : Text) :
    (build statements).spellings.get? low = some name ↔
      ∃ first, IsFirst (fun other => Text.lower other.tableName = low)
        (statements.filterMap schemaOf?) first ∧ first.tableName = name := by
  rw [build, get?_spellings_foldl_declare, empty, Dictionary.get?_empty, Option.none_or,
    Option.map_eq_some_iff]
  simp only [find?_eq_some_iff_isFirst _ (fun other => beq_iff_eq)]

theorem get?_tables_build_eq_none (name : Text) :
    (build statements).tables.get? name = none ↔
      ∀ other ∈ statements.filterMap schemaOf?, other.tableName ≠ name := by
  rw [build, get?_tables_foldl_declare, empty, Dictionary.get?_empty, Option.or_none,
    List.find?_eq_none]
  simp

theorem get?_build_iff (table : Text) (schema : TableSchema) :
    (build statements).get? table = some schema ↔
      Resolves (statements.filterMap schemaOf?) table schema := by
  unfold get?
  cases htable : (build statements).tables.get? table with
  | some found =>
      have hfound := (get?_tables_build statements table found).mp htable
      constructor
      · rintro ⟨⟩
        exact .exact hfound
      · rintro (hlast | ⟨hnone, -, -⟩)
        · rw [← (get?_tables_build statements table schema).mpr hlast, htable]
        · rw [(get?_tables_build_eq_none statements table).mpr hnone] at htable
          cases htable
  | none =>
      have hnone := (get?_tables_build_eq_none statements table).mp htable
      rw [Option.bind_eq_some_iff]
      constructor
      · rintro ⟨name, hname, hschema⟩
        obtain ⟨first, hfirst, rfl⟩ := (get?_spellings_build statements _ name).mp hname
        exact .spelling hnone hfirst ((get?_tables_build statements _ schema).mp hschema)
      · rintro (hlast | ⟨-, hfirst, hlast⟩)
        · rw [(get?_tables_build statements table schema).mpr hlast] at htable
          cases htable
        · exact ⟨_, (get?_spellings_build statements _ _).mpr ⟨_, hfirst, rfl⟩,
            (get?_tables_build statements _ schema).mpr hlast⟩

/-- Nothing is found for a name exactly if no declared name agrees with it in lower case. -/
theorem get?_build_eq_none_iff (table : Text) :
    (build statements).get? table = none ↔
      ∀ other ∈ statements.filterMap schemaOf?,
        Text.lower other.tableName ≠ Text.lower table := by
  constructor
  · intro hnone other hother hlow
    by_cases hexact : ∃ schema ∈ statements.filterMap schemaOf?, schema.tableName = table
    · obtain ⟨last, hlast⟩ := exists_isLast (fun schema : TableSchema => schema.tableName = table) hexact
      rw [(get?_build_iff statements table last).mpr (.exact hlast)] at hnone
      cases hnone
    · have hapart : ∀ schema ∈ statements.filterMap schemaOf?, schema.tableName ≠ table :=
        fun schema hmem heq => hexact ⟨schema, hmem, heq⟩
      obtain ⟨first, hfirst⟩ := exists_isFirst
        (fun schema : TableSchema => Text.lower schema.tableName = Text.lower table)
        ⟨other, hother, hlow⟩
      obtain ⟨last, hlast⟩ := exists_isLast
        (fun schema : TableSchema => schema.tableName = first.tableName) ⟨first, hfirst.mem.1, rfl⟩
      rw [(get?_build_iff statements table last).mpr (.spelling hapart hfirst hlast)] at hnone
      cases hnone
  · intro hnone
    cases hfind : (build statements).get? table with
    | none => rfl
    | some schema =>
        rcases (get?_build_iff statements table schema).mp hfind with
          hlast | ⟨-, hfirst, -⟩
        · exact absurd (congrArg Text.lower hlast.mem.2) (hnone schema hlast.mem.1)
        · exact absurd hfirst.mem.2 (hnone _ hfirst.mem.1)

theorem Resolves.mem {declared : List TableSchema} {table : Text} {schema : TableSchema}
    (h : Resolves declared table schema) : schema ∈ declared := by
  rcases h with hlast | ⟨-, -, hlast⟩ <;> exact hlast.mem.1

/-- The columns of a table that was declared stand at their positions. -/
theorem position_of_schemaOf? {statement : Statement} {schema : TableSchema}
    (h : schemaOf? statement = some schema) {i : Nat} {column : Column}
    (hcolumn : schema.columns[i]? = some column) : column.position = i := by
  unfold schemaOf? at h
  split at h
  · obtain ⟨table, -, rfl⟩ := Option.map_eq_some_iff.mp h
    rw [CreateTable.position_columnsFrom 0 table.definitions hcolumn, Nat.zero_add]
  · cases h

/--
The registry of the statements finds for a name what the declared schemas say, and it counts
each name once.  In a schema that is found every column stands at its position, and a name
finds the first column that bears it.
-/
theorem get?_build_spec (table : Text) :
    (∀ schema, (build statements).get? table = some schema ↔
        Resolves (statements.filterMap schemaOf?) table schema) ∧
      ((build statements).get? table = none ↔
        ∀ other ∈ statements.filterMap schemaOf?,
          Text.lower other.tableName ≠ Text.lower table) ∧
      (build statements).size = (declaredNames statements).dedup.length ∧
      ∀ schema, (build statements).get? table = some schema →
        (∀ (i : Nat) (column : Column), schema.columns[i]? = some column → column.position = i) ∧
        (∀ name column, schema.columnNamed? name = some column ↔ schema.Names name column) ∧
        ∀ name, schema.columnNamed? name = none ↔
          ∀ other ∈ schema.columns, Text.sameIgnoringCase other.name name = false := by
  refine ⟨get?_build_iff statements table, get?_build_eq_none_iff statements table,
    size_build statements, fun schema hschema => ⟨fun i column hcolumn => ?_,
      schema.columnNamed?_iff, schema.columnNamed?_eq_none_iff⟩⟩
  obtain ⟨statement, -, hstatement⟩ := List.mem_filterMap.mp
    ((get?_build_iff statements table schema).mp hschema).mem
  exact position_of_schemaOf? hstatement hcolumn

/-- Two tables whose names differ by case only, and a third spelling of the name. -/
theorem get?_build_spec_caseTwins :
    let statements := splitStatements []
      "CREATE TABLE Item(a INTEGER);\nCREATE TABLE ITEM(a TEXT, b TEXT);".toList
    let schema : TableSchema := ⟨"Item".toList, [⟨"a".toList, "INTEGER".toList, 0⟩]⟩
    (build statements).get? "item".toList = some schema ∧
      Resolves (statements.filterMap schemaOf?) "item".toList schema ∧
      ∀ (i : Nat) (column : Column), schema.columns[i]? = some column → column.position = i := by
  intro statements schema
  have hfound : (build statements).get? "item".toList = some schema := by decide +kernel
  obtain ⟨hresolves, -, -, hcolumns⟩ := get?_build_spec statements "item".toList
  exact ⟨hfound, (hresolves schema).mp hfound, (hcolumns schema hfound).1⟩

end Registry

end DumpConvert
