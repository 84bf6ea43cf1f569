import DumpConvert.Profile.Basic
import DumpConvert.Proofs.Schema.Definition

/-!
# The range that is exchanged

Mapping a definition changes nothing, or it changes one range of it: the part of the
declared type before its first parenthesis (`mapDefinition_exchanges`).  The schema of the
table reads its base type from the same declared type by another way, which trims it.
Both ways agree because no blank stands in a type before a parenthesis is open
(`isBlank_of_mem_typeKeyword`).

The name of the column stays as well, provided that the target begins with a character
that is no blank: otherwise blanks of the target would join the ones behind the name, and
an empty target would let the suffix or the rest move up to them.
-/

namespace DumpConvert

open ColumnDefinition

/-! ## The keyword of a type -/

theorem isBlank_of_mem_takeWhile_cutType {depth : Int} (hdepth : depth ≤ 0) (t : Text) :
    ∀ c ∈ (cutType depth t).1.takeWhile (· ≠ '('), Text.isBlank c = false := by
  -- Before the first opening parenthesis the depth only falls, so every blank ends the type.
  induction t generalizing depth with
  | nil => exact List.forall_mem_nil _
  | cons d rest ih =>
      unfold cutType
      by_cases hblank : Text.isBlank d = true
      · simp [hblank, hdepth]
      · have hsolid : Text.isBlank d = false := by simpa using hblank
        rw [if_neg fun hstop => hblank hstop.1]
        by_cases hleft : d = '('
        · simp [hleft]
        · have hfalls : (if d = ')' then depth - 1 else depth) ≤ 0 := by
            split <;> omega
          have hkept : ∀ u : Text, (d :: u).takeWhile (· ≠ '(') = d :: u.takeWhile (· ≠ '(') :=
            fun u => List.takeWhile_cons_of_pos (by simpa using hleft)
          simp only [if_neg hleft, hkept]
          exact List.forall_mem_cons.mpr ⟨hsolid, ih hfalls⟩

theorem isBlank_of_mem_typeKeyword (definition : Text) :
    ∀ c ∈ (cut definition).typeKeyword, Text.isBlank c = false := by
  exact isBlank_of_mem_takeWhile_cutType (Int.le_refl 0) _

/-- The keyword that is exchanged is, in upper case, the base type that the schema shows. -/
theorem baseType_declaredType (definition : Text) :
    baseType (cut definition).declaredType = Text.asciiUpper (cut definition).typeKeyword := by
  have hsolid := isBlank_of_mem_typeKeyword definition
  have htrim : Text.trim (cut definition).typeKeyword = (cut definition).typeKeyword :=
    (Text.trim_eq_self_iff _).mpr
      ⟨fun c hc => hsolid c (List.mem_of_mem_head? hc),
        fun c hc => hsolid c (List.mem_of_getLast? hc)⟩
  rw [baseType]
  exact congrArg Text.asciiUpper htrim

/-! ## The column of a definition -/

theorem CreateTable.columnsFrom_append (position : Nat) (before after : List Text) :
    columnsFrom position (before ++ after) = columnsFrom position before ++
      columnsFrom (position + (columnsFrom position before).length) after := by
  induction before generalizing position with
  | nil => simp [columnsFrom]
  | cons definition rest ih =>
      simp only [List.cons_append, columnsFrom]
      split
      · exact ih position
      · split
        · exact ih position
        · rw [ih, List.cons_append, List.length_cons, Nat.add_right_comm, Nat.add_assoc]

/-- A definition that is a column gives the next column of the table that holds it. -/
theorem CreateTable.getElem?_columns {table : CreateTable} {before after : List Text}
    {definition : Text} {column : ColumnDefinition}
    (htable : table.definitions = before ++ definition :: after)
    (hcolumn : isConstraint definition = false)
    (hparse : ColumnDefinition.parse? definition = some column) :
    table.schema.columns[(columnsFrom 0 before).length]? =
      some ⟨column.name, column.declaredType, (columnsFrom 0 before).length⟩ := by
  have hnext : columnsFrom (columnsFrom 0 before).length (definition :: after) =
      ⟨column.name, column.declaredType, (columnsFrom 0 before).length⟩ ::
        columnsFrom ((columnsFrom 0 before).length + 1) after := by
    simp only [columnsFrom, hcolumn, hparse]
    rfl
  rw [schema, htable, columnsFrom_append, Nat.zero_add, hnext,
    List.getElem?_append_right (Nat.le_refl _), Nat.sub_self]
  rfl

/-! ## Exchanges -/

structure Exchanges (profile : Profile) (definition : Text) (column : ColumnDefinition)
    (target : Text) : Prop where
  isColumn : isConstraint definition = false
  parsed : ColumnDefinition.parse? definition = some column
  typed : column.declaredType ≠ []
  entry : profile.typeMap.get? (Text.asciiUpper column.typeKeyword) = some target

variable {profile : Profile} {definition target : Text} {column : ColumnDefinition}

theorem Exchanges.cut_eq (h : Exchanges profile definition column target) :
    cut definition = column := by
  exact (parse?_eq_some_iff.mp h.parsed).2

theorem Exchanges.mapDefinition_eq (h : Exchanges profile definition column target) :
    mapDefinition profile definition = column.front ++ (target ++ column.back) := by
  have hmapType : profile.mapType column.typeKeyword = target := by
    rw [Profile.mapType, h.entry, Option.getD_some]
  have htyped : column.declaredType.isEmpty = false := by
    simpa using h.typed
  rw [← hmapType, ← source_withTarget]
  simp only [mapDefinition, h.isColumn, h.parsed, htyped]
  rfl

/-- A definition without an exchange stays. -/
theorem mapDefinition_of_not_exchanges
    (h : ¬ ∃ column target, Exchanges profile definition column target) :
    mapDefinition profile definition = definition := by
  rcases hconstraint : isConstraint definition with _ | _
  · cases hparse : ColumnDefinition.parse? definition with
    | none => simp [mapDefinition, hconstraint, hparse]
    | some column =>
        by_cases htype : column.declaredType = []
        · simp [mapDefinition, hconstraint, hparse, htype]
        · have hentry : profile.typeMap.get? (Text.asciiUpper column.typeKeyword) = none := by
            cases hentry : profile.typeMap.get? (Text.asciiUpper column.typeKeyword) with
            | none => rfl
            | some target => exact absurd ⟨column, target, hconstraint, hparse, htype, hentry⟩ h
          apply mapDefinition_of_mapType
          rw [(parse?_eq_some_iff.mp hparse).2, Profile.mapType, hentry, Option.getD_none]
  · simp [mapDefinition, hconstraint]

theorem map_name_parse? (definition : Text) :
    (ColumnDefinition.parse? definition).map ColumnDefinition.name =
      if (cut definition).name.isEmpty then none else some (cut definition).name := by
  unfold ColumnDefinition.parse?
  split <;> rfl

theorem Exchanges.map_name_parse?_mapDefinition (h : Exchanges profile definition column target)
    (htarget : ∃ c ∈ target.head?, Text.isBlank c = false) :
    (ColumnDefinition.parse? (mapDefinition profile definition)).map ColumnDefinition.name =
      (ColumnDefinition.parse? definition).map ColumnDefinition.name := by
  obtain ⟨c, hc, hsolid⟩ := htarget
  obtain ⟨more, rfl⟩ := List.head?_eq_some_iff.mp hc
  have htyped := h.typed
  have hmapped := h.mapDefinition_eq
  rw [← h.cut_eq] at htyped hmapped
  have hread := cut_front_append htyped
    (t := c :: more ++ (cut definition).back) (Text.forall_mem_head?_cons hsolid _)
  rw [map_name_parse?, map_name_parse?, hmapped, hread]
  rfl

/--
Mapping a definition leaves it as it is, or exchanges one range of it: what stands of its
declared type before the first parenthesis, for the target that the type map has for this
keyword in upper case.  The latter happens to the definitions that are columns with a type
whose keyword is mapped, and to no others.  The keyword is the one that the schema of the
table shows as the base type of the column, and the definition stays a column of the same
name, for a name if the target begins with no blank.
-/
theorem mapDefinition_exchanges (profile : Profile) (definition : Text) :
    (mapDefinition profile definition = definition ∧
        ¬ ∃ column target, Exchanges profile definition column target) ∨
      ∃ column target, Exchanges profile definition column target ∧
        (definition = column.front ++ (column.typeKeyword ++ column.back) ∧
          mapDefinition profile definition = column.front ++ (target ++ column.back) ∧
          Text.byteLength column.front = column.typeStart) ∧
        (column.declaredType = column.typeKeyword ++ column.typeSuffix ∧
          '(' ∉ column.typeKeyword ∧ ∀ c ∈ column.typeSuffix.head?, c = '(') ∧
        (∀ (table : CreateTable) (before after : List Text),
          table.definitions = before ++ definition :: after →
          ∃ entry, table.schema.columns[(CreateTable.columnsFrom 0 before).length]? = some entry ∧
            entry.name = column.name ∧ entry.declaredType = column.declaredType ∧
            entry.baseType = Text.asciiUpper column.typeKeyword) ∧
        ((∃ c ∈ target.head?, Text.isBlank c = false) →
          isConstraint (mapDefinition profile definition) = isConstraint definition ∧
          (ColumnDefinition.parse? (mapDefinition profile definition)).map
              ColumnDefinition.name =
            (ColumnDefinition.parse? definition).map ColumnDefinition.name) := by
  by_cases hexchange : ∃ column target, Exchanges profile definition column target
  · obtain ⟨column, target, h⟩ := hexchange
    have hwhole := cut_eq_front_append definition
    have hbase := baseType_declaredType definition
    rw [h.cut_eq] at hwhole hbase
    refine .inr ⟨column, target, h, ⟨hwhole, h.mapDefinition_eq, rfl⟩, ⟨?_, ?_, ?_⟩, ?_, ?_⟩
    · exact List.takeWhile_append_dropWhile.symm
    · intro hmem
      exact absurd (List.mem_takeWhile_imp hmem) (by decide)
    · intro c hc
      simpa using Text.mem_head?_dropWhile hc
    · intro table before after htable
      exact ⟨_, CreateTable.getElem?_columns htable h.isColumn h.parsed, rfl, rfl, hbase⟩
    · exact fun htarget => ⟨isConstraint_mapDefinition profile definition,
        h.map_name_parse?_mapDefinition htarget⟩
  · exact .inl ⟨mapDefinition_of_not_exchanges hexchange, hexchange⟩

/-- A type that is glued to a quoted name and has a suffix with a blank. -/
theorem mapDefinition_exchanges_gluedName :
    let definition := "\"key (é)\"real(10, 2) NOT NULL".toList
    let mapped := "\"key (é)\"DOUBLE PRECISION(10, 2) NOT NULL".toList
    let table : CreateTable := ⟨"t".toList, ["id TEXT".toList, definition], []⟩
    ColumnDefinition.parse? definition = some (cut definition) ∧
      mapDefinition .builtIn definition = mapped ∧
      (∃ entry, table.schema.columns[1]? = some entry ∧ entry.baseType = "REAL".toList) ∧
      isConstraint mapped = isConstraint definition ∧
      (ColumnDefinition.parse? mapped).map ColumnDefinition.name =
        (ColumnDefinition.parse? definition).map ColumnDefinition.name := by
  intro definition mapped table
  have hparse : ColumnDefinition.parse? definition = some (cut definition) := by decide +kernel
  have hentry : Profile.builtIn.typeMap.get? (Text.asciiUpper (cut definition).typeKeyword) =
      some "DOUBLE PRECISION".toList := by decide +kernel
  have hmapped : mapDefinition .builtIn definition = mapped := by decide +kernel
  rcases mapDefinition_exchanges .builtIn definition with
    ⟨hkept, -⟩ | ⟨column, target, hexchange, -, -, hcolumn, hname⟩
  · exact absurd hkept (by decide +kernel)
  · obtain rfl := hexchange.cut_eq
    obtain rfl : target = "DOUBLE PRECISION".toList :=
      Option.some.inj (hexchange.entry.symm.trans hentry)
    obtain ⟨entry, hfound, -, -, hbase⟩ := hcolumn table ["id TEXT".toList] [] rfl
    rw [← hmapped]
    exact ⟨hparse, rfl, ⟨entry, hfound, hbase⟩, hname ⟨'D', rfl, by decide⟩⟩

end DumpConvert
