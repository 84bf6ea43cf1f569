import DumpConvert.Profile.Basic
import DumpConvert.Proofs.Schema.Definition
import DumpConvert.Proofs.Sql.Identifier

/-!
# Table definitions of the script read back

A table of the script is a table definition again: it has the same name and the mapped
definitions, and no table options (`parse?_render`).

The text has no comment to strip (`stripComments_render`).  The words in front and the
quoted name are read as a header (`header?_render`), the body ends at the last closing
parenthesis, and the line breaks and the indentation between the definitions are lost
(`splitValues_bodyOf`).
-/

namespace DumpConvert.CreateTable

open Sql

/-! ## The text of a table -/

/-- The table with its definitions mapped and without options. -/
def mapped (profile : Profile) (table : CreateTable) : CreateTable :=
  { tableName := table.tableName
    definitions := table.definitions.map (mapDefinition profile)
    options := [] }

def indented (item : Text) : Text :=
  "    ".toList ++ item

def bodyOf (items : List Text) : Text :=
  ['\n'] ++ (Text.joinWith [',', '\n'] (items.map indented) ++ ['\n'])

theorem render_eq (profile : Profile) (table : CreateTable) :
    table.render profile = "CREATE TABLE IF NOT EXISTS ".toList ++
      (Identifier.quote table.tableName ++
        (" (".toList ++ (bodyOf (table.mapped profile).definitions ++ ");".toList))) := by
  have hopen : " (\n".toList = " (".toList ++ ['\n'] := by rfl
  have hclose : "\n);".toList = ['\n'] ++ ");".toList := by rfl
  unfold render bodyOf mapped indented
  rw [List.map_map, hopen, hclose]
  -- The words are named first, so that regrouping does not spell them out.
  generalize "CREATE TABLE IF NOT EXISTS ".toList = words
  generalize " (".toList = opening
  generalize ");".toList = closing
  simp only [List.append_assoc]
  rfl

/-! ## Comments -/

theorem isUncommented_indented {item : Text} (h : IsUncommented item) :
    IsUncommented (indented item) := by
  have hspaces : IsUncommented "    ".toList :=
    isUncommented_of_unquoted (by decide) (by decide) (by decide)
  exact hspaces.append_of_last h rfl (by decide)

theorem isUncommented_bodyOf {items : List Text} (h : ∀ item ∈ items, IsUncommented item) :
    IsUncommented (bodyOf items) := by
  have hnewline : IsUncommented ['\n'] :=
    isUncommented_of_unquoted (by decide) (by decide) (by decide)
  have hindented : ∀ item ∈ items.map indented, IsUncommented item := by
    intro item hitem
    obtain ⟨inner, hinner, rfl⟩ := List.mem_map.mp hitem
    exact isUncommented_indented (h inner hinner)
  have hseparator : IsUncommented [',', '\n'] :=
    isUncommented_of_unquoted (by decide) (by decide) (by decide)
  have hjoined := isUncommented_joinWith hseparator rfl (by decide) rfl (by decide) hindented
  have hlines := hjoined.append_of_first hnewline rfl (by decide)
  exact hnewline.append_of_last hlines rfl (by decide)

variable {profile : Profile} {table : CreateTable}

theorem stripComments_render
    (h : ∀ item ∈ (table.mapped profile).definitions, IsUncommented item) :
    stripComments (table.render profile) = table.render profile := by
  have hwords : IsUncommented "CREATE TABLE IF NOT EXISTS ".toList :=
    isUncommented_of_unquoted (by decide) (by decide) (by decide)
  have hopen : IsUncommented " (".toList :=
    isUncommented_of_unquoted (by decide) (by decide) (by decide)
  have hclose : IsUncommented ");".toList :=
    isUncommented_of_unquoted (by decide) (by decide) (by decide)
  have hname : IsUncommented (Identifier.quote table.tableName) :=
    isUncommented_enclose (by decide) table.tableName
  have hbody := (isUncommented_bodyOf h).append_of_first hclose rfl (by decide)
  have hparentheses := hopen.append_of_last hbody rfl (by decide)
  have hnamed := hname.append_of_first hparentheses rfl (by decide)
  rw [stripComments_eq_self_iff, render_eq]
  exact (hwords.append_of_last hnamed rfl (by decide)).free

/-! ## The header -/

theorem keywords?_createTable (rest : Text) :
    keywords? ["create".toList, "table".toList]
      (Text.trimStart ("CREATE TABLE IF NOT EXISTS ".toList ++ rest)) =
        some ("IF NOT EXISTS ".toList ++ rest) := by
  rfl

theorem keywords?_ifNotExists (name rest : Text) :
    keywords? ["if".toList, "not".toList, "exists".toList]
      ("IF NOT EXISTS ".toList ++ (Identifier.quote name ++ rest)) =
        some (Identifier.quote name ++ rest) := by
  rfl

theorem namedBody?_quote {name : Text} (hname : name ≠ []) (body : Text) :
    namedBody? (Identifier.quote name ++ (" (".toList ++ body)) =
      some (Identifier.quote name, body) := by
  have hhead : (" (".toList ++ body).head? ≠ some '"' := by
    simp
  rw [namedBody?, Identifier.scanName?_quote hname hhead]
  rfl

theorem header?_render (hname : table.tableName ≠ []) :
    header? (table.render profile) =
      some (Identifier.quote table.tableName,
        bodyOf (table.mapped profile).definitions ++ ");".toList) := by
  rw [render_eq, header?, keywords?_createTable]
  simp only [keywords?_ifNotExists, Option.bind_some, namedBody?_quote hname]

/-! ## The body -/

theorem splitValues_bodyOf {items : List Text} (h : ∀ item ∈ items, IsDefinition item) :
    splitValues (bodyOf items) = items := by
  have hspaces : ∀ c ∈ "    ".toList, Text.isBlank c = true := List.all_eq_true.mp (by decide)
  have hnewline : ∀ c ∈ ['\n'], Text.isBlank c = true := List.all_eq_true.mp (by decide)
  have htrim : ∀ item ∈ items, Text.trim (indented item) = item := by
    intro item hitem
    rw [indented, Text.trim_append_of_blank_left hspaces, (h item hitem).trimmed]
  have hitems : ∀ item ∈ items.map indented, IsItem item := by
    intro item hitem
    obtain ⟨inner, hinner, rfl⟩ := List.mem_map.mp hitem
    exact (isItem_of_blank hspaces).append (h inner hinner).isItem
  have hread : splitValues (bodyOf items) =
      Nesting.top.split ['\n'] (Text.joinWith [',', '\n'] (items.map indented) ++ ['\n']) := rfl
  have hkept : (items.map indented).map Text.trim = items := by
    rw [List.map_map]
    exact (List.map_congr_left htrim).trans (List.map_id items)
  have hlast : items.getLast? ≠ some [] := fun hnil =>
    (h [] (List.mem_of_getLast? hnil)).ne_nil rfl
  rw [hread, split_joinWith (isItemList_of_forall hitems) hnewline hnewline hnewline, hkept,
    dropEmptyLast, if_neg hlast]

/-! ## The whole table -/

theorem parse?_render (hname : table.tableName ≠ [])
    (h : ∀ item ∈ (table.mapped profile).definitions, IsDefinition item) :
    parse? (table.render profile) = some (table.mapped profile) := by
  have hend : Text.splitAtLast? ')' (bodyOf (table.mapped profile).definitions ++ ");".toList) =
      some (bodyOf (table.mapped profile).definitions, [';']) :=
    Text.splitAtLast?_append (by decide) _
  have hkept : (table.mapped profile).definitions.filter (fun item => !item.isEmpty) =
      (table.mapped profile).definitions := by
    refine List.filter_eq_self.mpr fun item hitem => ?_
    simpa using (h item hitem).ne_nil
  rw [parse?, stripComments_render fun item hitem => (h item hitem).isUncommented,
    header?_render hname]
  simp only [hend, splitValues_bodyOf h, hkept, Identifier.unquote_quote]
  rfl

def columnPlaces (table : CreateTable) : List (Text × Nat) :=
  table.schema.columns.map (fun column => (column.name, column.position))

/--
The text of a table reads back as the table with its definitions mapped: the columns keep
their names and positions, and the table options are dropped.  Writing what was read gives
the same text, unless the first word of a target is itself exchanged.
-/
theorem render_readBack (htypes : profile.HasPlainTypes) (hname : table.tableName ≠ [])
    (hdefinitions : ∀ item ∈ table.definitions, IsDefinition item) :
    parse? (table.render profile) = some (table.mapped profile) ∧
      (table.mapped profile).columnPlaces = table.columnPlaces ∧
      (profile.KeepsTargets →
        (table.mapped profile).render profile = table.render profile) := by
  have hmapped : ∀ item ∈ (table.mapped profile).definitions, IsDefinition item := by
    intro item hitem
    obtain ⟨definition, hdefinition, rfl⟩ := List.mem_map.mp hitem
    exact (hdefinitions definition hdefinition).mapDefinition htypes
  refine ⟨parse?_render hname hmapped, columnsFrom_map htypes 0 table.definitions, ?_⟩
  intro hkeeps
  have htwice : (table.definitions.map (mapDefinition profile)).map (mapDefinition profile) =
      table.definitions.map (mapDefinition profile) := by
    rw [List.map_map]
    exact List.map_congr_left fun definition _ =>
      mapDefinition_mapDefinition htypes hkeeps definition
  rw [render_eq, render_eq]
  simp only [mapped, htwice]

/-- Marks inside quotes and parentheses, a target of two words, and a constraint. -/
theorem render_readBack_nestedMarks :
    let table : CreateTable :=
      { tableName := "a\"b".toList
        definitions :=
          ["\"id (key)\" INTEGER PRIMARY KEY".toList, "price REAL(10, 2) DEFAULT 'a, (b'".toList,
            "\x60made at\x60 DATETIME DEFAULT '--'".toList, "CHECK (price > 0)".toList]
        options := "WITHOUT ROWID".toList }
    Profile.builtIn.HasPlainTypes ∧ table.tableName ≠ [] ∧
      (∀ item ∈ table.definitions, IsDefinition item) ∧ Profile.builtIn.KeepsTargets ∧
      parse? (table.render .builtIn) = some (table.mapped .builtIn) ∧
      (table.mapped .builtIn).columnPlaces = table.columnPlaces ∧
      (table.mapped .builtIn).render .builtIn = table.render .builtIn := by
  intro table
  have htypes : Profile.builtIn.HasPlainTypes := by decide +kernel
  have hname : table.tableName ≠ [] := by decide +kernel
  have hdefinitions : ∀ item ∈ table.definitions, IsDefinition item := by decide +kernel
  have hkeeps : Profile.builtIn.KeepsTargets := by decide +kernel
  obtain ⟨hparse, hplaces, hstable⟩ := render_readBack htypes hname hdefinitions
  exact ⟨htypes, hname, hdefinitions, hkeeps, hparse, hplaces, hstable hkeeps⟩

end DumpConvert.CreateTable
