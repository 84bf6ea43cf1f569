import DumpConvert.Proofs.Insert.Layout
import DumpConvert.Proofs.Sql.ValueGroup
import DumpConvert.Proofs.Value.Token
import DumpConvert.Script.Block

/-!
# Insertions of the script read back

The line that the script has for an insertion is an insertion again.  It names the same
table and the same columns, and its rows are the converted rows, value by value
(`parse?_ofInsert`).

An insertion that was read names a table, its column names hold no parentheses, and it
has a row (`IsRead`).  If nothing is open at the end of its groups, its literals are
tokens (`isToken_of_mem_rows`).  So the line has a layout (`wellFormed_layoutOf`), and the
parts of the layout are those that are read (`parts?_render`).
-/

namespace DumpConvert

namespace Insert

open Sql

/-! ## Insertions that were read -/

def groupsText (t : Text) : Text :=
  match parts? t with
  | some (_, _, groups) => groups
  | none => []

structure IsRead (insert : Insert) : Prop where
  table_ne_nil : insert.table ≠ []
  columns_flat : ∀ names ∈ insert.columns, ∀ name ∈ names, ∀ c ∈ name, isParenthesis c = false
  rows_ne_nil : insert.rows ≠ []

theorem of_parts? {t name groups : Text} {columns : Option Text}
    (h : parts? t = some (name, columns, groups)) :
    Identifier.unquote name ≠ [] ∧
      ∀ list ∈ columns, ∀ c ∈ list, isParenthesis c = false := by
  obtain ⟨layout, hlayout, -, rfl, rfl, -⟩ := exists_of_parts? h
  exact ⟨Identifier.unquote_ne_nil hlayout.name, hlayout.tail.columns⟩

theorem isRead_of_parse? {t : Text} {insert : Insert} (h : parse? t = some insert) :
    insert.IsRead := by
  unfold parse? at h
  split at h
  · cases h
  · rename_i name columns groups hparts
    dsimp only at h
    split at h
    · cases h
    · rename_i hrows
      cases h
      obtain ⟨htable, hflat⟩ := of_parts? hparts
      refine
        { table_ne_nil := htable
          columns_flat := ?_
          rows_ne_nil := fun hnil => hrows (List.isEmpty_iff.mpr hnil) }
      intro names hnames name' hname c hc
      obtain ⟨list, hlist, rfl⟩ := Option.map_eq_some_iff.mp hnames
      obtain ⟨token, htoken, rfl⟩ := List.mem_map.mp hname
      exact hflat list hlist c (mem_of_mem_splitValues htoken (Identifier.mem_of_mem_unquote hc))

/-- If nothing is open at the end of the groups, every literal is a token. -/
theorem isToken_of_mem_rows {t : Text} {insert : Insert} (h : parse? t = some insert)
    (hclosed : ClosesGroups (groupsText t)) :
    ∀ row ∈ insert.rows, ∀ token ∈ row, IsToken token := by
  unfold parse? at h
  unfold groupsText at hclosed
  split at h
  · cases h
  · rename_i name columns groups hparts
    rw [hparts] at hclosed
    dsimp only at h
    split at h
    · cases h
    · cases h
      intro row hrow token htoken
      obtain ⟨group, hgroup, rfl⟩ := List.mem_map.mp hrow
      exact isToken_of_mem_splitValues (isGroup_of_mem_splitGroups hclosed hgroup) htoken

/-! ## The groups of the line -/

def texts (rows : List (List Converted)) : List (List Text) :=
  rows.map (fun row => row.map (fun value => value.text))

def groupsOf (rows : List (List Converted)) : Text :=
  Text.joinWith [','] (rows.map rowText)

theorem groupsOf_eq (rows : List (List Converted)) :
    groupsOf rows = Text.joinWith [','] (((texts rows).map joinValues).map parenthesized) := by
  rw [groupsOf, texts, List.map_map, List.map_map]
  rfl

theorem exists_joinWith_parenthesized {groups : List Text} (h : groups ≠ []) :
    ∃ body, Text.joinWith [','] (groups.map parenthesized) = '(' :: body ++ [')'] := by
  induction groups with
  | nil => exact absurd rfl h
  | cons group rest ih =>
      cases rest with
      | nil => exact ⟨group, Text.joinWith_singleton _ _⟩
      | cons next later =>
          obtain ⟨body, hbody⟩ := ih (List.cons_ne_nil next later)
          refine ⟨group ++ [')', ',', '('] ++ body, ?_⟩
          rw [List.map_cons, Text.joinWith_cons_of_ne_nil _ _ (by simp), hbody]
          simp [parenthesized]

theorem splitValues_groupsOf {rows : List (List Converted)}
    (htokens : ∀ row ∈ texts rows, ∀ token ∈ row, IsToken token)
    (hlast : ∀ row ∈ texts rows, row.getLast? ≠ some []) :
    (splitGroups (groupsOf rows)).map splitValues = texts rows := by
  have hgroups : ∀ group ∈ (texts rows).map joinValues, IsGroup group := by
    intro group hgroup
    obtain ⟨row, hrow, rfl⟩ := List.mem_map.mp hgroup
    exact isGroup_joinValues (htokens row hrow)
  rw [groupsOf_eq, splitGroups_joinGroups hgroups, List.map_map]
  refine (List.map_congr_left ?_).trans (List.map_id (texts rows))
  intro row hrow
  exact splitValues_joinValues (htokens row hrow) (hlast row hrow)

/-! ## The column list of the line -/

def columnsOf (names : List Text) : Text :=
  joinValues (names.map Identifier.quote)

theorem splitValues_columnsOf (names : List Text) :
    (splitValues (columnsOf names)).map Identifier.unquote = names := by
  have htokens : ∀ token ∈ names.map Identifier.quote, IsToken token := by
    intro token htoken
    obtain ⟨name, -, rfl⟩ := List.mem_map.mp htoken
    exact isToken_enclose (by decide) name
  have hlast : (names.map Identifier.quote).getLast? ≠ some [] := by
    intro hnil
    obtain ⟨name, -, hname⟩ := List.mem_map.mp (List.mem_of_getLast? hnil)
    exact List.cons_ne_nil _ _ hname
  rw [columnsOf, splitValues_joinValues htokens hlast, List.map_map]
  refine (List.map_congr_left ?_).trans (List.map_id names)
  intro name _
  exact Identifier.unquote_quote name

theorem mem_columnsOf {names : List Text}
    (h : ∀ name ∈ names, ∀ c ∈ name, isParenthesis c = false) :
    ∀ c ∈ columnsOf names, isParenthesis c = false := by
  intro c hc
  rcases Text.mem_of_mem_joinWith hc with hseparator | ⟨written, hwritten, hmem⟩
  · have hcases : c = ',' ∨ c = ' ' := by
      simpa using hseparator
    rcases hcases with rfl | rfl <;> decide
  · obtain ⟨name, hname, rfl⟩ := List.mem_map.mp hwritten
    have hcases : c = '"' ∨ c ∈ double '"' name := by
      simpa [Identifier.quote, enclose, or_comm] using hmem
    rcases hcases with rfl | hinside
    · decide
    · exact h name hname c (mem_double hinside)

/-! ## The whole line -/

def layoutOf (insert : Insert) (rows : List (List Converted)) : Layout :=
  { lead := []
    insertWord := "INSERT".toList
    insertGap := [' ']
    intoWord := "INTO".toList
    intoGap := [' ']
    name := Identifier.quote insert.table
    tail :=
      { nameGap := [' ']
        columns := insert.columns.map columnsOf
        columnsGap := if insert.columns.isSome then [' '] else []
        valuesWord := "VALUES".toList
        valuesGap := []
        groups := groupsOf rows
        ending := [';'] } }

theorem text_layoutOf (insert : Insert) (rows : List (List Converted)) :
    (layoutOf insert rows).text = insert.render rows := by
  have hhead : "INSERT INTO ".toList = "INSERT".toList ++ ([' '] ++ ("INTO".toList ++ [' '])) := by
    rfl
  have hvalues : " VALUES".toList = ' ' :: "VALUES".toList := by rfl
  unfold render layoutOf Layout.text Tail.text Tail.valuesText groupsOf
  rw [hhead, hvalues]
  -- The words are named first, so that regrouping does not spell them out.
  generalize "INSERT".toList = insertWord
  generalize "INTO".toList = intoWord
  generalize "VALUES".toList = valuesWord
  cases insert.columns with
  | none => simp [Tail.listText, columnsText]
  | some names => simp [Tail.listText, columnsText, columnsOf, joinValues]

theorem wellFormed_layoutOf {insert : Insert} (h : insert.IsRead) {rows : List (List Converted)}
    (hrows : rows ≠ []) : (layoutOf insert rows).WellFormed := by
  have hspace : IsGap [' '] := ⟨by simp, List.all_eq_true.mp (by decide)⟩
  have hgroups : ∃ inner, groupsOf rows = '(' :: inner ++ [')'] := by
    rw [groupsOf_eq]
    exact exists_joinWith_parenthesized (by simpa [texts] using hrows)
  have hcolumns : ∀ list ∈ insert.columns.map columnsOf, ∀ c ∈ list, isParenthesis c = false := by
    intro list hlist
    obtain ⟨names, hnames, rfl⟩ := Option.map_eq_some_iff.mp hlist
    exact mem_columnsOf (h.columns_flat names hnames)
  have hgap : ∀ c ∈ (if insert.columns.isSome then [' '] else []), Text.isBlank c = true := by
    intro c hc
    split at hc
    · exact hspace.blank c hc
    · cases hc
  exact
    { lead := by simp [layoutOf]
      insertWord := by rfl
      insertGap := hspace
      intoWord := by rfl
      intoGap := hspace
      name := .inl (.doubled h.table_ne_nil)
      tail :=
        { nameGap := hspace.blank
          columns := hcolumns
          columnsGap := hgap
          valuesWord := by rfl
          valuesGap := by simp [layoutOf]
          groups := hgroups
          ending := .semicolon (List.forall_mem_nil _) (List.forall_mem_nil _) } }

theorem parts?_render {insert : Insert} (h : insert.IsRead) {rows : List (List Converted)}
    (hrows : rows ≠ []) :
    parts? (insert.render rows) =
      some (Identifier.quote insert.table, insert.columns.map columnsOf, groupsOf rows) := by
  rw [← text_layoutOf]
  rcases parts?_text (wellFormed_layoutOf h hrows) with hown | ⟨⟨hgap, -, -⟩, -⟩
  · exact hown
  · cases hgap

/-- Rows of tokens that are written with a header that was read are read again. -/
theorem parse?_render {insert : Insert} (h : insert.IsRead) {rows : List (List Converted)}
    (hrows : rows ≠ []) (htokens : ∀ row ∈ texts rows, ∀ token ∈ row, IsToken token)
    (hlast : ∀ row ∈ texts rows, row.getLast? ≠ some []) :
    parse? (insert.render rows) =
      some { table := insert.table, columns := insert.columns, rows := texts rows } := by
  have hne : (texts rows).isEmpty = false := by
    simpa [texts] using hrows
  have hcolumns : (insert.columns.map columnsOf).map
      (fun list => (splitValues list).map Identifier.unquote) = insert.columns := by
    cases insert.columns with
    | none => rfl
    | some names => simp [splitValues_columnsOf]
  simp only [parse?, parts?_render h hrows, splitValues_groupsOf htokens hlast, hne, hcolumns,
    Identifier.unquote_quote]
  rfl

/-! ## Converted insertions -/

/-- The insertion with every value converted in its place. -/
def converted (profile : Profile) (registry : Option Registry) (text : Text) (insert : Insert) :
    Insert :=
  let schema := registry.bind (fun tables => tables.get? insert.table)
  let booleanHint := profile.mentionsBoolean (Text.lower text)
  { table := insert.table
    columns := insert.columns
    rows := insert.rows.map (fun row =>
      row.mapIdx (fun position token =>
        (Value.convert profile token (insert.siteOf schema booleanHint position)).text)) }

theorem texts_convertRows (profile : Profile) (insert : Insert)
    (schema : Option TableSchema) (booleanHint : Bool) :
    texts (insert.convertRows profile schema booleanHint) =
      insert.rows.map (fun row => row.mapIdx (fun position token =>
        (Value.convert profile token (insert.siteOf schema booleanHint position)).text)) := by
  rw [texts, convertRows, List.map_map]
  apply List.map_congr_left
  intro row _
  rw [Function.comp_apply, convertRowFrom_eq_mapIdx]
  simp only [Nat.zero_add, List.mapIdx_eq_zipIdx_map, List.map_map]
  rfl

theorem isToken_of_mem_texts {insert : Insert}
    (h : ∀ row ∈ insert.rows, ∀ token ∈ row, IsToken token)
    (profile : Profile) (schema : Option TableSchema) (booleanHint : Bool) :
    ∀ row ∈ texts (insert.convertRows profile schema booleanHint), ∀ token ∈ row,
      IsToken token := by
  rw [texts_convertRows]
  intro converted hconverted token htoken
  obtain ⟨row, hrow, rfl⟩ := List.mem_map.mp hconverted
  obtain ⟨position, hposition, rfl⟩ := List.mem_mapIdx.mp htoken
  exact Value.isToken_convert profile _ (h row hrow _ (List.getElem_mem hposition))

theorem getLast?_of_mem_texts {insert : Insert}
    (h : ∀ row ∈ insert.rows, row.getLast? ≠ some [])
    (profile : Profile) (schema : Option TableSchema) (booleanHint : Bool) :
    ∀ row ∈ texts (insert.convertRows profile schema booleanHint), row.getLast? ≠ some [] := by
  rw [texts_convertRows]
  intro converted hconverted
  obtain ⟨row, hrow, rfl⟩ := List.mem_map.mp hconverted
  rw [List.getLast?_mapIdx]
  intro hnil
  obtain ⟨token, htoken, hempty⟩ := Option.map_eq_some_iff.mp hnil
  have hne : token ≠ [] := by
    rintro rfl
    exact h row hrow htoken
  exact Value.convert_ne_nil profile _ hne hempty

/--
The block of an insertion is one line, and that line reads back as the insertion with its
values converted: no value adds, drops, splits or merges a value, a row or a name.  This
holds with registered tables and without.
-/
theorem parse?_ofInsert (profile : Profile) (registry : Option Registry)
    {text : Text} {insert : Insert} (hread : parse? text = some insert)
    (hclosed : ClosesGroups (groupsText text))
    (hlast : ∀ row ∈ insert.rows, row.getLast? ≠ some []) :
    ∃ line, (Block.ofInsert profile registry text).lines = [line] ∧
      parse? line = some (insert.converted profile registry text) := by
  let schema := registry.bind (fun tables => tables.get? insert.table)
  let booleanHint := profile.mentionsBoolean (Text.lower text)
  have hinsert := isRead_of_parse? hread
  have htokens := isToken_of_mem_rows hread hclosed
  have hrows : insert.convertRows profile schema booleanHint ≠ [] := by
    simpa [convertRows] using hinsert.rows_ne_nil
  refine ⟨insert.render (insert.convertRows profile schema booleanHint), ?_, ?_⟩
  · simp only [Block.ofInsert, hread]
    rfl
  · rw [parse?_render hinsert hrows
      (isToken_of_mem_texts htokens profile schema booleanHint)
      (getLast?_of_mem_texts hlast profile schema booleanHint), texts_convertRows]
    rfl

/-- Commas, parentheses and quote characters inside values and names. -/
theorem parse?_ofInsert_quotedMarks :
    let text := "INSERT INTO [a\"b] ([x,y], z) VALUES ('it''s, (odd', NULL), (X'0f', ',')".toList
    let insert : Insert :=
      { table := "a\"b".toList
        columns := some ["[x".toList, "y]".toList, "z".toList]
        rows := [["'it''s, (odd'".toList, "NULL".toList], ["X'0f'".toList, "','".toList]] }
    parse? text = some insert ∧ ClosesGroups (groupsText text) ∧
      (∀ row ∈ insert.rows, row.getLast? ≠ some []) ∧
      ∃ line, (Block.ofInsert .builtIn none text).lines = [line] ∧
        parse? line = some (insert.converted .builtIn none text) := by
  intro text insert
  have hread : parse? text = some insert := by decide +kernel
  have hclosed : ClosesGroups (groupsText text) := ⟨by decide +kernel, by decide +kernel⟩
  have hlast : ∀ row ∈ insert.rows, row.getLast? ≠ some [] := by decide +kernel
  exact ⟨hread, hclosed, hlast, parse?_ofInsert .builtIn none hread hclosed hlast⟩

end Insert

end DumpConvert
