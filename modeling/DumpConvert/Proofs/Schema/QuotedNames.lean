import DumpConvert.Proofs.Schema.QuotedColumn
import Mathlib.Data.List.Forall2

/-!
# Tables with quoted column names

A table is written with quoted column names (`createText`) and read again.  Three scanners
see the names, and each of them knows other quotes: comments are stripped outside double
quotes, apostrophes and backticks, definitions are cut outside double quotes and
apostrophes, and a name is read in all styles.

So every column is read in its place exactly if no comment opens in the body and every
definition is one item of it (`isReadBack_iff`).  Names between double quotes are always
read back (`isReadBack_of_double`); a comma between backticks or brackets is not.
-/

namespace DumpConvert

open Sql ColumnDefinition

namespace QuotedColumn

/-! ## Columns in their places -/

def placedFrom (position : Nat) : List QuotedColumn → List Column
  | [] => []
  | column :: rest => ⟨column.name, column.type, position⟩ :: placedFrom (position + 1) rest

theorem length_placedFrom (position : Nat) (columns : List QuotedColumn) :
    (placedFrom position columns).length = columns.length := by
  induction columns generalizing position with
  | nil => rfl
  | cons column rest ih => rw [placedFrom, List.length_cons, List.length_cons, ih]

theorem length_columnsFrom_le (position : Nat) (definitions : List Text) :
    (CreateTable.columnsFrom position definitions).length ≤ definitions.length := by
  induction definitions generalizing position with
  | nil => exact Nat.le_refl 0
  | cons definition rest ih =>
      have hskip := Nat.le_succ_of_le (ih position)
      unfold CreateTable.columnsFrom
      split
      · exact hskip
      · split
        · exact hskip
        · exact Nat.succ_le_succ (ih (position + 1))

theorem columnsFrom_cons_of_readsAs {column : QuotedColumn} {definition : Text}
    (h : column.ReadsAs definition) (position : Nat) (later : List Text) :
    CreateTable.columnsFrom position (definition :: later) =
      ⟨column.name, column.type, position⟩ :: CreateTable.columnsFrom (position + 1) later := by
  obtain ⟨hcolumn, found, hfound, hname, htype⟩ := h
  rw [CreateTable.columnsFrom, if_neg (by simp [hcolumn])]
  simp only [hfound, hname, htype]

/-- A definition that is passed over would leave fewer columns than there are. -/
theorem readsAs_of_columnsFrom_cons {column : QuotedColumn} {definition : Text} {position : Nat}
    {later : List Text} {rest : List Column} (hlength : later.length ≤ rest.length)
    (h : CreateTable.columnsFrom position (definition :: later) =
      ⟨column.name, column.type, position⟩ :: rest) : column.ReadsAs definition := by
  have hskip : CreateTable.columnsFrom position later ≠
      ⟨column.name, column.type, position⟩ :: rest := by
    intro heq
    have hshort := length_columnsFrom_le position later
    rw [heq, List.length_cons] at hshort
    omega
  rw [CreateTable.columnsFrom] at h
  split at h
  · exact absurd h hskip
  · rename_i hcolumn
    split at h
    · exact absurd h hskip
    · rename_i found hfound
      have hsame := (List.cons_eq_cons.mp h).1
      simp only [Column.mk.injEq] at hsame
      exact ⟨Bool.eq_false_iff.mpr hcolumn, found, hfound, hsame.1, hsame.2.1⟩

/-- With one definition for each column, every definition is read as its column. -/
theorem columnsFrom_eq_placedFrom_iff {definitions : List Text} {columns : List QuotedColumn}
    (hlength : definitions.length = columns.length) (position : Nat) :
    CreateTable.columnsFrom position definitions = placedFrom position columns ↔
      List.Forall₂ ReadsAs columns definitions := by
  induction columns generalizing definitions position with
  | nil =>
      obtain rfl : definitions = [] := List.length_eq_zero_iff.mp hlength
      exact iff_of_true rfl .nil
  | cons column rest ih =>
      obtain ⟨definition, later, rfl⟩ := List.exists_cons_of_length_eq_add_one hlength
      have hlater : later.length = rest.length := Nat.succ.inj hlength
      rw [List.forall₂_cons, ← ih hlater (position + 1), placedFrom]
      constructor
      · intro heq
        have hreads : column.ReadsAs definition := by
          refine readsAs_of_columnsFrom_cons ?_ heq
          rw [length_placedFrom, hlater]
        rw [columnsFrom_cons_of_readsAs hreads, List.cons_inj_right] at heq
        exact ⟨hreads, heq⟩
      · rintro ⟨hreads, heq⟩
        rw [columnsFrom_cons_of_readsAs hreads, heq]

/-! ## The text of a table -/

def body (columns : List QuotedColumn) : Text :=
  Text.joinWith [','] (columns.map definition)

def createText (columns : List QuotedColumn) : Text :=
  "CREATE TABLE t(".toList ++ (body columns ++ [')', ';'])

/-- The table has one definition for each column, and its columns are these in their order. -/
def IsReadBack (columns : List QuotedColumn) : Prop :=
  ∃ table, CreateTable.parse? (createText columns) = some table ∧
    table.definitions.length = columns.length ∧ table.schema.columns = placedFrom 0 columns

def definitionsOf (body : Text) : List Text :=
  (splitValues body).filter (fun item => !item.isEmpty)

theorem header?_createText (rest : Text) :
    CreateTable.header? ("CREATE TABLE t(".toList ++ rest) = some (['t'], rest) := by
  rfl

theorem stripComments_createText (columns : List QuotedColumn) :
    stripComments (createText columns) =
      "CREATE TABLE t(".toList ++ stripFrom (.ofQuote none) (body columns ++ [')', ';']) := by
  have hwords : IsUncommented "CREATE TABLE t(".toList :=
    isUncommented_of_unquoted (by decide) (by decide) (by decide)
  have hfirst : CommentFree none
      ("CREATE TABLE t(".toList ++ (body columns ++ [')', ';']).take 1) := by
    refine commentFree_append hwords.free (commentFree_take_one _ _) fun c hc d _ => ?_
    obtain rfl : '(' = c := Option.some.inj hc
    exact opensComment_of_ne_left (by decide) d
  have hstrip := stripFrom_append hfirst
  rw [hwords.closed] at hstrip
  exact hstrip

/-- What is left of the body without comments is cut at the last closing parenthesis. -/
theorem isReadBack_iff_exists (columns : List QuotedColumn) :
    IsReadBack columns ↔ ∃ inner after,
      stripFrom (.ofQuote none) (body columns ++ [')', ';']) = inner ++ ')' :: after ∧
        ')' ∉ after ∧ List.Forall₂ ReadsAs columns (definitionsOf inner) := by
  unfold IsReadBack CreateTable.parse?
  rw [stripComments_createText, header?_createText]
  dsimp only
  constructor
  · rintro ⟨table, htable, hlength, hcolumns⟩
    split at htable
    · cases htable
    · rename_i inner after hlast
      cases htable
      obtain ⟨heq, hafter⟩ := Text.splitAtLast?_eq_some_iff.mp hlast
      exact ⟨inner, after, heq, hafter, (columnsFrom_eq_placedFrom_iff hlength 0).mp hcolumns⟩
  · rintro ⟨inner, after, heq, hafter, hread⟩
    rw [Text.splitAtLast?_eq_some_iff.mpr ⟨heq, hafter⟩]
    refine ⟨_, rfl, hread.length_eq.symm, ?_⟩
    exact (columnsFrom_eq_placedFrom_iff hread.length_eq.symm 0).mpr hread

/-! ## Items are read back -/

def isDelimiter (c : Char) : Bool :=
  c == ',' || c == ')'

theorem cases_of_isDelimiter {d : Char} (h : isDelimiter d = true) : d = ',' ∨ d = ')' := by
  simpa [isDelimiter] using h

theorem opensComment_delimiter {d : Char} (h : isDelimiter d = true) (rest : Text) (c : Char) :
    ∀ e ∈ (d :: rest).head?, opensComment c e = false := by
  refine Text.forall_mem_head?_cons (opensComment_of_ne_right ?_ c) rest
  rcases cases_of_isDelimiter h with rfl | rfl <;> decide

theorem not_mem_type {d : Char} (h : isDelimiter d = true) (column : QuotedColumn) :
    d ∉ column.type := by
  intro hmem
  obtain ⟨hcomma, -, hright⟩ := column.type_unmarked.unlisted d hmem
  rcases cases_of_isDelimiter h with rfl | rfl
  · exact hcomma rfl
  · exact hright rfl

theorem definitionsOf_body {columns : List QuotedColumn}
    (h : IsItemList (columns.map definition)) :
    definitionsOf (body columns) = columns.map definition := by
  have htrim : (columns.map definition).map Text.trim = columns.map definition := by
    rw [List.map_map]
    exact List.map_congr_left fun column _ => column.trim_definition
  have hne : ∀ item ∈ columns.map definition, item ≠ [] := by
    intro item hitem
    obtain ⟨column, -, rfl⟩ := List.mem_map.mp hitem
    exact List.cons_ne_nil _ _
  have hlast : (columns.map definition).getLast? ≠ some [] := fun hnil =>
    hne [] (List.mem_of_getLast? hnil) rfl
  have hsplit := split_joinWith h (List.forall_mem_nil _) (List.forall_mem_nil _)
    (List.forall_mem_nil _)
  rw [List.append_nil, htrim, dropEmptyLast, if_neg hlast] at hsplit
  have hread : splitValues (body columns) = columns.map definition := hsplit
  rw [definitionsOf, hread]
  refine List.filter_eq_self.mpr fun item hitem => ?_
  simpa using hne item hitem

theorem isReadBack_of_items {columns : List QuotedColumn}
    (hname : ∀ column ∈ columns, column.name ≠ []) (hfree : CommentFree none (body columns))
    (hitems : IsItemList (columns.map definition)) : IsReadBack columns := by
  refine (isReadBack_iff_exists columns).mpr ⟨body columns, [';'], ?_, by decide, ?_⟩
  · have hclose : CommentFree (openQuote none (body columns)) [')', ';'] :=
      commentFree_of_not_occursIn (by decide) (by decide) _
    have hfirst : CommentFree none (body columns ++ [')']) :=
      commentFree_append hfree (commentFree_take_one [')', ';'] _) fun c _ =>
        opensComment_delimiter (by decide) [] c
    have hstrip := stripFrom_append (t := [')', ';']) hfirst
    rw [(stripFrom_eq_self_iff _ _).mpr hclose] at hstrip
    exact hstrip
  · rw [definitionsOf_body hitems, List.forall₂_map_right_iff, List.forall₂_same]
    exact fun column hcolumn => readsAs_definition (hname column hcolumn)

/-! ## What is read back are items -/

section FirstColumn

variable {column : QuotedColumn}

theorem commentFree_definition {quote : Option Char} (h : CommentFree quote column.written)
    {d : Char} (hd : isDelimiter d = true) : CommentFree quote (column.definition ++ [d]) := by
  have htype : CommentFree (openQuote quote column.written) (' ' :: column.type) := by
    refine ⟨fun _ d _ => opensComment_of_ne_left (by decide) d, ?_⟩
    exact commentFree_of_not_occursIn column.type_unmarked.no_line_comment
      column.type_unmarked.no_block_comment _
  have hclosing : ∀ c ∈ column.written.getLast?, ∀ d ∈ (' ' :: column.type).head?,
      opensComment c d = false := by
    intro c hc d _
    rw [written, ← List.cons_append, List.getLast?_concat] at hc
    obtain rfl := Option.some.inj hc
    exact (column.style.opensComment_ends d).2
  exact commentFree_append (commentFree_append h htype hclosing) (commentFree_take_one [d] _)
    fun c _ => opensComment_delimiter hd [] c

theorem opensComment_of_delimiter {t : Text} {d : Char} (hd : isDelimiter d = true) :
    ∀ c ∈ (t ++ [d]).getLast?, ∀ e, opensComment c e = false := by
  intro c hc e
  rw [List.getLast?_concat] at hc
  obtain rfl := Option.some.inj hc
  refine opensComment_of_ne_left ?_ e
  rcases cases_of_isDelimiter hd with rfl | rfl <;> decide

theorem stripFrom_delimiter {quote : Option Char} {t : Text} {d : Char}
    (h : CommentFree quote (t ++ [d])) (hd : isDelimiter d = true) (tail : Text) :
    stripFrom (.ofQuote quote) (t ++ d :: tail) =
      t ++ d :: stripFrom (.ofQuote (openQuote quote (t ++ [d]))) tail := by
  have hfirst : CommentFree quote ((t ++ [d]) ++ tail.take 1) :=
    commentFree_append h (commentFree_take_one tail _) fun c hc e _ =>
      opensComment_of_delimiter hd c hc e
  have hstrip := stripFrom_append hfirst
  rw [List.append_assoc, List.append_assoc] at hstrip
  exact hstrip

/-- Behind the type a delimiter would be read as a part of it. -/
theorem declaredType_append_ne {d : Char} (hd : isDelimiter d = true) (more : Text) :
    (cutType 0 (Text.trimStart (' ' :: (column.type ++ d :: more)))).1 ≠ column.type := by
  have hsolid : Text.isBlank d = false := by
    rcases cases_of_isDelimiter hd with rfl | rfl <;> decide
  have hspace : ∀ c ∈ [' '], Text.isBlank c = true := List.forall_mem_singleton.mpr (by decide)
  have hstart : Text.trimStart (' ' :: (column.type ++ d :: more)) = column.type ++ d :: more :=
    Text.dropWhile_append hspace (column.head?_type _)
  rw [hstart, cutType_append_of_solid column.type_plain]
  intro heq
  have hnil : (cutType 0 (d :: more)).1 = [] := List.append_right_eq_self.mp heq
  simp [cutType, hsolid] at hnil

/--
What begins with the written name and has the type behind it is the definition: it ends
neither in front of the delimiter, nor behind it, where the delimiter would belong to the
type.
-/
theorem eq_definition_of_append {item rest blanks tail more : Text} {d e : Char}
    (hd : isDelimiter d = true) (he : isDelimiter e = true)
    (heq : item ++ e :: more = column.definition ++ d :: tail)
    (hitem : item = column.written ++ (rest ++ blanks))
    (hblanks : ∀ c ∈ blanks, Text.isBlank c = true)
    (htype : (cutType 0 (Text.trimStart rest)).1 = column.type) : item = column.definition := by
  rcases List.append_eq_append_iff.mp heq with ⟨cut, hshort, hcut⟩ | ⟨cut, hlong, hcut⟩
  · cases cut with
    | nil => rw [hshort, List.append_nil]
    | cons f later =>
        obtain rfl : e = f := (List.cons_eq_cons.mp hcut).1
        rw [hitem, definition, List.append_assoc, List.append_cancel_left_eq] at hshort
        have hmem : e ∈ ' ' :: column.type := by
          rw [hshort]
          simp
        rcases List.mem_cons.mp hmem with rfl | hmem
        · exact absurd he (by decide)
        · exact absurd hmem (not_mem_type he column)
  · cases cut with
    | nil => rw [hlong, List.append_nil]
    | cons f later =>
        obtain rfl : d = f := (List.cons_eq_cons.mp hcut).1
        rw [hitem, definition, List.append_assoc, List.append_cancel_left_eq] at hlong
        -- The delimiter is no blank, so it is not trimmed away.
        have hsolid : Text.isBlank d = false := by
          rcases cases_of_isDelimiter hd with rfl | rfl <;> decide
        have hwhole : ' ' :: column.type ++ [d] <+: rest ++ blanks := by
          rw [hlong]
          exact ⟨later, by simp⟩
        obtain ⟨kept, rfl⟩ := Text.prefix_of_append_blank hsolid hblanks hwhole
        rw [List.append_assoc] at htype
        exact absurd htype (declaredType_append_ne hd kept)

/-- A first item that is read as the column is its definition, and no comment opens in it. -/
theorem eq_definition_of_readsAs {quote : Option Char} {item tail more : Text} {d e : Char}
    (hd : isDelimiter d = true) (he : isDelimiter e = true)
    (heq : stripFrom (.ofQuote quote) (column.definition ++ d :: tail) = item ++ e :: more)
    (hopening : item.head? = some column.style.opening)
    (hreads : column.ReadsAs (Text.trim item)) :
    CommentFree quote (column.definition ++ [d]) ∧ item = column.definition := by
  have hsolid : ∀ c ∈ item.head?, Text.isBlank c = false := by
    rw [hopening]
    exact fun c hc => (Option.some.inj hc) ▸ column.style.isBlank_opening
  have htrimmed : (Text.trim item).head? = some column.style.opening := by
    obtain ⟨rest, rfl⟩ := List.head?_eq_some_iff.mp hopening
    obtain ⟨kept, hkept⟩ := Text.trim_cons_of_solid column.style.isBlank_opening rest
    rw [hkept]
    rfl
  obtain ⟨blanks, hitem, hblanks⟩ := Text.exists_eq_trim_append hsolid
  obtain ⟨rest, hrest, htype⟩ := exists_of_readsAs hreads htrimmed
  rw [hrest, List.append_assoc] at hitem
  have hfree : CommentFree quote (column.definition ++ [d]) := by
    refine commentFree_definition ?_ hd
    have hbegins : column.written <+: stripFrom (.ofQuote quote)
        (column.written ++ (' ' :: column.type ++ d :: tail)) := by
      rw [← List.append_assoc, ← definition, heq, hitem, List.append_assoc]
      exact List.prefix_append _ _
    exact commentFree_of_prefix_stripFrom hbegins
  rw [stripFrom_delimiter hfree hd] at heq
  exact ⟨hfree, eq_definition_of_append hd he heq.symm hitem hblanks htype⟩

end FirstColumn

/-- The body is a single item or is cut behind its first one. -/
theorem exists_first_item {inner : Text} {c : Char} (hhead : inner.head? = some c)
    (hsolid : Text.isBlank c = false) (hcomma : c ≠ ',') :
    ∃ item, item.head? = some c ∧ Nesting.Avoids ',' Nesting.top item ∧
      ((inner = item ∧ definitionsOf inner = [Text.trim item]) ∨
        ∃ later, inner = item ++ ',' :: later ∧ IsItem item ∧
          definitionsOf inner = Text.trim item :: definitionsOf later) := by
  have hne : ∀ {item : Text}, item.head? = some c → Text.trim item ≠ [] := by
    intro item hitem
    obtain ⟨rest, rfl⟩ := List.head?_eq_some_iff.mp hitem
    obtain ⟨kept, hkept⟩ := Text.trim_cons_of_solid hsolid rest
    rw [hkept]
    exact List.cons_ne_nil c kept
  rcases Nesting.avoids_or_exists_cut ',' Nesting.top inner with
    hwhole | ⟨item, later, rfl, huncut, hclosed⟩
  · refine ⟨inner, hhead, hwhole, .inl ⟨rfl, ?_⟩⟩
    rw [definitionsOf, splitValues_of_avoids hwhole, dropEmptyLast,
      if_neg (by simpa using hne hhead)]
    simpa using hne hhead
  · have hfirst : item.head? = some c := by
      cases item with
      | nil => exact absurd (Option.some.inj hhead).symm hcomma
      | cons d rest => exact hhead
    refine ⟨item, hfirst, huncut, .inr ⟨later, rfl, ⟨huncut, hclosed⟩, ?_⟩⟩
    rw [definitionsOf, splitValues_append_comma ⟨huncut, hclosed⟩, List.filter_cons_of_pos]
    · rfl
    · simpa using hne hfirst

/-- The first column of the body, and the rest of the body if there are more. -/
theorem first_item_of_forall₂ {column : QuotedColumn} {others : List QuotedColumn}
    {quote : Option Char} {d : Char} {tail inner after : Text} (hd : isDelimiter d = true)
    (heq : stripFrom (.ofQuote quote) (column.definition ++ d :: tail) = inner ++ ')' :: after)
    (hreads : List.Forall₂ ReadsAs (column :: others) (definitionsOf inner)) :
    CommentFree quote (column.definition ++ [d]) ∧
      Nesting.Avoids ',' Nesting.top column.definition ∧
      (others = [] ∨ ∃ later, inner = column.definition ++ ',' :: later ∧
        IsItem column.definition ∧ List.Forall₂ ReadsAs others (definitionsOf later)) := by
  have hhead : inner.head? = some column.style.opening := by
    have hfirst : stripFrom (.ofQuote quote) (column.definition ++ d :: tail) =
        [column.style.opening] ++ stripFrom (.ofQuote (openQuote quote [column.style.opening]))
          (column.name ++ [column.style.closing] ++ ' ' :: column.type ++ d :: tail) := by
      refine stripFrom_append (s := [column.style.opening]) ⟨fun _ e _ => ?_, ?_⟩
      · exact (column.style.opensComment_ends e).1
      · exact commentFree_take_one _ _
    rw [hfirst] at heq
    cases inner with
    | nil => exact absurd (List.cons_eq_cons.mp heq).1 column.style.opening_ne.2
    | cons c rest => rw [(List.cons_eq_cons.mp heq).1]; rfl
  obtain ⟨item, hitem, huncut, hcases⟩ :=
    exists_first_item hhead column.style.isBlank_opening column.style.opening_ne.1
  rcases hcases with ⟨rfl, hdefinitions⟩ | ⟨later, rfl, hclosed, hdefinitions⟩
  · rw [hdefinitions, List.forall₂_cons] at hreads
    obtain ⟨hfree, rfl⟩ := eq_definition_of_readsAs hd (by decide) heq hitem hreads.1
    exact ⟨hfree, huncut, .inl (List.forall₂_nil_right_iff.mp hreads.2)⟩
  · rw [hdefinitions, List.forall₂_cons] at hreads
    rw [List.append_assoc, List.cons_append] at heq
    obtain ⟨hfree, rfl⟩ := eq_definition_of_readsAs hd (by decide) heq hitem hreads.1
    exact ⟨hfree, huncut, .inr ⟨later, rfl, hclosed, hreads.2⟩⟩

theorem body_cons_cons (column next : QuotedColumn) (more : List QuotedColumn) :
    body (column :: next :: more) = column.definition ++ ',' :: body (next :: more) := by
  have hne : (next :: more).map definition ≠ [] := List.cons_ne_nil _ _
  rw [body, List.map_cons, Text.joinWith_cons_of_ne_nil _ _ hne, List.append_assoc]
  rfl

/-- One column after the other is an item without comments, whatever quote is open before it. -/
theorem items_of_forall₂ {columns : List QuotedColumn} {quote : Option Char} {inner after : Text}
    (heq : stripFrom (.ofQuote quote) (body columns ++ [')', ';']) = inner ++ ')' :: after)
    (hreads : List.Forall₂ ReadsAs columns (definitionsOf inner)) :
    CommentFree quote (body columns) ∧ IsItemList (columns.map definition) := by
  induction columns generalizing quote inner with
  | nil => exact ⟨trivial, .nil⟩
  | cons column others ih =>
      cases others with
      | nil =>
          rw [body, List.map_singleton, Text.joinWith_singleton] at heq ⊢
          obtain ⟨hfree, huncut, -⟩ := first_item_of_forall₂ (by decide) heq hreads
          exact ⟨hfree.left, .last huncut⟩
      | cons next more =>
          rw [body_cons_cons, List.append_assoc, List.cons_append] at heq
          obtain ⟨hfree, huncut, hnone | ⟨later, rfl, hitem, hothers⟩⟩ :=
            first_item_of_forall₂ (by decide) heq hreads
          · cases hnone
          · rw [stripFrom_delimiter hfree (by decide), List.append_assoc, List.cons_append,
              List.append_cancel_left_eq, List.cons_inj_right] at heq
            obtain ⟨hlater, hitems⟩ := ih heq hothers
            refine ⟨?_, .cons hitem hitems⟩
            have hwhole := commentFree_append hfree hlater fun c hc e _ =>
              opensComment_of_delimiter (by decide) c hc e
            rw [List.append_assoc] at hwhole
            rw [body_cons_cons]
            exact hwhole

/--
Columns with quoted names are read back, each in its place, exactly if no name is empty,
no comment opens in the body of the table, and every definition is one item of it, of
which the last one may leave a quote open.
-/
theorem isReadBack_iff (columns : List QuotedColumn) :
    IsReadBack columns ↔ (∀ column ∈ columns, column.name ≠ []) ∧
      CommentFree none (body columns) ∧ IsItemList (columns.map definition) := by
  constructor
  · intro h
    obtain ⟨inner, after, heq, -, hreads⟩ := (isReadBack_iff_exists columns).mp h
    have hnamed : List.Forall₂ (fun column definition =>
        column.name ≠ [] ∧ column.ReadsAs definition) columns (definitionsOf inner) :=
      hreads.imp fun column definition hread => ⟨name_ne_nil_of_readsAs hread, hread⟩
    exact ⟨((List.forall₂_and_left columns _).mp hnamed).1, items_of_forall₂ heq hreads⟩
  · rintro ⟨hname, hfree, hitems⟩
    exact isReadBack_of_items hname hfree hitems

/-- A comma between backticks cuts the definition: two definitions come of one column. -/
theorem not_isReadBack_comma :
    ∃ column : QuotedColumn, column.name = "a,b".toList ∧ column.type = "INTEGER".toList ∧
      createText [column] = "CREATE TABLE t(\x60a,b\x60 INTEGER);".toList ∧
      CreateTable.parse? (createText [column]) =
        some ⟨"t".toList, ["\x60a".toList, "b\x60 INTEGER".toList], []⟩ ∧
      ¬ IsReadBack [column] := by
  let column : QuotedColumn :=
    { style := .backtick
      name := "a,b".toList
      type := "INTEGER".toList
      name_open := by decide
      type_ne_nil := by decide
      type_solid := by
        have hsolid : "INTEGER".toList.all (fun c => !Text.isBlank c) = true := by decide
        simpa using hsolid
      type_unmarked := by decide }
  have hparse : CreateTable.parse? (createText [column]) =
      some ⟨"t".toList, ["\x60a".toList, "b\x60 INTEGER".toList], []⟩ := by decide +kernel
  refine ⟨column, rfl, rfl, by decide, hparse, ?_⟩
  rintro ⟨table, htable, hlength, -⟩
  rw [hparse] at htable
  obtain rfl := Option.some.inj htable
  exact absurd hlength (by decide)

/-! ## Names that are always read back -/

theorem isReadBack_of_isDefinition {columns : List QuotedColumn}
    (h : ∀ column ∈ columns, column.name ≠ [] ∧ IsDefinition column.definition) :
    IsReadBack columns := by
  have hdefinitions : ∀ item ∈ columns.map definition, IsDefinition item := by
    intro item hitem
    obtain ⟨column, hcolumn, rfl⟩ := List.mem_map.mp hitem
    exact (h column hcolumn).2
  have hcomma : IsUncommented [','] :=
    isUncommented_of_unquoted (by decide) (by decide) (by decide)
  have hbody := isUncommented_joinWith hcomma rfl (by decide) rfl (by decide) fun item hitem =>
    (hdefinitions item hitem).isUncommented
  exact isReadBack_of_items (fun column hcolumn => (h column hcolumn).1) hbody.free
    (isItemList_of_forall fun item hitem => (hdefinitions item hitem).isItem)

theorem isDefinition_of_double {column : QuotedColumn} (h : column.style = .double) :
    IsDefinition column.definition := by
  have hwritten : column.written = enclose '"' column.name := by
    have hopen : '"' ∉ column.name := by
      have hclosing := column.name_open
      rw [h] at hclosing
      exact hclosing
    rw [enclose_of_not_mem hopen, written, h]
    rfl
  have htype : IsUncommented (' ' :: column.type) := by
    obtain ⟨hunquoted, -, hline, hblock⟩ := column.type_unmarked
    refine ⟨⟨fun _ d _ => opensComment_of_ne_left (by decide) d, ?_⟩, ?_⟩
    · exact commentFree_of_not_occursIn hline hblock _
    · exact openQuote_of_unquoted (by simp) (List.forall_mem_cons.mpr ⟨by decide, hunquoted⟩)
  have hspace : IsItem [' '] := isItem_of_blank (List.forall_mem_singleton.mpr (by decide))
  have hname : IsItem (enclose '"' column.name) := (isToken_enclose (by decide) column.name).isItem
  refine .of_isItem column.trim_definition (List.cons_ne_nil _ _) ?_ ?_
  · rw [definition, hwritten]
    exact (isUncommented_enclose (by decide) column.name).append_of_first htype rfl (by decide)
  · rw [definition, hwritten, ← List.singleton_append]
    exact hname.append (hspace.append column.type_unmarked.isItem)

/-- Between double quotes a name may hold commas, parentheses, other quotes and comments. -/
theorem isReadBack_of_double {columns : List QuotedColumn}
    (h : ∀ column ∈ columns, column.style = .double ∧ column.name ≠ []) : IsReadBack columns := by
  refine isReadBack_of_isDefinition fun column hcolumn => ?_
  obtain ⟨hstyle, hname⟩ := h column hcolumn
  exact ⟨hname, isDefinition_of_double hstyle⟩

end QuotedColumn

end DumpConvert
