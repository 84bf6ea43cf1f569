import DumpConvert.Proofs.Schema.Definition
import DumpConvert.Proofs.Sql.Identifier

/-!
# Columns with quoted names

The name of a column is written in one of three styles of quoting, and it may hold every
character but the closing one of its style (`QuotedColumn`).  Its definition is read as
that column (`readsAs_definition`), and what is read as that column has its written name
in front (`exists_of_readsAs`).
-/

namespace DumpConvert

open Sql ColumnDefinition

inductive QuoteStyle where
  | double
  | backtick
  | bracket
deriving Repr, DecidableEq

namespace QuoteStyle

def opening : QuoteStyle → Char
  | .double => '"'
  | .backtick => '\x60'
  | .bracket => '['

def closing : QuoteStyle → Char
  | .double => '"'
  | .backtick => '\x60'
  | .bracket => ']'

theorem closing?_opening (style : QuoteStyle) : closing? style.opening = some style.closing := by
  cases style <;> rfl

theorem isBlank_opening (style : QuoteStyle) : Text.isBlank style.opening = false := by
  cases style <;> decide

theorem isBlank_closing (style : QuoteStyle) : Text.isBlank style.closing = false := by
  cases style <;> decide

theorem opening_ne (style : QuoteStyle) : style.opening ≠ ',' ∧ style.opening ≠ ')' := by
  cases style <;> decide

/-- Neither end of a quoted name belongs to a mark of a comment. -/
theorem opensComment_ends (style : QuoteStyle) (c : Char) :
    opensComment style.opening c = false ∧ opensComment style.closing c = false := by
  cases style <;>
    exact ⟨opensComment_of_ne_left (by decide) c, opensComment_of_ne_left (by decide) c⟩

end QuoteStyle

structure QuotedColumn where
  style : QuoteStyle
  name : Text
  type : Text
  name_open : style.closing ∉ name
  type_ne_nil : type ≠ []
  type_solid : ∀ c ∈ type, Text.isBlank c = false
  type_unmarked : IsUnmarked type

namespace QuotedColumn

variable {column : QuotedColumn}

def written (column : QuotedColumn) : Text :=
  column.style.opening :: (column.name ++ [column.style.closing])

def definition (column : QuotedColumn) : Text :=
  column.written ++ ' ' :: column.type

/-! ## The parts of a definition -/

theorem unquote_written (column : QuotedColumn) :
    Identifier.unquote column.written = column.name := by
  have htrim : Text.trim column.written = column.written :=
    Identifier.trim_of_ends column.name column.style.isBlank_opening column.style.isBlank_closing
  have hbody : enclosed? column.style.opening column.style.closing column.written =
      some column.name := enclosed?_eq_some_iff.mpr rfl
  have hopen := column.name_open
  have hother : ∀ quote, column.style.opening ≠ quote →
      enclosed? quote quote column.written = none := fun quote hne =>
    Identifier.enclosed?_eq_none hne _
  unfold Identifier.unquote
  rw [htrim]
  cases hstyle : column.style with
  | double =>
      rw [hstyle] at hbody hopen
      simp only [QuoteStyle.opening, QuoteStyle.closing] at hbody hopen
      simp only [hbody, collapse_of_not_mem hopen]
  | backtick =>
      rw [hstyle] at hbody hopen hother
      simp only [QuoteStyle.opening, QuoteStyle.closing] at hbody hopen
      simp only [hother '"' (by decide), hbody, collapse_of_not_mem hopen]
  | bracket =>
      rw [hstyle] at hbody hother
      simp only [QuoteStyle.opening, QuoteStyle.closing] at hbody
      simp only [hother '"' (by decide), hother '\x60' (by decide), hbody, Option.getD_some]

theorem endsName_written (column : QuotedColumn) (rest : Text) : EndsName column.written rest := by
  exact .quoted rest column.style.closing?_opening column.name_open

theorem head?_type (column : QuotedColumn) (rest : Text) :
    ∀ c ∈ (column.type ++ rest).head?, Text.isBlank c = false := by
  intro c hc
  rw [List.head?_append_of_ne_nil _ column.type_ne_nil] at hc
  exact column.type_solid c (List.mem_of_head? hc)

theorem type_plain (column : QuotedColumn) :
    ∀ c ∈ column.type, Text.isBlank c = false ∧ c ≠ '(' ∧ c ≠ ')' := by
  exact fun c hc => ⟨column.type_solid c hc, (column.type_unmarked.unlisted c hc).2⟩

theorem trim_definition (column : QuotedColumn) :
    Text.trim column.definition = column.definition := by
  refine (Text.trim_eq_self_iff _).mpr ⟨?_, fun c hc => ?_⟩
  · exact Text.forall_mem_head?_cons column.style.isBlank_opening _
  · rw [definition, List.getLast?_append_of_ne_nil _ (List.cons_ne_nil _ _),
      ← List.singleton_append, List.getLast?_append_of_ne_nil _ column.type_ne_nil] at hc
    exact column.type_solid c (List.mem_of_getLast? hc)

/-! ## Reading a definition -/

def ReadsAs (column : QuotedColumn) (definition : Text) : Prop :=
  isConstraint definition = false ∧ ∃ found, ColumnDefinition.parse? definition = some found ∧
    found.name = column.name ∧ found.declaredType = column.type

theorem cut_definition (column : QuotedColumn) :
    cut column.definition =
      { lead := []
        writtenName := column.written
        gap := [' ']
        declaredType := column.type
        rest := [] } := by
  have htype : cutType 0 column.type = (column.type, []) := by
    have hword := cutType_append_of_solid column.type_plain 0 []
    rw [List.append_nil] at hword
    rw [hword, cutType, List.append_nil]
  have hsolid := column.head?_type []
  rw [List.append_nil] at hsolid
  have hgap : ∀ c ∈ [' '], Text.isBlank c = true := List.forall_mem_singleton.mpr (by decide)
  have hcut := cut_append (List.forall_mem_nil _) (column.endsName_written _) hgap hsolid
  rw [htype, List.nil_append, List.append_assoc] at hcut
  exact hcut

theorem isConstraint_of_head? {definition : Text}
    (h : definition.head? = some column.style.opening) : isConstraint definition = false := by
  obtain ⟨rest, rfl⟩ := List.head?_eq_some_iff.mp h
  have hstart : Text.trimStart (column.style.opening :: rest) = column.style.opening :: rest :=
    Text.trimStart_append_cons (List.forall_mem_nil _) column.style.isBlank_opening rest
  have hword : (column.style.opening :: rest).takeWhile continuesWord =
      column.style.opening :: rest.takeWhile continuesWord := by
    cases column.style <;> exact List.takeWhile_cons_of_pos (by decide)
  show constraintWords.contains (Text.asciiUpper
    ((Text.trimStart (column.style.opening :: rest)).takeWhile continuesWord)) = false
  rw [hstart, hword]
  exact contains_constraintWords_of_closing? column.style.closing?_opening _

theorem readsAs_definition (h : column.name ≠ []) : column.ReadsAs column.definition := by
  have hname : (cut column.definition).name = column.name := by
    rw [cut_definition]
    exact column.unquote_written
  have hparse : ColumnDefinition.parse? column.definition = some (cut column.definition) :=
    parse?_eq_some_iff.mpr ⟨by rw [hname]; exact h, rfl⟩
  refine ⟨isConstraint_of_head? rfl, _, hparse, hname, ?_⟩
  rw [cut_definition]

theorem name_ne_nil_of_readsAs {definition : Text} (h : column.ReadsAs definition) :
    column.name ≠ [] := by
  obtain ⟨-, found, hfound, hname, -⟩ := h
  obtain ⟨hne, rfl⟩ := parse?_eq_some_iff.mp hfound
  rw [← hname]
  exact hne

/-- A definition that begins with the opening character has the name and the type behind it. -/
theorem exists_of_readsAs {definition : Text} (h : column.ReadsAs definition)
    (hopening : definition.head? = some column.style.opening) :
    ∃ rest, definition = column.written ++ rest ∧
      (cutType 0 (Text.trimStart rest)).1 = column.type := by
  obtain ⟨more, rfl⟩ := List.head?_eq_some_iff.mp hopening
  have hstart : Text.trimStart (column.style.opening :: more) = column.style.opening :: more :=
    Text.trimStart_append_cons (List.forall_mem_nil _) column.style.isBlank_opening more
  obtain ⟨-, found, hfound, hname, htype⟩ := h
  obtain ⟨-, rfl⟩ := parse?_eq_some_iff.mp hfound
  have hcut : cutName (column.style.opening :: more) =
      (column.style.opening :: (cutAfter column.style.closing more).1,
        (cutAfter column.style.closing more).2) := by
    simp only [cutName, column.style.closing?_opening]
  have hread : (cutType 0 (Text.trimStart (cutAfter column.style.closing more).2)).1 =
      column.type := by
    rw [← htype]
    simp only [cut, hstart, hcut]
  -- Without its closing character the name would leave nothing for a type.
  have hrest : (cutAfter column.style.closing more).2 ≠ [] := by
    intro hnil
    rw [hnil] at hread
    exact column.type_ne_nil hread.symm
  obtain ⟨body, hbody, hclosing⟩ := exists_of_cutAfter hrest
  have hsame : body = column.name := by
    let found : QuotedColumn := { column with name := body, name_open := hclosing }
    have hunquoted : Identifier.unquote found.written = body := found.unquote_written
    rw [← hname, ← hunquoted]
    simp only [ColumnDefinition.name, cut, hstart, hcut, hbody]
    rfl
  refine ⟨_, ?_, hread⟩
  rw [written, ← hsame, ← hbody, List.cons_append, cutAfter_append]

end QuotedColumn

end DumpConvert
