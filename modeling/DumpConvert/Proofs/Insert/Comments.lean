import DumpConvert.Proofs.Insert.Grammar
import DumpConvert.Proofs.Sql.CommentMode
import DumpConvert.Proofs.Sql.SparedGroups
import DumpConvert.Statement

/-!
# Insertions with comments

The splitter of statements passes over comments, but the reader of an insertion does not
know them.  So what is read of a text depends on its comments: where they stand in the
part with the groups, the same is read without them exactly if every comment stands
between groups and holds no opening parenthesis (`parse?_stripComments_iff`).  A comment
inside a group becomes a part of a value (`parse?_stripComments_insideGroup`).
-/

namespace DumpConvert.Insert

open Sql

/-! ## Layouts with other groups -/

namespace Layout

/-- What stands in front of the groups. -/
def front (layout : Layout) : Text :=
  layout.lead ++ (layout.insertWord ++ (layout.insertGap ++ (layout.intoWord ++
    (layout.intoGap ++ (layout.name ++ (layout.tail.nameGap ++
      (Tail.listText layout.tail.columns ++ (layout.tail.columnsGap ++
        (layout.tail.valuesWord ++ layout.tail.valuesGap)))))))))

theorem text_eq_front_append (layout : Layout) :
    layout.text = layout.front ++ (layout.tail.groups ++ layout.tail.ending) := by
  simp [text, front, Tail.text, Tail.valuesText]

def withGroups (layout : Layout) (groups ending : Text) : Layout :=
  { layout with tail := { layout.tail with groups, ending } }

theorem text_withGroups (layout : Layout) (groups ending : Text) :
    (layout.withGroups groups ending).text = layout.front ++ (groups ++ ending) := by
  exact (layout.withGroups groups ending).text_eq_front_append

theorem WellFormed.withGroups {layout : Layout} (h : layout.WellFormed) {groups ending : Text}
    (hgroups : ∃ inner, groups = '(' :: inner ++ [')']) (hending : IsEnding ending) :
    (layout.withGroups groups ending).WellFormed := by
  exact { h with tail := { h.tail with groups := hgroups, ending := hending } }

theorem insertion_withGroups_eq_iff (layout : Layout) (groups ending : Text)
    (found found' : List Text) :
    (layout.withGroups groups ending).insertion found = layout.insertion found' ↔
      found.map splitValues = found'.map splitValues := by
  constructor
  · exact congrArg Insert.rows
  · intro hrows
    rw [insertion, insertion, hrows]
    rfl

def strippedGroups (layout : Layout) : Text :=
  stripFrom (.ofQuote (openQuote none layout.front)) layout.tail.groups

end Layout

/-! ## Stripping a layout -/

/-- The parenthesis in front of the groups is kept. -/
theorem exists_strippedGroups {layout : Layout} (h : layout.WellFormed)
    (hlast : layout.strippedGroups.getLast? = some ')') :
    ∃ inner, layout.strippedGroups = '(' :: inner ++ [')'] := by
  obtain ⟨inner, hgroups⟩ := h.tail.groups
  have hplain : ∀ d ∈ (inner ++ [')']).head?, opensComment '(' d = false :=
    fun d _ => opensComment_of_ne_left (by decide) d
  have hstart : ∃ rest, layout.strippedGroups = '(' :: rest := by
    rw [Layout.strippedGroups, hgroups, List.cons_append]
    cases openQuote none layout.front with
    | none => exact ⟨_, stripFrom_code hplain⟩
    | some quote => exact ⟨_, stripFrom_quoted quote '(' (inner ++ [')'])⟩
  obtain ⟨rest, hrest⟩ := hstart
  rw [hrest] at hlast ⊢
  cases rest with
  | nil => exact absurd hlast (by decide)
  | cons c more =>
      rw [List.getLast?_cons_cons] at hlast
      obtain ⟨middle, hmiddle⟩ := List.getLast?_eq_some_iff.mp hlast
      exact ⟨middle, congrArg ('(' :: ·) hmiddle⟩

/-- A layout without comments in front of the groups is stripped to one with the same front. -/
theorem exists_stripComments_text {layout : Layout} (h : layout.WellFormed)
    (hfront : CommentFree none layout.front) :
    ∃ ending, IsEnding ending ∧
      stripComments layout.text = (layout.withGroups layout.strippedGroups ending).text := by
  obtain ⟨inner, hgroups⟩ := h.tail.groups
  obtain ⟨mode, hrest⟩ := exists_stripFrom_append (show ')' ≠ '-' ∧ ')' ≠ '/' ∧ ')' ≠ '*' by decide)
    (.ofQuote (openQuote none layout.front)) ('(' :: inner)
  have hslash : '/' ∉ layout.tail.ending := h.tail.ending.not_mem (by decide) (by decide)
  refine ⟨stripFrom mode layout.tail.ending, h.tail.ending.sublist (stripFrom_sublist hslash mode),
    ?_⟩
  have hseam : CommentFree none
      (layout.front ++ (layout.tail.groups ++ layout.tail.ending).take 1) := by
    rw [hgroups]
    refine commentFree_append hfront (commentFree_take_one ['('] _) fun c _ d hd => ?_
    obtain rfl : '(' = d := Option.some.inj hd
    exact opensComment_of_ne_right (by decide) c
  have hcut : layout.tail.groups ++ layout.tail.ending =
      '(' :: inner ++ ')' :: layout.tail.ending := by
    rw [hgroups, List.append_assoc]
    rfl
  calc stripComments layout.text
    _ = stripFrom (.ofQuote none)
          (layout.front ++ (layout.tail.groups ++ layout.tail.ending)) := by
        rw [layout.text_eq_front_append]
        rfl
    _ = layout.front ++ stripFrom (.ofQuote (openQuote none layout.front))
          (layout.tail.groups ++ layout.tail.ending) := stripFrom_append hseam
    _ = layout.front ++ (layout.strippedGroups ++ stripFrom mode layout.tail.ending) := by
        rw [hcut, hrest, ← hgroups]
        rfl
    _ = (layout.withGroups layout.strippedGroups (stripFrom mode layout.tail.ending)).text :=
        (layout.text_withGroups _ _).symm

/--
Comments behind the front of a text make no difference to what is read of it exactly if
each of them stands between groups and holds no opening parenthesis.
-/
theorem parse?_stripComments_iff {layout : Layout} (h : layout.WellFormed)
    (hapart : ¬ layout.tail.IsGlued) (hfront : CommentFree none layout.front)
    (hlast : layout.strippedGroups.getLast? = some ')') :
    parse? (stripComments layout.text) = parse? layout.text ↔
      SparesGroups (openQuote none layout.front) layout.tail.groups := by
  obtain ⟨ending, hending, hstrip⟩ := exists_stripComments_text h hfront
  have hstripped := h.withGroups (exists_strippedGroups h hlast) hending
  have hgroups : ∀ c ∈ layout.tail.groups.getLast?, c = ')' := by
    obtain ⟨inner, hinner⟩ := h.tail.groups
    rw [hinner, List.getLast?_concat]
    exact fun c hc => (Option.some.inj hc).symm
  have hclosed : ∀ c ∈ layout.strippedGroups.getLast?, c = ')' := by
    rw [hlast]
    exact fun c hc => (Option.some.inj hc).symm
  rw [hstrip, parse?_text hstripped hapart, parse?_text h hapart, Option.some.injEq,
    Layout.insertion_withGroups_eq_iff]
  exact rows_stripFrom_iff hgroups hclosed

/-- A comment with a quote and a comma between two groups, and the marks of one in quotes. -/
theorem parse?_stripComments_betweenGroups :
    let layout : Layout :=
      { lead := [], insertWord := "INSERT".toList, insertGap := [' '], intoWord := "INTO".toList,
        intoGap := [' '], name := "t".toList,
        tail :=
          { nameGap := [' '], columns := none, columnsGap := [], valuesWord := "VALUES".toList,
            valuesGap := [], groups := "(1), /* it's, */ ('--')".toList, ending := [';'] } }
    layout.text = "INSERT INTO t VALUES(1), /* it's, */ ('--');".toList ∧
      parse? (stripComments layout.text) = parse? layout.text := by
  intro layout
  have hblank : ∀ c ∈ [' '], Text.isBlank c = true := List.forall_mem_singleton.mpr (by decide)
  have htail : layout.tail.WellFormed :=
    { nameGap := hblank
      columns := fun _ hnone => absurd hnone (Option.not_mem_none _)
      columnsGap := List.forall_mem_nil _
      valuesWord := rfl
      valuesGap := List.forall_mem_nil _
      groups := ⟨"1), /* it's, */ ('--'".toList, rfl⟩
      ending := .semicolon (List.forall_mem_nil _) (List.forall_mem_nil _) }
  have hlayout : layout.WellFormed :=
    { lead := List.forall_mem_nil _
      insertWord := rfl
      insertGap := ⟨List.cons_ne_nil _ _, hblank⟩
      intoWord := rfl
      intoGap := ⟨List.cons_ne_nil _ _, hblank⟩
      name := .inr (.run (by decide) (List.forall_mem_nil _))
      tail := htail }
  have hapart : ¬ layout.tail.IsGlued := fun hglued => absurd hglued.1 (List.cons_ne_nil _ _)
  have hfront : CommentFree none layout.front :=
    (stripFrom_eq_self_iff none _).mp (by decide +kernel)
  have hlast : layout.strippedGroups.getLast? = some ')' := by decide +kernel
  have hquoted : CommentFree none " ('--')".toList :=
    (stripFrom_eq_self_iff none _).mp (by decide +kernel)
  have hstart : CommentFree none ("(1), ".toList ++ ['/']) :=
    (stripFrom_eq_self_iff none _).mp (by decide +kernel)
  have hcomment : IsComment ('/' :: '*' :: (" it's, ".toList ++ ['*', '/'])) " ('--')".toList :=
    .block _ (by decide +kernel)
  have hspares : SparesGroups none layout.tail.groups :=
    .comment hstart (by decide +kernel) (by decide +kernel) hcomment (by decide +kernel)
      (.free hquoted)
  exact ⟨by decide +kernel, (parse?_stripComments_iff hlayout hapart hfront hlast).mpr hspares⟩

/-- A complete statement whose comment is read as a part of the first value. -/
theorem parse?_stripComments_insideGroup :
    let t := "INSERT INTO t VALUES(1 /* one */, 2);".toList
    splitStatements [] t = [⟨.insert, t, 1, .complete⟩] ∧
      parse? t = some
        { table := "t".toList
          columns := none
          rows := [["1 /* one */".toList, "2".toList]] } ∧
      parse? (stripComments t) = some
        { table := "t".toList
          columns := none
          rows := [["1".toList, "2".toList]] } ∧
      parse? (stripComments t) ≠ parse? t := by
  decide +kernel

end DumpConvert.Insert
