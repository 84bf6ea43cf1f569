import DumpConvert.Proofs.Insert.Layout
import DumpConvert.Proofs.Sql.GroupSequence

/-!
# The texts that are read as insertions

A text is read as an insertion exactly if it has a layout (`parse?_isSome_iff`).

The grammar of insertions asks for more: between its two outer parentheses the last part
is a sequence of groups with commas between them (`IsInsertion`).  The reader does not
check it, and takes the groups wherever they stand in that part (`accepted_texts`).  So a
text that is no insertion of the grammar can be read as one (`accepted_twoStatements`).
-/

namespace DumpConvert.Insert

open Sql

def Layout.insertion (layout : Layout) (groups : List Text) : Insert :=
  { table := Identifier.unquote layout.name
    columns := layout.tail.columns.map
      (fun list => (splitValues list).map Identifier.unquote)
    rows := groups.map splitValues }

/-- The text is an insertion of the grammar: its last part is a sequence of groups. -/
def IsInsertion (t : Text) : Prop :=
  ∃ layout : Layout, ∃ groups, layout.WellFormed ∧ layout.text = t ∧
    GroupSequence layout.tail.groups groups

/-- Where the parts are found, an insertion is read, since there always is a group. -/
theorem parse?_of_parts? {t name groups : Text} {columns : Option Text}
    (h : parts? t = some (name, columns, groups))
    (hgroups : ∃ inner, groups = '(' :: inner ++ [')']) :
    parse? t = some
      { table := Identifier.unquote name
        columns := columns.map (fun list => (splitValues list).map Identifier.unquote)
        rows := (splitGroups groups).map splitValues } := by
  obtain ⟨inner, rfl⟩ := hgroups
  have hrows : ((splitGroups ('(' :: inner ++ [')'])).map splitValues).isEmpty = false := by
    simpa using splitGroups_ne_nil inner
  simp only [parse?, h, hrows]
  rfl

/-- What is read of a text is what one of its layouts stands for. -/
theorem exists_layout_of_parse? {t : Text} {insert : Insert} (h : parse? t = some insert) :
    ∃ layout : Layout, layout.WellFormed ∧ layout.text = t ∧
      insert = layout.insertion (splitGroups layout.tail.groups) := by
  cases hparts : parts? t with
  | none =>
      rw [parse?, hparts] at h
      cases h
  | some parts =>
      obtain ⟨name, columns, groups⟩ := parts
      obtain ⟨layout, hlayout, htext, rfl, rfl, rfl⟩ := exists_of_parts? hparts
      rw [parse?_of_parts? hparts hlayout.tail.groups] at h
      exact ⟨layout, hlayout, htext, (Option.some.inj h).symm⟩

theorem parse?_isSome_iff (t : Text) :
    (parse? t).isSome = true ↔ ∃ layout : Layout, layout.WellFormed ∧ layout.text = t := by
  constructor
  · intro h
    obtain ⟨insert, hread⟩ := Option.isSome_iff_exists.mp h
    obtain ⟨layout, hlayout, htext, -⟩ := exists_layout_of_parse? hread
    exact ⟨layout, hlayout, htext⟩
  · rintro ⟨layout, hlayout, rfl⟩
    have hparts : ∃ name columns groups, parts? layout.text = some (name, columns, groups) := by
      rcases parts?_text hlayout with hown | ⟨-, name, inner, groups, hother⟩
      · exact ⟨_, _, _, hown⟩
      · exact ⟨_, _, _, hother⟩
    obtain ⟨name, columns, groups, hparts⟩ := hparts
    obtain ⟨other, hother, -, -, -, hgroups⟩ := exists_of_parts? hparts
    have hinner : ∃ inner, groups = '(' :: inner ++ [')'] := by
      rw [← hgroups]
      exact hother.tail.groups
    rw [parse?_of_parts? hparts hinner]
    rfl

/-- A text is read with its own parts if its name is apart from the keyword. -/
theorem parse?_text {layout : Layout} (h : layout.WellFormed) (hapart : ¬ layout.tail.IsGlued) :
    parse? layout.text = some (layout.insertion (splitGroups layout.tail.groups)) := by
  rcases parts?_text h with hparts | ⟨hglued, -⟩
  · exact parse?_of_parts? hparts h.tail.groups
  · exact absurd hglued hapart

/--
The texts that are read as insertions, and what is read of them.

The rows of a text come from the groups that lie scattered in its last part, whatever
stands between them.  Every insertion of the grammar is read.  So the texts that are read
are those of the grammar exactly where a text without a layout or one of the grammar is
given.
-/
theorem accepted_texts (t : Text) :
    ((parse? t).isSome = true ↔ ∃ layout : Layout, layout.WellFormed ∧ layout.text = t) ∧
      (∀ insert, parse? t = some insert → ∃ layout : Layout, ∃ groups,
        layout.WellFormed ∧ layout.text = t ∧ ScatteredGroups layout.tail.groups groups ∧
          insert = layout.insertion groups) ∧
      (((parse? t).isSome = true ↔ IsInsertion t) ↔
        IsInsertion t ∨ ¬ ∃ layout : Layout, layout.WellFormed ∧ layout.text = t) := by
  refine ⟨parse?_isSome_iff t, ?_, ?_⟩
  · intro insert hread
    obtain ⟨layout, hlayout, htext, hinsert⟩ := exists_layout_of_parse? hread
    exact ⟨layout, _, hlayout, htext, scatteredGroups_splitGroups _, hinsert⟩
  · have hgrammar : IsInsertion t → ∃ layout : Layout, layout.WellFormed ∧ layout.text = t := by
      rintro ⟨layout, groups, hlayout, htext, -⟩
      exact ⟨layout, hlayout, htext⟩
    rw [parse?_isSome_iff]
    by_cases hinsertion : IsInsertion t
    · exact iff_of_true (iff_of_true (hgrammar hinsertion) hinsertion) (.inl hinsertion)
    · constructor
      · exact fun heq => .inr fun hlayout => hinsertion (heq.mp hlayout)
      · rintro (hyes | hno)
        · exact absurd hyes hinsertion
        · exact iff_of_false hno hinsertion

/-- The rows of two statements on one line are read as rows of the first table. -/
theorem accepted_twoStatements :
    let t := "INSERT INTO t VALUES(1); INSERT INTO u VALUES(2);".toList
    parse? t = some
        { table := "t".toList
          columns := none
          rows := [["1".toList], ["2".toList]] } ∧
      ¬ IsInsertion t := by
  intro t
  have hparts : parts? t =
      some ("t".toList, none, "(1); INSERT INTO u VALUES(2)".toList) := by decide +kernel
  refine ⟨by decide +kernel, ?_⟩
  rintro ⟨layout, groups, hlayout, htext, hsequence⟩
  have hgroups : layout.tail.groups = "(1); INSERT INTO u VALUES(2)".toList := by
    rcases parts?_text hlayout with hown | ⟨-, name, inner, other, hother⟩
    · rw [htext, hparts] at hown
      exact (Prod.mk.inj (Prod.mk.inj (Option.some.inj hown)).2).2.symm
    · rw [htext, hparts] at hother
      cases (Prod.mk.inj (Prod.mk.inj (Option.some.inj hother)).2).1
  have hrows : groups = ["1".toList, "2".toList] := by
    rw [← splitGroups_of_groupSequence hsequence, hgroups]
    decide +kernel
  have hmark : ';' ∈ layout.tail.groups := by
    rw [hgroups]
    decide
  rw [hrows] at hsequence
  rcases mem_of_groupSequence hsequence hmark with hblank | hseparator | hinside
  · exact absurd hblank (by decide)
  · exact absurd hseparator (by decide)
  · exact absurd hinside (by decide)

end DumpConvert.Insert
