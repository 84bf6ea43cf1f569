import DumpConvert.Proofs.Sql.SparedGroups
import DumpConvert.Schema.Table

/-!
# Where the body of a table ends

The body of a table is meant to end at the parenthesis that closes the one in front of it.
It is read up to the last closing parenthesis of the statement, whatever that one closes
(`parse?_eq_some_iff`).

So the body that is read is the meant one exactly if nothing behind the header closes a
parenthesis, and no table is read, or if the parenthesis that closes the body is the last
one of the statement (`readsWholeBody_iff`).  Two readings that end in different places
differ in the closing parentheses that their definitions hold (`count_definitions`).
-/

namespace DumpConvert

open Sql

theorem Text.exists_splitAtLast?_of_mem {c : Char} {t : Text} (h : c ∈ t) :
    ∃ before after, Text.splitAtLast? c t = some (before, after) := by
  obtain ⟨after, before, hreverse, hafter⟩ :=
    List.eq_append_cons_of_mem (List.mem_reverse.mpr h)
  refine ⟨before.reverse, after.reverse, Text.splitAtLast?_eq_some_iff.mpr ⟨?_, ?_⟩⟩
  · have hback := congrArg List.reverse hreverse
    simpa using hback
  · exact fun hmem => hafter (List.mem_reverse.mp hmem)

namespace CreateTable

/-! ## The parts of a table -/

def ofParts (name body after : Text) : CreateTable :=
  { tableName := Identifier.unquote name
    definitions := (splitValues body).filter (fun item => !item.isEmpty)
    options := Text.trim (dropSemicolons (Text.trim after)) }

/-- A table is read up to the last closing parenthesis behind its header. -/
theorem parse?_eq_some_iff {text : Text} {table : CreateTable} :
    parse? text = some table ↔ ∃ name body after,
      header? (stripComments text) = some (name, body ++ ')' :: after) ∧ ')' ∉ after ∧
        ofParts name body after = table := by
  unfold parse?
  cases hheader : header? (stripComments text) with
  | none => simp
  | some found =>
      obtain ⟨name, rest⟩ := found
      cases hlast : Text.splitAtLast? ')' rest with
      | none =>
          simp only [hlast, Option.some.injEq, Prod.mk.injEq, reduceCtorEq, false_iff]
          rintro ⟨_, body, after, ⟨-, rfl⟩, hafter, -⟩
          rw [Text.splitAtLast?_append hafter] at hlast
          cases hlast
      | some parts =>
          obtain ⟨body, after⟩ := parts
          obtain ⟨hrest, hafter⟩ := Text.splitAtLast?_eq_some_iff.mp hlast
          simp only [hlast, Option.some.injEq, Prod.mk.injEq]
          constructor
          · rintro rfl
            exact ⟨name, body, after, ⟨rfl, hrest⟩, hafter, rfl⟩
          · rintro ⟨_, body', after', ⟨rfl, rfl⟩, hafter', rfl⟩
            rw [Text.splitAtLast?_append hafter'] at hlast
            cases hlast
            rfl

/-- Cutting the body moves its closing parentheses into the definitions and loses none. -/
theorem count_definitions (name body after : Text) :
    (ofParts name body after).definitions.flatten.count ')' = body.count ')' := by
  rw [ofParts, List.flatten_filter_not_isEmpty, count_splitValues (by decide) (by decide)]

/-! ## The body that is meant -/

/--
A table is read only from a body that ends at the parenthesis closing it, counted outside
quotes, and with all definitions of that body; from a body that is never closed none is read.
-/
structure ReadsWholeBody (text : Text) : Prop where
  closed : ∀ table, parse? text = some table → ∃ name body after,
    header? (stripComments text) = some (name, body ++ ')' :: after) ∧ IsGroup body ∧
      table = ofParts name body after
  unclosed : (∀ name body after,
    header? (stripComments text) = some (name, body ++ ')' :: after) → ¬ IsGroup body) →
      parse? text = none

/-- Nothing closes the body of a text that avoids the closing parenthesis. -/
theorem not_isGroup_of_avoids {body after : Text}
    (h : Nesting.Avoids ')' .top (body ++ ')' :: after)) : ¬ IsGroup body := by
  intro hgroup
  have hrest := (Nesting.avoids_append.mp h).2
  rw [hgroup.balanced] at hrest
  exact hrest.1 ⟨rfl, rfl⟩

/-- If the body that is read is the meant one, no parenthesis is closed behind it. -/
theorem ReadsWholeBody.exists_last {text name rest : Text} (h : ReadsWholeBody text)
    (hheader : header? (stripComments text) = some (name, rest)) (hmem : ')' ∈ rest) :
    ∃ body after, rest = body ++ ')' :: after ∧ IsGroup body ∧ ')' ∉ after := by
  obtain ⟨read, behind, hsplit⟩ := Text.exists_splitAtLast?_of_mem hmem
  obtain ⟨hrest, hbehind⟩ := Text.splitAtLast?_eq_some_iff.mp hsplit
  rw [hrest] at hheader
  have hparse : parse? text = some (ofParts name read behind) :=
    parse?_eq_some_iff.mpr ⟨name, read, behind, hheader, hbehind, rfl⟩
  obtain ⟨name', body, after, hheader', hgroup, hsame⟩ := h.closed _ hparse
  rw [hheader'] at hheader
  obtain ⟨rfl, hcut⟩ := Prod.mk.inj (Option.some.inj hheader)
  refine ⟨body, after, hrest.trans hcut.symm, hgroup, ?_⟩
  -- The definitions are the same, so both bodies hold all the closing parentheses but one.
  have hdefinitions : read.count ')' = body.count ')' := by
    rw [← count_definitions name' read behind, hsame, count_definitions]
  have hcount := congrArg (List.count ')') hcut
  rw [List.count_append, List.count_append, List.count_cons_self, List.count_cons_self,
    List.count_eq_zero_of_not_mem hbehind] at hcount
  exact List.count_eq_zero.mp (by omega)

/-- If the parenthesis that closes the body is the last one, the body is read up to it. -/
theorem exists_group_of_parse? {text : Text} {table : CreateTable}
    (h : ∀ name rest, header? (stripComments text) = some (name, rest) → ')' ∈ rest →
      ∃ body after, rest = body ++ ')' :: after ∧ IsGroup body ∧ ')' ∉ after)
    (hparse : parse? text = some table) :
    ∃ name body after, header? (stripComments text) = some (name, body ++ ')' :: after) ∧
      IsGroup body ∧ table = ofParts name body after := by
  obtain ⟨name, read, behind, hheader, hbehind, rfl⟩ := parse?_eq_some_iff.mp hparse
  obtain ⟨body, after, hrest, hgroup, hafter⟩ := h name _ hheader (by simp)
  have hread := Text.splitAtLast?_append hbehind read
  rw [hrest, Text.splitAtLast?_append hafter] at hread
  cases hread
  exact ⟨name, read, behind, hheader, hgroup, rfl⟩

/--
The body that is read is the one that is meant exactly if the parenthesis that closes it is
the last closing parenthesis of the statement, or if there is none at all.
-/
theorem readsWholeBody_iff (text : Text) :
    ReadsWholeBody text ↔ ∀ name rest, header? (stripComments text) = some (name, rest) →
      ')' ∈ rest → ∃ body after, rest = body ++ ')' :: after ∧ IsGroup body ∧ ')' ∉ after := by
  constructor
  · intro h name rest hheader hmem
    exact h.exists_last hheader hmem
  · intro h
    refine ⟨fun table hparse => exists_group_of_parse? h hparse, fun hunclosed => ?_⟩
    cases hparse : parse? text with
    | none => rfl
    | some table =>
        obtain ⟨name, body, after, hheader, hgroup, -⟩ := exists_group_of_parse? h hparse
        exact absurd hgroup (hunclosed name body after hheader)

/-- A statement that is cut off inside its body is read up to the parenthesis of a type. -/
theorem not_readsWholeBody_cutOff :
    parse? "CREATE TABLE t(a INTEGER, b DECIMAL(10,2)".toList =
        some ⟨"t".toList, ["a INTEGER".toList, "b DECIMAL(10,2".toList], []⟩ ∧
      ¬ ReadsWholeBody "CREATE TABLE t(a INTEGER, b DECIMAL(10,2)".toList := by
  have hparse : parse? "CREATE TABLE t(a INTEGER, b DECIMAL(10,2)".toList =
      some ⟨"t".toList, ["a INTEGER".toList, "b DECIMAL(10,2".toList], []⟩ := by decide +kernel
  have hheader : header? (stripComments "CREATE TABLE t(a INTEGER, b DECIMAL(10,2)".toList) =
      some ("t".toList, "a INTEGER, b DECIMAL(10,2)".toList) := by decide +kernel
  have hunclosed : Nesting.Avoids ')' .top "a INTEGER, b DECIMAL(10,2)".toList := by
    decide +kernel
  refine ⟨hparse, fun h => ?_⟩
  have hnone : parse? "CREATE TABLE t(a INTEGER, b DECIMAL(10,2)".toList = none := by
    refine h.unclosed fun name body after hfound => ?_
    rw [hheader] at hfound
    obtain ⟨-, hrest⟩ := Prod.mk.inj (Option.some.inj hfound)
    rw [hrest] at hunclosed
    exact not_isGroup_of_avoids hunclosed
  rw [hparse] at hnone
  cases hnone

end CreateTable

end DumpConvert
