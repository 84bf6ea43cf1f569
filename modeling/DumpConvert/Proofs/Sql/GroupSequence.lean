import DumpConvert.Proofs.Sql.ValueGroup
import DumpConvert.Proofs.Text.Scanning
import Mathlib.Data.List.Basic

/-!
# Sequences of groups

A sequence of groups has one comma between neighbours and nothing else but blanks
(`GroupSequence`).  The scan of groups asks for less: it takes groups wherever they stand
and passes over every character between them, and it takes a group that is not closed as
well (`ScatteredGroups`).  Every text is such a reading of exactly one list of groups, the
one that the scan gives (`scatteredGroups_iff`).
-/

namespace DumpConvert.Sql

open Nesting

inductive GroupSequence : Text → List Text → Prop where
  | last {group : Text} (hgroup : IsGroup group) : GroupSequence (parenthesized group) [group]
  | more {group before after rest : Text} {groups : List Text} (hgroup : IsGroup group)
      (hbefore : ∀ c ∈ before, Text.isBlank c = true)
      (hafter : ∀ c ∈ after, Text.isBlank c = true) (hrest : GroupSequence rest groups) :
      GroupSequence (parenthesized group ++ (before ++ ',' :: (after ++ rest))) (group :: groups)

/--
Groups with any text before, between and after them that opens no parenthesis.

The last group may be without its closing parenthesis; it counts unless it is blank.
-/
inductive ScatteredGroups : Text → List Text → Prop where
  | none {stray : Text} (hstray : '(' ∉ stray) : ScatteredGroups stray []
  | unclosed {stray part : Text} (hstray : '(' ∉ stray) (hpart : Avoids ')' top part) :
      ScatteredGroups (stray ++ '(' :: part) (if Text.isBlankText part then [] else [part])
  | group {stray group rest : Text} {groups : List Text} (hstray : '(' ∉ stray)
      (hgroup : IsGroup group) (hrest : ScatteredGroups rest groups) :
      ScatteredGroups (stray ++ (parenthesized group ++ rest)) (group :: groups)

/-! ## Text between the groups -/

theorem splitGroups_stray {stray : Text} (h : '(' ∉ stray) (rest : Text) :
    splitGroups (stray ++ rest) = splitGroups rest := by
  exact GroupScan.groups_stray h [] rest

theorem splitGroups_unclosed {part : Text} (h : Avoids ')' top part) :
    splitGroups ('(' :: part) = if Text.isBlankText part then [] else [part] := by
  have hcollect := collect_append h [] []
  rw [List.append_nil, List.append_nil] at hcollect
  have hblank : Text.isBlankText part.reverse = Text.isBlankText part := List.all_reverse
  show top.collect [] part = _
  rw [hcollect]
  cases hpart : Text.isBlankText part <;> simp [collect, groupsFrom, hblank, hpart]

theorem mem_of_groupSequence {values : Text} {groups : List Text} {c : Char}
    (h : GroupSequence values groups) (hc : c ∈ values) :
    Text.isBlank c = true ∨ c ∈ ['(', ')', ','] ∨ ∃ group ∈ groups, c ∈ group := by
  induction h with
  | @last group hgroup =>
      have hcases : c = '(' ∨ c ∈ group ∨ c = ')' := by
        simpa [parenthesized] using hc
      rcases hcases with rfl | hinside | rfl
      · exact .inr (.inl (by simp))
      · exact .inr (.inr ⟨group, List.mem_cons_self, hinside⟩)
      · exact .inr (.inl (by simp))
  | @more group before after rest groups hgroup hbefore hafter hrest ih =>
      have hcases : (c = '(' ∨ c ∈ group ∨ c = ')') ∨ c ∈ before ∨ c = ',' ∨ c ∈ after ∨
          c ∈ rest := by
        simpa [parenthesized, or_assoc] using hc
      rcases hcases with (rfl | hinside | rfl) | hblank | rfl | hblank | hlater
      · exact .inr (.inl (by simp))
      · exact .inr (.inr ⟨group, List.mem_cons_self, hinside⟩)
      · exact .inr (.inl (by simp))
      · exact .inl (hbefore c hblank)
      · exact .inr (.inl (by simp))
      · exact .inl (hafter c hblank)
      · rcases ih hlater with hblank | hmark | ⟨other, hother, hmem⟩
        · exact .inl hblank
        · exact .inr (.inl hmark)
        · exact .inr (.inr ⟨other, List.mem_cons_of_mem group hother, hmem⟩)

theorem splitGroups_of_groupSequence {values : Text} {groups : List Text}
    (h : GroupSequence values groups) : splitGroups values = groups := by
  induction h with
  | last hgroup =>
      have hlast := splitGroups_parenthesized hgroup []
      rw [List.append_nil] at hlast
      exact hlast
  | @more group before after rest groups hgroup hbefore hafter hrest ih =>
      have hstray : '(' ∉ before ++ ',' :: after := by
        intro hmem
        rcases List.mem_append.mp hmem with hblank | hcomma
        · exact absurd (hbefore _ hblank) (by decide)
        · rcases List.mem_cons.mp hcomma with hopen | hblank
          · exact absurd hopen (by decide)
          · exact absurd (hafter _ hblank) (by decide)
      have hregroup : before ++ ',' :: (after ++ rest) = (before ++ ',' :: after) ++ rest := by
        simp
      rw [splitGroups_parenthesized hgroup, hregroup, splitGroups_stray hstray, ih]

/-! ## Every text is a sequence of scattered groups -/

theorem scatteredGroups_splitGroups (values : Text) :
    ScatteredGroups values (splitGroups values) := by
  -- Every group takes two parentheses from the text that is left.
  induction hlength : values.length using Nat.strongRecOn generalizing values with
  | ind length ih =>
      have hstray : '(' ∉ values.takeWhile (· ≠ '(') := by
        intro hmem
        have htaken := List.mem_takeWhile_imp hmem
        simp at htaken
      have hwhole : values.takeWhile (· ≠ '(') ++ values.dropWhile (· ≠ '(') = values :=
        List.takeWhile_append_dropWhile
      cases hrest : values.dropWhile (· ≠ '(') with
      | nil =>
          rw [hrest, List.append_nil] at hwhole
          rw [hwhole] at hstray
          have hnone := splitGroups_stray hstray []
          rw [List.append_nil] at hnone
          rw [hnone]
          exact .none hstray
      | cons c t =>
          have hc : c = '(' := by
            have hstop : c ∈ (values.dropWhile (· ≠ '(')).head? := by
              rw [hrest]
              rfl
            simpa using Text.mem_head?_dropWhile hstop
          rw [hrest, hc] at hwhole
          have hread : splitGroups values = splitGroups ('(' :: t) := by
            rw [← hwhole]
            exact splitGroups_stray hstray ('(' :: t)
          rcases avoids_or_exists_cut ')' top t with
            hopen | ⟨group, rest, rfl, hgroup, hbalanced⟩
          · rw [hread, splitGroups_unclosed hopen, ← hwhole]
            exact .unclosed hstray hopen
          · have hregroup : '(' :: (group ++ ')' :: rest) = parenthesized group ++ rest := by
              simp [parenthesized]
            have hshorter : rest.length < length := by
              rw [← hlength, ← hwhole]
              simp only [List.length_append, List.length_cons]
              omega
            rw [hread, hregroup, splitGroups_parenthesized ⟨hgroup, hbalanced⟩, ← hwhole, hregroup]
            exact .group hstray ⟨hgroup, hbalanced⟩ (ih rest.length hshorter rest rfl)

theorem scatteredGroups_iff {values : Text} {groups : List Text} :
    ScatteredGroups values groups ↔ splitGroups values = groups := by
  constructor
  · intro h
    induction h with
    | @none stray hstray =>
        have hnone := splitGroups_stray hstray []
        rw [List.append_nil] at hnone
        exact hnone
    | unclosed hstray hpart => rw [splitGroups_stray hstray, splitGroups_unclosed hpart]
    | group hstray hgroup _ ih =>
        rw [splitGroups_stray hstray, splitGroups_parenthesized hgroup, ih]
  · rintro rfl
    exact scatteredGroups_splitGroups values

/-- Between two parentheses there is a group, closed or not. -/
theorem splitGroups_ne_nil (inner : Text) : splitGroups ('(' :: inner ++ [')']) ≠ [] := by
  intro hnil
  have hscattered := scatteredGroups_iff.mpr hnil
  generalize hvalues : '(' :: inner ++ [')'] = values at hscattered
  generalize hgroups : ([] : List Text) = groups at hscattered
  cases hscattered with
  | none hstray =>
      rw [← hvalues] at hstray
      exact hstray List.mem_cons_self
  | group _ _ _ => cases hgroups
  | @unclosed stray part hstray hpart =>
      have hclose : ')' ∈ part := by
        have hlast := congrArg List.getLast? hvalues
        rw [List.getLast?_concat, List.getLast?_append_of_ne_nil _ (List.cons_ne_nil _ _)] at hlast
        cases part with
        | nil => cases hlast
        | cons c more =>
            rw [List.getLast?_cons_cons] at hlast
            exact List.mem_of_getLast? hlast.symm
      have hblank : Text.isBlankText part = true := by
        by_cases hpart' : Text.isBlankText part = true
        · exact hpart'
        · rw [if_neg hpart'] at hgroups
          cases hgroups
      exact absurd (List.all_eq_true.mp hblank _ hclose) (by decide)

end DumpConvert.Sql
