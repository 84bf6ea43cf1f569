import DumpConvert.Proofs.Sql.ValueToken

/-!
# Joining the tokens of any list

The tokens of a list are its items without the blanks around them, and only the last one
may leave a quote or a parenthesis open (`isItemList_splitValues`).  This holds for every
text, also for one that is not the inside of a group.

So a list that is put together again from its tokens is cut at the same places, and the
only token that can be lost is an empty one at the end (`splitValues_rejoined`).
-/

namespace DumpConvert.Sql

open Nesting

theorem IsItem.trim {t : Text} (h : IsItem t) : IsItem (Text.trim t) := by
  exact ⟨h.uncut.trim, (after_trim top t).trans h.balanced⟩

/-- The items of a list, the first one begun with a piece that shows no comma. -/
theorem isItemList_split
    {piece list : Text} (huncut : Avoids ',' top piece.reverse) :
    IsItemList ((top.after piece.reverse).split piece list) := by
  -- As for the inside of a group, the state is the one that the piece leads to.
  induction list generalizing piece with
  | nil =>
      rw [split_last, dropEmptyLast]
      split
      · exact .nil
      · exact .last huncut.trim
  | cons c rest ih =>
      by_cases hcut : top.after piece.reverse = top ∧ c = ','
      · obtain ⟨htop, rfl⟩ := hcut
        have hitem : IsItem piece.reverse := ⟨huncut, htop⟩
        rw [htop, split_comma]
        exact .cons hitem.trim (@ih [] trivial)
      · have hgrown : top.after (c :: piece).reverse = (top.after piece.reverse).advance c := by
          rw [List.reverse_cons, after_append]
          rfl
        have hlonger : Avoids ',' top (c :: piece).reverse := by
          rw [List.reverse_cons, avoids_append]
          exact ⟨huncut, hcut, trivial⟩
        rw [split_cons hcut, ← hgrown]
        exact ih hlonger

theorem isItemList_splitValues (list : Text) : IsItemList (splitValues list) := by
  exact @isItemList_split [] list trivial

theorem trim_of_mem_split
    {s : Nesting} {piece list token : Text} (h : token ∈ s.split piece list) :
    Text.trim token = token := by
  induction list generalizing s piece with
  | nil =>
      rw [eq_of_mem_split_nil h]
      exact Text.trim_trim _
  | cons c rest ih =>
      by_cases hcut : s = top ∧ c = ','
      · obtain ⟨rfl, rfl⟩ := hcut
        rw [split_comma] at h
        rcases List.mem_cons.mp h with rfl | hlater
        · exact Text.trim_trim _
        · exact ih hlater
      · rw [split_cons hcut] at h
        exact ih h

theorem map_trim_splitValues (list : Text) :
    (splitValues list).map Text.trim = splitValues list := by
  have hmem : ∀ token ∈ splitValues list, Text.trim token = id token := fun token h =>
    @trim_of_mem_split top [] list token h
  exact (List.map_congr_left hmem).trans (List.map_id _)

/-- Joining and cutting again loses an empty token at the end and nothing else. -/
theorem splitValues_rejoined (list : Text) :
    splitValues (joinValues (splitValues list)) = dropEmptyLast (splitValues list) := by
  have hgap : ∀ c ∈ [' '], Text.isBlank c = true := List.forall_mem_singleton.mpr (by decide)
  have hsplit := split_joinWith (isItemList_splitValues list) (List.forall_mem_nil _) hgap
    (List.forall_mem_nil _)
  rw [List.append_nil, map_trim_splitValues] at hsplit
  exact hsplit

theorem length_dropEmptyLast_iff (tokens : List Text) :
    (dropEmptyLast tokens).length = tokens.length ↔ tokens.getLast? ≠ some [] := by
  constructor
  · intro hlength hlast
    rw [dropEmptyLast, if_pos hlast, List.length_dropLast] at hlength
    have hne : tokens ≠ [] := by
      rintro rfl
      cases hlast
    have hpos : 0 < tokens.length := List.length_pos_iff.mpr hne
    omega
  · intro hlast
    rw [dropEmptyLast, if_neg hlast]

theorem dropEmptyLast_eq_self_iff (tokens : List Text) :
    dropEmptyLast tokens = tokens ↔ tokens.getLast? ≠ some [] := by
  constructor
  · intro hsame
    exact (length_dropEmptyLast_iff tokens).mp (congrArg List.length hsame)
  · intro hlast
    rw [dropEmptyLast, if_neg hlast]

theorem getLast?_ne_some_nil_iff (tokens : List Text) :
    tokens.getLast? ≠ some [] ↔ tokens = [] ∨ ∃ last ∈ tokens.getLast?, last ≠ [] := by
  cases hlast : tokens.getLast? with
  | none =>
      have hnil : tokens = [] := List.getLast?_eq_none_iff.mp hlast
      simp [hnil]
  | some last =>
      have hne : tokens ≠ [] := by
        rintro rfl
        cases hlast
      simp [hne]

/--
A list that is put together from the tokens of another one has the same tokens exactly if
there are none or the last one is not empty, and the same holds for their number.
-/
theorem splitValues_rejoined_iff (list : Text) :
    (splitValues (joinValues (splitValues list)) = splitValues list ↔
        splitValues list = [] ∨ ∃ last ∈ (splitValues list).getLast?, last ≠ []) ∧
      ((splitValues (joinValues (splitValues list))).length = (splitValues list).length ↔
        splitValues list = [] ∨ ∃ last ∈ (splitValues list).getLast?, last ≠ []) := by
  rw [splitValues_rejoined, dropEmptyLast_eq_self_iff, length_dropEmptyLast_iff,
    getLast?_ne_some_nil_iff]
  exact ⟨Iff.rfl, Iff.rfl⟩

/-- The empty token in the middle stays and the one at the end is lost. -/
example : splitValues "1,,2,,".toList = ["1".toList, [], "2".toList, []] ∧
    splitValues (joinValues (splitValues "1,,2,,".toList)) =
      ["1".toList, [], "2".toList] := by
  decide

end DumpConvert.Sql
