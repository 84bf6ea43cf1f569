import DumpConvert.Sql.Quoting

/-!
# Quoting, character by character

Which characters doubling and collapsing leave in a text, and what they do to a text
without the quote character: nothing.
-/

namespace DumpConvert.Sql

theorem double_cons (quote c : Char) (t : Text) :
    double quote (c :: t) = (if c = quote then [c, c] else [c]) ++ double quote t := by
  simp [double]

theorem mem_double {quote c : Char} {t : Text} (h : c ∈ double quote t) : c ∈ t := by
  induction t with
  | nil =>
      exact h
  | cons d rest ih =>
      rw [double_cons] at h
      rcases List.mem_append.mp h with hfirst | hrest
      · split at hfirst <;> simp_all
      · exact List.mem_cons_of_mem d (ih hrest)

theorem double_of_not_mem {quote : Char} {t : Text} (h : quote ∉ t) : double quote t = t := by
  induction t with
  | nil =>
      rfl
  | cons c rest ih =>
      have hc : c ≠ quote := fun heq => h (heq ▸ List.mem_cons_self)
      have hrest : quote ∉ rest := fun hmem => h (List.mem_cons_of_mem c hmem)
      rw [double_cons, if_neg hc, ih hrest]
      rfl

theorem collapse_of_not_mem {quote : Char} {t : Text} (h : quote ∉ t) : collapse quote t = t := by
  have hback := collapse_double quote t
  rw [double_of_not_mem h] at hback
  exact hback

theorem mem_foldr_collapseStep {quote c : Char} (t : Text)
    (h : c ∈ (t.foldr (collapseStep quote) ([], false)).1) : c ∈ t := by
  induction t with
  | nil =>
      exact h
  | cons d rest ih =>
      rw [List.foldr_cons] at h
      unfold collapseStep at h
      have hcases :
          c ∈ d :: (rest.foldr (collapseStep quote) ([], false)).1 := by
        split at h
        · split at h
          · exact List.mem_cons_of_mem d h
          · exact h
        · exact h
      rcases List.mem_cons.mp hcases with rfl | hrest
      · exact List.mem_cons_self
      · exact List.mem_cons_of_mem d (ih hrest)

theorem mem_collapse {quote c : Char} {t : Text} (h : c ∈ collapse quote t) : c ∈ t := by
  exact mem_foldr_collapseStep t h

theorem enclosed?_eq_some_iff {left right : Char} {t body : Text} :
    enclosed? left right t = some body ↔ t = left :: body ++ [right] := by
  constructor
  · intro h
    cases t with
    | nil =>
        cases h
    | cons c rest =>
        by_cases hends : c = left ∧ rest.getLast? = some right
        · obtain ⟨front, hrest⟩ := List.getLast?_eq_some_iff.mp hends.2
          simp only [enclosed?, if_pos hends, Option.some.injEq] at h
          rw [hrest, List.dropLast_concat] at h
          rw [hends.1, hrest, h]
          rfl
        · simp only [enclosed?, if_neg hends] at h
          cases h
  · rintro rfl
    simp [enclosed?]

/-- Between two quote characters that enclose nothing else, a text stands for itself. -/
theorem enclose_of_not_mem {quote : Char} {t : Text} (h : quote ∉ t) :
    enclose quote t = quote :: t ++ [quote] := by
  rw [enclose, double_of_not_mem h]

end DumpConvert.Sql
