import DumpConvert.Text.Basic
import Mathlib.Data.List.Infix

/-!
# Replacing

`Replaces` says what a replacement leaves of a text, read from the left: an occurrence of
the pattern becomes the replacement and reading goes on behind it, and a character that
no occurrence begins at stays.  It relates every text to exactly one other, which is the
one that `replaceAll` computes (`replaces_iff`).

`mark` goes the other way and writes a marker for every occurrence of a character.  A
marker that the text does not hold and that cannot overlap itself is found again in the
places where it was written and in no others, so replacing it undoes the marking
(`replaces_mark`).
-/

namespace DumpConvert.Text

variable {pattern replacement : Text}

/-! ## What a replacement leaves -/

inductive Replaces (pattern replacement : Text) : Text → Text → Prop where
  | nil : Replaces pattern replacement [] []
  | hit {t u : Text} (h : Replaces pattern replacement t u) :
      Replaces pattern replacement (pattern ++ t) (replacement ++ u)
  | miss {c : Char} {t u : Text} (hmiss : ¬ pattern <+: c :: t)
      (h : Replaces pattern replacement t u) :
      Replaces pattern replacement (c :: t) (c :: u)

theorem replaceAfter_length (skipped t : Text) :
    replaceAfter pattern replacement skipped.length (skipped ++ t) =
      replaceAll pattern replacement t := by
  induction skipped with
  | nil => rfl
  | cons c rest ih => exact ih

theorem replaceAll_append (hpattern : pattern ≠ []) (t : Text) :
    replaceAll pattern replacement (pattern ++ t) =
      replacement ++ replaceAll pattern replacement t := by
  obtain ⟨c, rest, rfl⟩ := List.exists_cons_of_ne_nil hpattern
  have hoccurs : (c :: rest).isPrefixOf (c :: (rest ++ t)) = true :=
    List.isPrefixOf_iff_prefix.mpr (List.prefix_append (c :: rest) t)
  rw [replaceAll, List.cons_append, replaceAfter, if_pos hoccurs]
  exact congrArg (replacement ++ ·) (replaceAfter_length rest t)

theorem replaceAll_cons {c : Char} {t : Text} (h : ¬ pattern <+: c :: t) :
    replaceAll pattern replacement (c :: t) = c :: replaceAll pattern replacement t := by
  have hoccurs : ¬ pattern.isPrefixOf (c :: t) = true :=
    fun hbegins => h (List.isPrefixOf_iff_prefix.mp hbegins)
  rw [replaceAll, replaceAfter, if_neg hoccurs]
  rfl

theorem Replaces.eq_replaceAll (hpattern : pattern ≠ []) {t u : Text}
    (h : Replaces pattern replacement t u) : u = replaceAll pattern replacement t := by
  induction h with
  | nil => rfl
  | hit _ ih => rw [replaceAll_append hpattern, ← ih]
  | miss hmiss _ ih => rw [replaceAll_cons hmiss, ← ih]

theorem replaces_replaceAll (hpattern : pattern ≠ []) (replacement t : Text) :
    Replaces pattern replacement t (replaceAll pattern replacement t) := by
  -- An occurrence takes more than one character away, so the length is what decreases.
  induction hlength : t.length using Nat.strong_induction_on generalizing t with
  | h n ih =>
      cases t with
      | nil => exact .nil
      | cons c rest =>
          by_cases hoccurs : pattern <+: c :: rest
          · obtain ⟨behind, hwhole⟩ := hoccurs
            have hshorter : behind.length < n := by
              have hpos : 0 < pattern.length := List.length_pos_iff.mpr hpattern
              rw [← hlength, ← hwhole, List.length_append]
              omega
            rw [← hwhole, replaceAll_append hpattern]
            exact .hit (ih behind.length hshorter behind rfl)
          · have hshorter : rest.length < n := by
              rw [← hlength]
              exact Nat.lt_succ_self rest.length
            rw [replaceAll_cons hoccurs]
            exact .miss hoccurs (ih rest.length hshorter rest rfl)

theorem replaces_iff (hpattern : pattern ≠ []) {t u : Text} :
    Replaces pattern replacement t u ↔ u = replaceAll pattern replacement t := by
  constructor
  · exact fun h => h.eq_replaceAll hpattern
  · rintro rfl
    exact replaces_replaceAll hpattern replacement t

/-! ## Marking a character -/

/-- Write the marker in place of every occurrence of the character. -/
def mark (marker : Text) (c : Char) (t : Text) : Text :=
  t.flatMap (fun d => if d = c then marker else [d])

/-- No part of the text but all of it both begins and ends it. -/
def IsUnbordered (t : Text) : Prop :=
  ∀ border : Text, border <+: t → border <:+ t → border = [] ∨ border = t

theorem isUnbordered_iff {t : Text} :
    IsUnbordered t ↔ ∀ border ∈ t.inits, border <:+ t → border = [] ∨ border = t := by
  simp only [IsUnbordered, List.mem_inits]

instance (t : Text) : Decidable (IsUnbordered t) :=
  decidable_of_iff _ isUnbordered_iff.symm

theorem mark_cons_self (marker : Text) (c : Char) (t : Text) :
    mark marker c (c :: t) = marker ++ mark marker c t := by
  simp [mark]

theorem mark_cons_of_ne (marker : Text) {c d : Char} (h : d ≠ c) (t : Text) :
    mark marker c (d :: t) = d :: mark marker c t := by
  simp [mark, h]

/-- What a marked text begins with is no end of the marker that a marker was written for. -/
theorem prefix_of_prefix_mark {marker : Text} (hborder : IsUnbordered marker) {c : Char}
    {tail t : Text} (hsuffix : tail <:+ marker) (hshort : tail.length < marker.length)
    (h : tail <+: mark marker c t) : tail <+: t := by
  induction t generalizing tail with
  | nil => exact h
  | cons d rest ih =>
      by_cases hd : d = c
      · -- The end of the marker would begin the marker that stands here.
        rw [hd, mark_cons_self] at h
        have hbegin : tail <+: marker :=
          List.prefix_of_prefix_length_le h (List.prefix_append _ _) hshort.le
        rcases hborder tail hbegin hsuffix with rfl | rfl
        · exact List.nil_prefix
        · exact absurd hshort (lt_irrefl _)
      · rw [mark_cons_of_ne marker hd] at h
        cases tail with
        | nil => exact List.nil_prefix
        | cons e tail =>
            obtain ⟨rfl, hrest⟩ := List.cons_prefix_cons.mp h
            have htail : tail <:+ marker := (List.suffix_cons e tail).trans hsuffix
            have hlength : tail.length < marker.length :=
              lt_trans (Nat.lt_succ_self tail.length) hshort
            exact List.cons_prefix_cons.mpr ⟨rfl, ih htail hlength hrest⟩

/-- The markers are found where they were written and nowhere else. -/
theorem replaces_mark {marker : Text} (hmarker : marker ≠ []) (hborder : IsUnbordered marker)
    (c : Char) {t : Text} (habsent : ¬ marker <:+: t) :
    Replaces marker [c] (mark marker c t) t := by
  induction t with
  | nil => exact .nil
  | cons d rest ih =>
      obtain ⟨hhere, hlater⟩ := not_or.mp (mt List.infix_cons_iff.mpr habsent)
      by_cases hd : d = c
      · rw [hd, mark_cons_self]
        exact .hit (ih hlater)
      · rw [mark_cons_of_ne marker hd]
        refine .miss (fun hbegins => hhere ?_) (ih hlater)
        obtain ⟨e, tail, rfl⟩ := List.exists_cons_of_ne_nil hmarker
        obtain ⟨rfl, hrest⟩ := List.cons_prefix_cons.mp hbegins
        have hbehind : tail <+: rest :=
          prefix_of_prefix_mark hborder (List.suffix_cons e tail) (Nat.lt_succ_self _) hrest
        exact List.cons_prefix_cons.mpr ⟨rfl, hbehind⟩

end DumpConvert.Text
