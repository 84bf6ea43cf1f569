import DumpConvert.Text.Blank
import Mathlib.Data.List.TakeWhile

/-!
# Trimming

A text is its trimmed form between two runs of blanks (`exists_eq_append_trim`), and
blanks at either end make no difference to the trimmed form.  The other facts about
trimming follow from these two.
-/

namespace DumpConvert.Text

theorem ne_of_isBlank {b c : Char} (hb : isBlank b = true) (hc : isBlank c = false) : b ≠ c := by
  rintro rfl
  rw [hb] at hc
  exact Bool.noConfusion hc

theorem not_mem_of_blank {gap : Text} {c : Char} (h : ∀ b ∈ gap, isBlank b = true)
    (hc : isBlank c = false) : c ∉ gap := by
  exact fun hmem => ne_of_isBlank (h c hmem) hc rfl

theorem isBlankText_of_mem {t : Text} {c : Char} (hmem : c ∈ t) (hc : isBlank c = false) :
    isBlankText t = false := by
  rw [Bool.eq_false_iff]
  exact fun hblank => not_mem_of_blank (List.all_eq_true.mp hblank) hc hmem

theorem exists_eq_append_trim (t : Text) :
    ∃ lead tail, t = lead ++ trim t ++ tail ∧
      (∀ c ∈ lead, isBlank c = true) ∧ (∀ c ∈ tail, isBlank c = true) := by
  refine ⟨t.takeWhile isBlank, ((trimStart t).reverse.takeWhile isBlank).reverse, ?_,
    fun c hc => List.mem_takeWhile_imp hc, ?_⟩
  · have hend :
        trim t ++ ((trimStart t).reverse.takeWhile isBlank).reverse = trimStart t := by
      have hsplit :
          ((trimStart t).reverse.takeWhile isBlank
            ++ (trimStart t).reverse.dropWhile isBlank).reverse = trimStart t := by
        rw [List.takeWhile_append_dropWhile, List.reverse_reverse]
      rw [List.reverse_append] at hsplit
      exact hsplit
    rw [List.append_assoc, hend, takeWhile_append_trimStart]
  · intro c hc
    exact List.mem_takeWhile_imp (List.mem_reverse.mp hc)

/-! ## Blanks at the ends -/

theorem trim_append_of_blank_left
    {lead : Text} (h : ∀ c ∈ lead, isBlank c = true) (t : Text) :
    trim (lead ++ t) = trim t := by
  unfold trim trimStart
  rw [List.dropWhile_append_of_pos h]

theorem trimEnd_append_of_blank
    {tail : Text} (h : ∀ c ∈ tail, isBlank c = true) (t : Text) :
    trimEnd (t ++ tail) = trimEnd t := by
  have hreverse : ∀ c ∈ tail.reverse, isBlank c = true := fun c hc =>
    h c (List.mem_reverse.mp hc)
  unfold trimEnd
  rw [List.reverse_append, List.dropWhile_append_of_pos hreverse]

theorem trim_append_of_blank_right
    {tail : Text} (h : ∀ c ∈ tail, isBlank c = true) (t : Text) :
    trim (t ++ tail) = trim t := by
  have htail : tail.dropWhile isBlank = [] := by
    simpa using @List.dropWhile_append_of_pos Char isBlank tail [] h
  unfold trim trimStart
  rw [List.dropWhile_append]
  by_cases hnil : (t.dropWhile isBlank).isEmpty = true
  · rw [if_pos hnil, htail, List.isEmpty_iff.mp hnil]
  · rw [if_neg hnil, trimEnd_append_of_blank h]

theorem trim_trim (t : Text) : trim (trim t) = trim t := by
  obtain ⟨lead, tail, heq, hlead, htail⟩ := exists_eq_append_trim t
  have hback : trim t = trim (lead ++ trim t ++ tail) := congrArg trim heq
  rw [trim_append_of_blank_right htail, trim_append_of_blank_left hlead] at hback
  exact hback.symm

theorem trim_eq_nil_iff (t : Text) : trim t = [] ↔ isBlankText t = true := by
  constructor
  · intro hnil
    obtain ⟨lead, tail, heq, hlead, htail⟩ := exists_eq_append_trim t
    rw [hnil, List.append_nil] at heq
    rw [heq]
    simpa [isBlankText] using ⟨hlead, htail⟩
  · intro hblank
    have hall : ∀ c ∈ t, isBlank c = true := by
      simpa [isBlankText] using hblank
    have hnil : trim (t ++ []) = trim [] := trim_append_of_blank_left hall []
    rw [List.append_nil] at hnil
    exact hnil

theorem mem_of_mem_trim {c : Char} {t : Text} (h : c ∈ trim t) : c ∈ t := by
  obtain ⟨lead, tail, heq, -, -⟩ := exists_eq_append_trim t
  rw [heq]
  simp [h]

/-- Trimming loses no character that is no blank. -/
theorem count_trim {c : Char} (h : isBlank c = false) (t : Text) :
    (trim t).count c = t.count c := by
  obtain ⟨lead, tail, heq, hlead, htail⟩ := exists_eq_append_trim t
  have hnone : ∀ {gap : Text}, (∀ b ∈ gap, isBlank b = true) → gap.count c = 0 := fun hgap =>
    List.count_eq_zero_of_not_mem (not_mem_of_blank hgap h)
  have hcount := congrArg (List.count c) heq
  rw [List.count_append, List.count_append, hnone hlead, hnone htail] at hcount
  omega

/-- A text grows in its trimmed form unless nothing but blanks is added. -/
theorem trim_append_eq_iff (s t : Text) : trim (s ++ t) = trim s ↔ ∀ c ∈ t, isBlank c = true := by
  refine ⟨fun heq c hmem => ?_, fun hblank => trim_append_of_blank_right hblank s⟩
  cases hc : isBlank c with
  | true => rfl
  | false =>
      have hcount : (s ++ t).count c = s.count c := by
        rw [← count_trim hc, heq, count_trim hc]
      have hpos : 0 < t.count c := List.count_pos_iff.mpr hmem
      rw [List.count_append] at hcount
      omega

/-- A text that begins with no blank loses blanks at its end only. -/
theorem exists_eq_trim_append {t : Text} (h : ∀ c ∈ t.head?, isBlank c = false) :
    ∃ tail, t = trim t ++ tail ∧ ∀ c ∈ tail, isBlank c = true := by
  obtain ⟨lead, tail, heq, hlead, htail⟩ := exists_eq_append_trim t
  cases lead with
  | nil => exact ⟨tail, heq, htail⟩
  | cons d more =>
      have hd : d ∈ t.head? := by
        rw [heq]
        rfl
      have hblank := hlead d List.mem_cons_self
      rw [h d hd] at hblank
      cases hblank

/-- A character that is no blank does not stand in a run of blanks at the end. -/
theorem prefix_of_append_blank {front t tail : Text} {d : Char} (hd : isBlank d = false)
    (htail : ∀ c ∈ tail, isBlank c = true) (h : front ++ [d] <+: t ++ tail) :
    front ++ [d] <+: t := by
  obtain ⟨rest, hrest⟩ := h
  rcases List.append_eq_append_iff.mp hrest with ⟨more, hkept, -⟩ | ⟨more, hfront, hend⟩
  · exact ⟨more, hkept.symm⟩
  · cases hlast : more.getLast? with
    | none =>
        rw [List.getLast?_eq_none_iff.mp hlast, List.append_nil] at hfront
        exact ⟨[], (List.append_nil _).trans hfront⟩
    | some e =>
        have hde : d = e := by
          have hsame := congrArg List.getLast? hfront
          rw [List.getLast?_append, List.getLast?_append, hlast] at hsame
          simpa using hsame
        have hmem : e ∈ tail := by
          rw [hend]
          exact List.mem_append_left rest (List.mem_of_getLast? hlast)
        rw [← hde] at hmem
        exact absurd hmem (not_mem_of_blank htail hd)

/-- A text that begins with no blank is kept up to any character that is no blank. -/
theorem prefix_trim {front t : Text} {d : Char} (ht : ∀ c ∈ t.head?, isBlank c = false)
    (hd : isBlank d = false) (h : front ++ [d] <+: t) : front ++ [d] <+: trim t := by
  obtain ⟨tail, heq, htail⟩ := exists_eq_trim_append ht
  rw [heq] at h
  exact prefix_of_append_blank hd htail h

/-- A text that begins with no blank keeps its first character. -/
theorem trim_cons_of_solid {c : Char} (h : isBlank c = false) (rest : Text) :
    ∃ more, trim (c :: rest) = c :: more := by
  have hsolid : ∀ d ∈ (c :: rest).head?, isBlank d = false := fun d hd =>
    (Option.some.inj hd) ▸ h
  obtain ⟨tail, heq, -⟩ := exists_eq_trim_append hsolid
  cases htrim : trim (c :: rest) with
  | nil =>
      have hblank := (trim_eq_nil_iff _).mp htrim
      simp [isBlankText, h] at hblank
  | cons d more =>
      rw [htrim] at heq
      exact ⟨more, by rw [(List.cons_eq_cons.mp heq).1]⟩

/-- A text is trimmed if it begins and ends with no blank. -/
theorem trim_eq_self_iff (t : Text) :
    trim t = t ↔ (∀ c ∈ t.head?, isBlank c = false) ∧ ∀ c ∈ t.getLast?, isBlank c = false := by
  constructor
  · intro htrim
    -- A blank at an end would be missing in the trimmed text.
    refine ⟨fun c hc => ?_, fun c hc => ?_⟩
    · obtain ⟨rest, rfl⟩ := List.head?_eq_some_iff.mp hc
      cases hblank : isBlank c with
      | false => rfl
      | true =>
          have hshort : trim ([c] ++ rest) = trim rest :=
            trim_append_of_blank_left (by simpa using hblank) rest
          obtain ⟨lead, tail, heq, -, -⟩ := exists_eq_append_trim rest
          rw [← hshort, List.singleton_append, htrim] at heq
          have hlength := congrArg List.length heq
          simp only [List.length_append, List.length_cons] at hlength
          omega
    · obtain ⟨front, rfl⟩ := List.getLast?_eq_some_iff.mp hc
      cases hblank : isBlank c with
      | false => rfl
      | true =>
          have hshort : trim (front ++ [c]) = trim front :=
            trim_append_of_blank_right (by simpa using hblank) front
          obtain ⟨lead, tail, heq, -, -⟩ := exists_eq_append_trim front
          rw [← hshort, htrim] at heq
          have hlength := congrArg List.length heq
          simp only [List.length_append, List.length_cons] at hlength
          omega
  · rintro ⟨hfirst, hlast⟩
    have hstart : trimStart t = t := by
      cases t with
      | nil => rfl
      | cons c rest => simp [trimStart, hfirst c rfl]
    have hend : t.reverse.dropWhile isBlank = t.reverse := by
      cases hreverse : t.reverse with
      | nil => rfl
      | cons c rest =>
          have hc : c ∈ t.getLast? := by
            rw [← List.head?_reverse, hreverse]
            rfl
          simp [hlast c hc]
    rw [trim, hstart, trimEnd, hend, List.reverse_reverse]

end DumpConvert.Text
