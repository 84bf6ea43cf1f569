import DumpConvert.Proofs.Text.Trimming
import Mathlib.Data.List.TakeDrop

/-!
# Where a scan stops

A scan that takes characters of one kind ends before the first character of another kind,
so it takes a text of that kind whole when such a character follows
(`takeWhile_append`, `dropWhile_append`).  A text is cut at the last occurrence of a
character in one way only (`splitAtLast?_eq_some_iff`).
-/

namespace DumpConvert.Text

variable {p : Char → Bool} {s t : Text}

/-! ## Runs of characters -/

theorem takeWhile_eq_nil (h : ∀ c ∈ t.head?, p c = false) : t.takeWhile p = [] := by
  cases t with
  | nil => rfl
  | cons c rest =>
      have hc : p c = false := h c rfl
      simp [hc]

theorem dropWhile_eq_self (h : ∀ c ∈ t.head?, p c = false) : t.dropWhile p = t := by
  cases t with
  | nil => rfl
  | cons c rest =>
      have hc : p c = false := h c rfl
      simp [hc]

/-- What is taken is decided before a character that stops the scan. -/
theorem takeWhile_append_of_stop (h : ∀ c ∈ t.head?, p c = false) :
    (s ++ t).takeWhile p = s.takeWhile p := by
  induction s with
  | nil => exact takeWhile_eq_nil h
  | cons c rest ih =>
      rw [List.cons_append, List.takeWhile_cons, List.takeWhile_cons, ih]

theorem takeWhile_append (hs : ∀ c ∈ s, p c = true) (ht : ∀ c ∈ t.head?, p c = false) :
    (s ++ t).takeWhile p = s := by
  rw [List.takeWhile_append_of_pos hs, takeWhile_eq_nil ht, List.append_nil]

theorem dropWhile_append (hs : ∀ c ∈ s, p c = true) (ht : ∀ c ∈ t.head?, p c = false) :
    (s ++ t).dropWhile p = t := by
  rw [List.dropWhile_append_of_pos hs, dropWhile_eq_self ht]

theorem mem_head?_dropWhile {c : Char} (h : c ∈ (t.dropWhile p).head?) : p c = false := by
  have hstop := List.head?_dropWhile_not p t
  rw [Option.mem_def.mp h] at hstop
  simpa using hstop

/-- What a text begins with is its first character, whatever follows. -/
theorem forall_mem_head?_cons {P : Char → Prop} {c : Char} (h : P c) (rest : Text) :
    ∀ d ∈ (c :: rest).head?, P d := by
  intro d hd
  rw [← Option.some.inj hd]
  exact h

theorem trimStart_append_cons {gap : Text} (hgap : ∀ c ∈ gap, isBlank c = true) {c : Char}
    (hc : isBlank c = false) (rest : Text) : trimStart (gap ++ c :: rest) = c :: rest := by
  exact dropWhile_append hgap (forall_mem_head?_cons hc rest)

/-! ## The last occurrence of a character -/

/-- A text is split at the occurrence of a character that no other one follows. -/
theorem splitAtLast?_append {c : Char} {after : Text} (h : c ∉ after) (before : Text) :
    splitAtLast? c (before ++ c :: after) = some (before, after) := by
  have hne : ∀ d ∈ after.reverse, (fun x => decide (x ≠ c)) d = true := by
    intro d hd
    have hdc : d ≠ c := by
      rintro rfl
      exact h (List.mem_reverse.mp hd)
    simpa using hdc
  have hreverse : (before ++ c :: after).reverse = after.reverse ++ c :: before.reverse := by
    simp
  rw [splitAtLast?, hreverse, List.span_eq_takeWhile_dropWhile,
    List.takeWhile_append_of_pos hne, List.dropWhile_append_of_pos hne]
  simp

theorem splitAtLast?_eq_some_iff {c : Char} {before after : Text} :
    splitAtLast? c t = some (before, after) ↔ t = before ++ c :: after ∧ c ∉ after := by
  constructor
  · intro h
    unfold splitAtLast? at h
    rw [List.span_eq_takeWhile_dropWhile] at h
    cases hstop : t.reverse.dropWhile (· ≠ c) with
    | nil =>
        rw [hstop] at h
        cases h
    | cons d front =>
        rw [hstop] at h
        cases h
        have hd : d = c := by
          have hhead : d ∈ (t.reverse.dropWhile (· ≠ c)).head? := by
            rw [hstop]
            rfl
          simpa using mem_head?_dropWhile hhead
        have hwhole : t.reverse = t.reverse.takeWhile (· ≠ c) ++ c :: front := by
          rw [hd] at hstop
          rw [← hstop, List.takeWhile_append_dropWhile]
        refine ⟨?_, ?_⟩
        · have hback := congrArg List.reverse hwhole
          simpa using hback
        · intro hmem
          have htaken := List.mem_takeWhile_imp (List.mem_reverse.mp hmem)
          simp at htaken
  · rintro ⟨rfl, hlast⟩
    exact splitAtLast?_append hlast before

end DumpConvert.Text
