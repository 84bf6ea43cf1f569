import DumpConvert.Text.Blank
import Mathlib.Algebra.Group.Nat.Defs
import Mathlib.Data.Nat.Basic

/-!
# Numerals that are read back

A decimal numeral consists of digits and has the value it was written for
(`digitsValue_decimal`), so it is read back wherever the width allows it
(`uint32?_decimal`).  So is every other string of digits (`int64?_of_isDigits`).

A numeral that fits its width has exactly that many digits (`length_paddedDecimal`) and keeps
its value (`digitsValue_paddedDecimal`).  Numerals of the same length are ordered as their
values (`lt_iff_digitsValue_lt`), so texts that begin with numerals of the same width are
ordered by these first (`paddedDecimal_append_lt_iff`).
-/

namespace DumpConvert.Text

theorem toNat_of_isDigit {c : Char} (h : c.isDigit = true) : 48 ≤ c.toNat ∧ c.toNat ≤ 57 := by
  simpa [Char.isDigit, UInt32.le_iff_toNat_le] using h

theorem isBlank_eq_false_of_isDigit {c : Char} (h : c.isDigit = true) : isBlank c = false := by
  have hrange := toNat_of_isDigit h
  have htab : ¬ c.toNat ≤ 0x000D := by omega
  have hspace : ¬ c.toNat ≤ 0x0020 := by omega
  have hlater : c.toNat < 0x0085 := by omega
  simp [isBlank, blankRanges, CodeRanges.holds, htab, hspace, hlater]

theorem isDigit_of_mem_decimal {n : Nat} {c : Char} (h : c ∈ decimal n) : c.isDigit = true := by
  exact Nat.isDigit_of_mem_toDigits (by decide) (by decide) h

theorem isDigit_of_mem_paddedDecimal {width n : Nat} {c : Char}
    (h : c ∈ paddedDecimal width n) : c.isDigit = true := by
  rcases List.mem_append.mp h with hzero | hdigit
  · rw [List.eq_of_mem_replicate hzero]
    rfl
  · exact isDigit_of_mem_decimal hdigit

theorem isDigits_decimal (n : Nat) : isDigits (decimal n) = true := by
  have hsome : (decimal n).isEmpty = false :=
    List.isEmpty_eq_false_iff.mpr Nat.toDigits_ne_nil
  have hall : (decimal n).all Char.isDigit = true :=
    List.all_eq_true.mpr fun _ hc => isDigit_of_mem_decimal hc
  rw [isDigits, hsome, hall]
  rfl

theorem digitsValue_decimal (n : Nat) : digitsValue (decimal n) = n := by
  exact Nat.ofDigitChars_toDigits (by decide) (by decide)

theorem natural?_of_isDigits {t : Text} (h : isDigits t = true) :
    natural? t = some (digitsValue t) :=
  if_pos h

theorem natural?_decimal (n : Nat) : natural? (decimal n) = some n := by
  rw [natural?_of_isDigits (isDigits_decimal n), digitsValue_decimal]

theorem uint32?_decimal {n : Nat} (h : n < Nat.pow 2 32) : uint32? (decimal n) = some n := by
  have hunsigned : ∀ digits, decimal n ≠ '+' :: digits := by
    intro digits heq
    have hplus : '+' ∈ decimal n := heq ▸ List.mem_cons_self
    exact absurd (isDigit_of_mem_decimal hplus) (by decide)
  unfold uint32?
  split
  · rename_i digits heq
    exact absurd heq (hunsigned digits)
  · rw [natural?_decimal]
    exact if_pos (decide_eq_true h)

/-- A string of digits has no sign, and its value is read if the width allows it. -/
theorem int64?_of_isDigits {t : Text} (h : isDigits t = true) :
    int64? t = if digitsValue t < int64Half then some (digitsValue t : Int) else none := by
  have hdigit : ∀ c ∈ t, c.isDigit = true := by
    rw [isDigits, Bool.and_eq_true] at h
    exact List.all_eq_true.mp h.2
  unfold int64?
  split
  · exact absurd (hdigit '-' List.mem_cons_self) (by decide)
  · exact absurd (hdigit '+' List.mem_cons_self) (by decide)
  · have hlow : -(int64Half : Int) ≤ digitsValue t := by omega
    rw [natural?_of_isDigits h]
    simp [Option.filter, hlow]

/-! ## Texts of the same length -/

/-- Behind parts of the same length nothing matters unless the parts are equal. -/
theorem append_lt_append_iff {s t a b : Text} (h : s.length = t.length) :
    s ++ a < t ++ b ↔ s < t ∨ s = t ∧ a < b := by
  induction s generalizing t with
  | nil =>
      obtain rfl : t = [] := List.length_eq_zero_iff.mp h.symm
      simp
  | cons c rest ih =>
      obtain ⟨d, more, rfl⟩ := List.exists_cons_of_length_eq_add_one h.symm
      have hlength : rest.length = more.length := Nat.succ.inj h
      rw [List.cons_append, List.cons_append, List.cons_lt_cons_iff, List.cons_lt_cons_iff,
        ih hlength, List.cons_eq_cons, and_or_left, or_assoc, and_assoc]

/-! ## The value of a digit string -/

theorem digitsValue_cons (c : Char) (t : Text) :
    digitsValue (c :: t) = 10 ^ t.length * (c.toNat - 48) + digitsValue t := by
  have hfirst : digitsValue (c :: t) = Nat.ofDigitChars 10 t (0 + (c.toNat - 48)) := rfl
  rw [hfirst, Nat.ofDigitChars_eq_ofDigitChars_zero, Nat.zero_add]
  rfl

theorem digitsValue_lt {t : Text} (h : ∀ c ∈ t, c.isDigit = true) :
    digitsValue t < 10 ^ t.length := by
  induction t with
  | nil => exact Nat.one_pos
  | cons c rest ih =>
      obtain ⟨hc, hrest⟩ := List.forall_mem_cons.mp h
      have hdigit : c.toNat - 48 ≤ 9 := by
        have hrange := toNat_of_isDigit hc
        omega
      have hfirst := Nat.mul_le_mul_left (10 ^ rest.length) hdigit
      have hlater := ih hrest
      rw [digitsValue_cons, List.length_cons, Nat.pow_succ]
      omega

/-- What stays below a unit decides only between equal numbers of units. -/
theorem mul_add_lt_iff {unit a b r s : Nat} (hr : r < unit) (hs : s < unit) :
    unit * a + r < unit * b + s ↔ a < b ∨ a = b ∧ r < s := by
  have hstep : ∀ {n m : Nat}, n < m → unit * n + unit ≤ unit * m := fun h =>
    Nat.mul_le_mul_left unit (Nat.succ_le_of_lt h)
  rcases Nat.lt_trichotomy a b with hlt | rfl | hgt
  · have hunit := hstep hlt
    exact iff_of_true (by omega) (.inl hlt)
  · rw [Nat.add_lt_add_iff_left, or_iff_right (Nat.lt_irrefl a), and_iff_right rfl]
  · have hunit := hstep hgt
    exact iff_of_false (by omega) (by omega)

theorem lt_iff_digitsValue_lt {s t : Text} (hs : ∀ c ∈ s, c.isDigit = true)
    (ht : ∀ c ∈ t, c.isDigit = true) (h : s.length = t.length) :
    s < t ↔ digitsValue s < digitsValue t := by
  induction s generalizing t with
  | nil =>
      obtain rfl : t = [] := List.length_eq_zero_iff.mp h.symm
      simp
  | cons c rest ih =>
      obtain ⟨d, more, rfl⟩ := List.exists_cons_of_length_eq_add_one h.symm
      obtain ⟨hc, hrest⟩ := List.forall_mem_cons.mp hs
      obtain ⟨hd, hmore⟩ := List.forall_mem_cons.mp ht
      have hlength : rest.length = more.length := Nat.succ.inj h
      have hcrange := toNat_of_isDigit hc
      have hdrange := toNat_of_isDigit hd
      have hless : c < d ↔ c.toNat - 48 < d.toNat - 48 := by
        have hcode : c < d ↔ c.toNat < d.toNat := Iff.rfl
        rw [hcode]
        omega
      have hsame : c = d ↔ c.toNat - 48 = d.toNat - 48 := by
        rw [← Char.toNat_inj]
        omega
      have hbelow := digitsValue_lt hrest
      rw [hlength] at hbelow
      rw [List.cons_lt_cons_iff, ih hrest hmore hlength, digitsValue_cons, digitsValue_cons,
        hlength, mul_add_lt_iff hbelow (digitsValue_lt hmore), hless, hsame]

/-! ## Padded numerals -/

theorem length_paddedDecimal {width n : Nat} (hwidth : 0 < width) (h : n < 10 ^ width) :
    (paddedDecimal width n).length = width := by
  have hfits : (decimal n).length ≤ width := (Nat.length_toDigits_le_iff (by decide) hwidth).mpr h
  rw [paddedDecimal, List.length_append, List.length_replicate]
  omega

theorem digitsValue_paddedDecimal (width n : Nat) : digitsValue (paddedDecimal width n) = n := by
  have hzeros : digitsValue (List.replicate (width - (decimal n).length) '0') = 0 := by
    exact Nat.ofDigitChars_replicate_zero
  have happend : digitsValue (paddedDecimal width n) =
      Nat.ofDigitChars 10 (decimal n)
        (digitsValue (List.replicate (width - (decimal n).length) '0')) :=
    Nat.ofDigitChars_append 0
  rw [happend, hzeros]
  exact digitsValue_decimal n

/-- Numerals of one width are ordered as their values, and texts that begin with them so too. -/
theorem paddedDecimal_append_lt_iff {width n m : Nat} (hwidth : 0 < width)
    (hn : n < 10 ^ width) (hm : m < 10 ^ width) (a b : Text) :
    paddedDecimal width n ++ a < paddedDecimal width m ++ b ↔ n < m ∨ n = m ∧ a < b := by
  have hlength : (paddedDecimal width n).length = (paddedDecimal width m).length := by
    rw [length_paddedDecimal hwidth hn, length_paddedDecimal hwidth hm]
  have hsame : paddedDecimal width n = paddedDecimal width m ↔ n = m := by
    refine ⟨fun heq => ?_, fun heq => heq ▸ rfl⟩
    rw [← digitsValue_paddedDecimal width n, heq, digitsValue_paddedDecimal]
  rw [append_lt_append_iff hlength, hsame,
    lt_iff_digitsValue_lt (fun _ => isDigit_of_mem_paddedDecimal)
      (fun _ => isDigit_of_mem_paddedDecimal) hlength,
    digitsValue_paddedDecimal, digitsValue_paddedDecimal]

end DumpConvert.Text
