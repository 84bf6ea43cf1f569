import DumpConvert.Json.Token
import DumpConvert.Proofs.Json.Quoted
import DumpConvert.Proofs.Text.Scanning

/-!
# Numbers that are read

A number ends only where what follows it cannot belong to it (`EndsToken`).  So a natural
number is read as a whole (`readNumber_append`), and a number that nobody asks for is passed
over as a whole, however large it is (`skipNumber_append`).
-/

namespace DumpConvert.Json

/-! ## Where a token ends -/

/-- No number goes on with this text: it is at its end, or a space or a mark follows. -/
def EndsToken (t : Text) : Prop :=
  ∀ c ∈ t.head?, isSpace c = true ∨ c = ',' ∨ c = ']' ∨ c = '}'

theorem endsToken_of_isSpacing {gap t : Text} (hgap : IsSpacing gap) (ht : EndsToken t) :
    EndsToken (gap ++ t) := by
  cases gap with
  | nil => exact ht
  | cons c more =>
      intro d hd
      obtain rfl : c = d := Option.some.inj hd
      exact .inl (isSpace_of_isSpacing hgap c List.mem_cons_self)

/-- A token ends before the comma or the closing character of a frame. -/
theorem endsToken_mark {gap : Text} (hgap : IsSpacing gap) {c : Char}
    (hc : c = ',' ∨ c = ']' ∨ c = '}') (rest : Text) : EndsToken (gap ++ c :: rest) := by
  exact endsToken_of_isSpacing hgap (Text.forall_mem_head?_cons (.inr hc) rest)

def continuesNumber (c : Char) : Bool :=
  c.isDigit || c == '.' || c == 'e' || c == 'E'

theorem EndsToken.not_continuesNumber {t : Text} (h : EndsToken t) :
    ∀ c ∈ t.head?, continuesNumber c = false := by
  intro c hc
  rcases h c hc with hspace | rfl | rfl | rfl
  · rcases eq_of_isSpace hspace with rfl | rfl | rfl | rfl <;> decide
  all_goals decide

theorem EndsToken.not_isDigit {t : Text} (h : EndsToken t) :
    ∀ c ∈ t.head?, c.isDigit = false := by
  intro c hc
  have hstop := h.not_continuesNumber c hc
  simp only [continuesNumber, Bool.or_eq_false_iff] at hstop
  exact hstop.1.1.1

/-! ## Digits -/

section Digits

variable {run rest : Text}

theorem IsDigitRun.exists_cons (h : IsDigitRun run) :
    ∃ c more, run = c :: more ∧ c.isDigit = true := by
  obtain ⟨hne, hdigits⟩ := h
  obtain ⟨c, more, rfl⟩ := List.exists_cons_of_ne_nil hne
  exact ⟨c, more, rfl, hdigits c List.mem_cons_self⟩

theorem wholeDigits_append (h : IsWhole run) (hrest : ∀ c ∈ rest.head?, c.isDigit = false) :
    wholeDigits (run ++ rest) = .ok (run, rest) := by
  obtain ⟨⟨hne, hdigits⟩, hzero⟩ := h
  obtain ⟨c, more, rfl⟩ := List.exists_cons_of_ne_nil hne
  by_cases hc : c = '0'
  · subst hc
    obtain rfl : more = [] := (List.cons_eq_cons.mp (hzero rfl)).2
    simp [wholeDigits, Text.takeWhile_eq_nil hrest]
  · obtain ⟨hdigit, hmore⟩ := List.forall_mem_cons.mp hdigits
    rw [List.cons_append, wholeDigits, if_pos hdigit, Text.takeWhile_append hmore hrest,
      Text.dropWhile_append hmore hrest]
    exact hc

theorem skipDigits_append (h : IsDigitRun run) (hrest : ∀ c ∈ rest.head?, c.isDigit = false) :
    skipDigits (run ++ rest) = .ok rest := by
  have hne : run.isEmpty = false := by simpa using h.1
  rw [skipDigits, Text.takeWhile_append h.2 hrest, Text.dropWhile_append h.2 hrest, hne]
  rfl

end Digits

/-! ## Numbers that are read -/

/-- Digits only make a number larger. -/
theorem le_foldl_digit (run : Text) (n : Nat) :
    n ≤ run.foldl (fun value c => 10 * value + (c.toNat - 48)) n := by
  induction run generalizing n with
  | nil => exact Nat.le_refl n
  | cons c rest ih =>
      have hgrows := ih (10 * n + (c.toNat - 48))
      rw [List.foldl_cons]
      omega

/-- A number below the limit is absorbed whole. -/
theorem absorb_of_lt {run : Text} {n : Nat}
    (h : run.foldl (fun value c => 10 * value + (c.toNat - 48)) n < wordLimit) :
    absorb n run = (run.foldl (fun value c => 10 * value + (c.toNat - 48)) n, []) := by
  induction run generalizing n with
  | nil => rfl
  | cons c rest ih =>
      have hnext : 10 * n + (c.toNat - 48) < wordLimit :=
        Nat.lt_of_le_of_lt (le_foldl_digit rest _) h
      rw [absorb, if_pos hnext, ih h]
      rfl

theorem afterDigits_of_endsToken {run rest : Text} (hlimit : Text.digitsValue run < wordLimit)
    (hrest : EndsToken rest) :
    afterDigits false run rest = .ok (.natural (Text.digitsValue run), rest) := by
  have habsorb : absorb 0 run = (Text.digitsValue run, []) := absorb_of_lt hlimit
  have hstop := hrest.not_continuesNumber
  simp only [afterDigits, habsorb]
  split
  · exact absurd (hstop '.' rfl) (by decide)
  · exact absurd (hstop 'e' rfl) (by decide)
  · exact absurd (hstop 'E' rfl) (by decide)
  · rfl

theorem isSpace_eq_false_of_isDigit {c : Char} (h : c.isDigit = true) : isSpace c = false := by
  refine Bool.eq_false_iff.mpr fun hspace => ?_
  rcases eq_of_isSpace hspace with rfl | rfl | rfl | rfl <;> cases h

theorem readNumber_append {n : Nat} {t rest : Text} (h : SpellsNatural n t)
    (hrest : EndsToken rest) : readNumber (t ++ rest) = .ok (.natural n, rest) := by
  obtain ⟨hwhole, hvalue, hlimit⟩ := h
  have hbelow : Text.digitsValue t < wordLimit := by
    rw [hvalue]
    exact hlimit
  have hsplit := wholeDigits_append hwhole hrest.not_isDigit
  obtain ⟨c, more, rfl, hdigit⟩ := hwhole.1.exists_cons
  have hread : readNumber (c :: more ++ rest) = afterDigits false (c :: more) rest := by
    unfold readNumber
    split
    · rename_i heq
      obtain rfl : c = '-' := (List.cons_eq_cons.mp heq).1
      cases hdigit
    · rw [hsplit]
      rfl
  rw [hread, afterDigits_of_endsToken hbelow hrest, hvalue]

/-! ## Numbers that are passed over -/

/-- An exponent begins with neither a digit nor a point, and so does what ends the token. -/
theorem head?_exponent_append {t rest : Text} (h : IsExponent t) (hrest : EndsToken rest) :
    ∀ c ∈ (t ++ rest).head?, c.isDigit = false ∧ c ≠ '.' := by
  rcases h with rfl | ⟨letter, sign, digits, hletter, -, -, rfl⟩
  · intro c hc
    refine ⟨hrest.not_isDigit c hc, ?_⟩
    rintro rfl
    exact absurd (hrest.not_continuesNumber '.' hc) (by decide)
  · refine Text.forall_mem_head?_cons ?_ _
    rcases hletter with rfl | rfl <;> decide

/-- The first digit of a run is no sign. -/
theorem skipSigned_append {sign digits rest : Text}
    (hsign : sign = [] ∨ sign = ['+'] ∨ sign = ['-']) (hdigits : IsDigitRun digits) :
    (match sign ++ (digits ++ rest) with
      | '+' :: more => skipDigits more
      | '-' :: more => skipDigits more
      | more => skipDigits more) = skipDigits (digits ++ rest) := by
  rcases hsign with rfl | rfl | rfl
  · obtain ⟨c, more, rfl, hdigit⟩ := hdigits.exists_cons
    rw [List.nil_append]
    split
    · rename_i heq
      obtain rfl : c = '+' := (List.cons_eq_cons.mp heq).1
      cases hdigit
    · rename_i heq
      obtain rfl : c = '-' := (List.cons_eq_cons.mp heq).1
      cases hdigit
    · rfl
  · rfl
  · rfl

theorem skipExponent_append {t rest : Text} (h : IsExponent t) (hrest : EndsToken rest) :
    skipExponent (t ++ rest) = .ok rest := by
  rcases h with rfl | ⟨letter, sign, digits, hletter, hsign, hdigits, rfl⟩
  · rw [List.nil_append]
    cases rest with
    | nil => rfl
    | cons c more =>
        have hletter : ¬ (c = 'e' ∨ c = 'E') := by
          rintro (rfl | rfl) <;> exact absurd (hrest.not_continuesNumber _ rfl) (by decide)
        unfold skipExponent
        exact if_neg hletter
  · rw [List.cons_append, List.append_assoc]
    unfold skipExponent
    refine (if_pos hletter).trans ?_
    exact (skipSigned_append hsign hdigits).trans (skipDigits_append hdigits hrest.not_isDigit)

/-- A minus sign in front does not change where the number ends. -/
theorem skipNumber_sign {sign t : Text} (hsign : sign = [] ∨ sign = ['-'])
    (ht : ∀ c ∈ t.head?, c ≠ '-') : skipNumber (sign ++ t) = skipNumber t := by
  rcases hsign with rfl | rfl
  · rfl
  · cases t with
    | nil => rfl
    | cons c more =>
        have hc : c ≠ '-' := ht c rfl
        simp [skipNumber, hc]

section Parts

variable {t run rest : Text} (ht : ∀ c ∈ t.head?, c ≠ '-')
include ht

theorem skipNumber_point (h : wholeDigits t = .ok (run, '.' :: rest)) :
    skipNumber t = skipDigits rest >>= skipExponent := by
  cases t with
  | nil => cases h
  | cons c more =>
      have hc : c ≠ '-' := ht c rfl
      simp [skipNumber, hc, h]

theorem skipNumber_noPoint (h : wholeDigits t = .ok (run, rest))
    (hrest : ∀ c ∈ rest.head?, c ≠ '.') : skipNumber t = skipExponent rest := by
  cases t with
  | nil => cases h
  | cons c more =>
      have hc : c ≠ '-' := ht c rfl
      cases rest with
      | nil => simp [skipNumber, hc, h]
      | cons d after =>
          have hd : d ≠ '.' := hrest d rfl
          simp [skipNumber, hc, h, hd]

end Parts

theorem skipNumber_append {t rest : Text} (h : IsNumber t) (hrest : EndsToken rest) :
    skipNumber (t ++ rest) = .ok rest := by
  cases h with
  | @parts sign whole fraction exponent hsign hwhole hfraction hexponent =>
      have hhead : ∀ more, ∀ c ∈ (whole ++ more).head?, c ≠ '-' := by
        obtain ⟨c, digits, rfl, hdigit⟩ := hwhole.1.exists_cons
        intro more
        refine Text.forall_mem_head?_cons ?_ _
        rintro rfl
        cases hdigit
      have hstop := head?_exponent_append hexponent hrest
      simp only [List.append_assoc]
      rw [skipNumber_sign hsign (hhead _)]
      rcases hfraction with rfl | ⟨digits, hdigits, rfl⟩
      · have hsplit := wholeDigits_append hwhole (fun c hc => (hstop c hc).1)
        rw [List.nil_append, skipNumber_noPoint (hhead _) hsplit (fun c hc => (hstop c hc).2)]
        exact skipExponent_append hexponent hrest
      · have hsplit : wholeDigits (whole ++ '.' :: (digits ++ (exponent ++ rest))) =
            .ok (whole, '.' :: (digits ++ (exponent ++ rest))) :=
          wholeDigits_append hwhole (Text.forall_mem_head?_cons (by decide) _)
        rw [List.cons_append, skipNumber_point (hhead _) hsplit,
          skipDigits_append hdigits (fun c hc => (hstop c hc).1)]
        exact skipExponent_append hexponent hrest

end DumpConvert.Json
