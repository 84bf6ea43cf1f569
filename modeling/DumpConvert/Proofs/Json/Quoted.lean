import DumpConvert.Json.Token
import DumpConvert.Proofs.Json.Grammar

/-!
# Strings that are read

A string is read up to its closing quote character, whatever follows it.  Every spelling of
a text is read as this text (`stringBody_append`), and a string that nobody asks for is
passed over even if its code units do not pair up (`skipStringBody_append`).  The spacing
before a token makes no difference (`skipSpace_append`).
-/

namespace DumpConvert.Json

/-! ## Spacing -/

theorem isSpace_of_isSpacing {gap : Text} (h : IsSpacing gap) : ∀ c ∈ gap, isSpace c = true := by
  intro c hc
  rcases h c hc with rfl | rfl | rfl | rfl <;> decide

theorem eq_of_isSpace {c : Char} (h : isSpace c = true) :
    c = ' ' ∨ c = '\n' ∨ c = '\t' ∨ c = '\r' := by
  simpa [isSpace, or_assoc] using h

theorem skipSpace_append {gap : Text} (h : IsSpacing gap) (t : Text) :
    skipSpace (gap ++ t) = skipSpace t := by
  exact List.dropWhile_append_of_pos (isSpace_of_isSpacing h)

theorem skipSpace_cons {c : Char} (h : isSpace c = false) (t : Text) :
    skipSpace (c :: t) = c :: t := by
  exact List.dropWhile_cons_of_neg (by simp [h])

theorem skipSpace_append_cons {gap : Text} (hgap : IsSpacing gap) {c : Char}
    (hc : isSpace c = false) (t : Text) : skipSpace (gap ++ c :: t) = c :: t := by
  rw [skipSpace_append hgap, skipSpace_cons hc]

theorem skipSpace_eq_nil {gap : Text} (h : IsSpacing gap) : skipSpace gap = [] := by
  have hskip := skipSpace_append h []
  rw [List.append_nil] at hskip
  exact hskip

theorem expectColon_append {before : Text} (h : IsSpacing before) (t : Text) :
    expectColon (before ++ ':' :: t) = .ok t := by
  rw [expectColon, skipSpace_append_cons h (by decide)]
  rfl

/-! ## Steps through a string -/

section Steps

variable {strict : Bool} {state next : StringState} {done rest : Text}

theorem stringFrom_step {c : Char} {emitted : Option Char} (hinside : ¬ (state = .plain ∧ c = '"'))
    (hstep : stringStep strict state c rest = .ok (next, emitted)) :
    stringFrom strict state done (c :: rest) =
      stringFrom strict next (emitted.toList ++ done) rest := by
  rw [stringFrom, if_neg hinside, hstep]
  cases emitted <;> rfl

/-- Only between characters does a quote character close the string. -/
theorem stringFrom_step_inside {c : Char} {emitted : Option Char} (hstate : state ≠ .plain)
    (hstep : stringStep strict state c rest = .ok (next, emitted)) :
    stringFrom strict state done (c :: rest) =
      stringFrom strict next (emitted.toList ++ done) rest := by
  exact stringFrom_step (fun hclose => hstate hclose.1) hstep

theorem stringFrom_close :
    stringFrom strict .plain done ('"' :: rest) = .ok (done.reverse, rest) := by
  rw [stringFrom, if_pos ⟨rfl, rfl⟩]

theorem stringFrom_plain {c : Char} (h : IsUnescaped c) :
    stringFrom strict .plain done (c :: rest) = stringFrom strict .plain (c :: done) rest := by
  obtain ⟨hquote, hslash, hcontrol⟩ := h
  have hstep : stringStep strict .plain c rest = .ok (.plain, some c) := by
    rw [stringStep, if_neg hslash, if_neg (Nat.not_lt.mpr hcontrol)]
  exact stringFrom_step (fun hclose => hquote hclose.2) hstep

theorem stringFrom_backslash :
    stringFrom strict .plain done ('\\' :: rest) = stringFrom strict .escape done rest := by
  have hstep : stringStep strict .plain '\\' rest = .ok (.escape, none) := by rfl
  exact stringFrom_step (fun hclose => absurd hclose.2 (by decide)) hstep

theorem escaped?_of_mem_shortEscapes {letter c : Char} (h : (letter, c) ∈ shortEscapes) :
    letter ≠ 'u' ∧ escaped? letter = some c := by
  have hall : ∀ entry ∈ shortEscapes, entry.1 ≠ 'u' ∧ escaped? entry.1 = some entry.2 := by
    decide
  exact hall (letter, c) h

theorem stringFrom_short {letter c : Char} (h : (letter, c) ∈ shortEscapes) :
    stringFrom strict .plain done ('\\' :: letter :: rest) =
      stringFrom strict .plain (c :: done) rest := by
  obtain ⟨hletter, hchar⟩ := escaped?_of_mem_shortEscapes h
  have hstep : stringStep strict .escape letter rest = .ok (.plain, some c) := by
    rw [stringStep, if_neg hletter, hchar]
  rw [stringFrom_backslash]
  exact stringFrom_step_inside (by simp) hstep

/-! ## Code units -/

theorem hexValue?_of_isHexDigit {value : Nat} {c : Char} (h : IsHexDigit value c) :
    hexValue? c = some value := by
  have hall : ∀ n < 16, hexValue? (Nat.digitChar n) = some n ∧
      hexValue? (Nat.digitChar n).toUpper = some n := by
    decide
  obtain ⟨hvalue, rfl | rfl⟩ := h
  · exact (hall value hvalue).1
  · exact (hall value hvalue).2

/-- The state before the last digits of a code unit. -/
theorem stringFrom_hexDigit {leading : Option Nat} {left value digit : Nat} {c : Char}
    (hleft : 1 < left) (h : IsHexDigit digit c) :
    stringFrom strict (.unit leading left value) done (c :: rest) =
      stringFrom strict (.unit leading (left - 1) (16 * value + digit)) done rest := by
  have hstep : stringStep strict (.unit leading left value) c rest =
      .ok (.unit leading (left - 1) (16 * value + digit), none) := by
    simp only [stringStep, hexValue?_of_isHexDigit h, if_neg (Nat.not_le.mpr hleft)]
  exact stringFrom_step_inside (by simp) hstep

theorem stringFrom_unit {leading : Option Nat} {unit : Nat} {digits : Text}
    {emitted : Option Char} (h : SpellsUnit unit digits)
    (hend : endUnit strict leading unit = .ok (next, emitted)) :
    stringFrom strict (.unit leading 4 0) done (digits ++ rest) =
      stringFrom strict next (emitted.toList ++ done) rest := by
  cases h with
  | @digits i j k l a b c d ha hb hc hd =>
      have hvalue : 16 * (16 * (16 * (16 * 0 + i) + j) + k) + l =
          16 * (16 * (16 * i + j) + k) + l := by omega
      have hstep : stringStep strict (.unit leading 1 (16 * (16 * (16 * 0 + i) + j) + k)) d rest =
          .ok (next, emitted) := by
        simp only [stringStep, hexValue?_of_isHexDigit hd, Nat.le_refl, if_true, hvalue, hend]
      show stringFrom strict (.unit leading 4 0) done (a :: b :: c :: d :: rest) = _
      rw [stringFrom_hexDigit (by decide) ha, stringFrom_hexDigit (by decide) hb,
        stringFrom_hexDigit (by decide) hc]
      exact stringFrom_step_inside (by simp) hstep

theorem length_le_byteLength (t : Text) : t.length ≤ Text.byteLength t := by
  induction t with
  | nil => exact Nat.le_refl 0
  | cons c rest ih =>
      have hsize := c.utf8Size_pos
      rw [List.length_cons, Text.byteLength_cons]
      omega

theorem beginUnit_append {unit : Nat} {digits : Text} (h : SpellsUnit unit digits)
    (leading : Option Nat) (rest : Text) :
    beginUnit leading (digits ++ rest) = .ok (.unit leading 4 0) := by
  cases h with
  | @digits i j k l a b c d ha hb hc hd =>
      have hbytes : 4 ≤ Text.byteLength [a, b, c, d] := length_le_byteLength [a, b, c, d]
      exact if_neg (Nat.not_lt.mpr hbytes)

theorem stringFrom_beginUnit {unit : Nat} {digits : Text} (h : SpellsUnit unit digits) :
    stringFrom strict .plain done ('\\' :: 'u' :: (digits ++ rest)) =
      stringFrom strict (.unit none 4 0) done (digits ++ rest) := by
  have hstep : stringStep strict .escape 'u' (digits ++ rest) = .ok (.unit none 4 0, none) := by
    rw [stringStep, if_pos rfl, beginUnit_append h]
    rfl
  rw [stringFrom_backslash]
  exact stringFrom_step_inside (by simp) hstep

/-- Behind the first code unit of a pair the second one follows. -/
theorem stringFrom_pairEscape {leading unit : Nat} {digits : Text} (h : SpellsUnit unit digits) :
    stringFrom strict (.pairEscape leading) done ('\\' :: 'u' :: (digits ++ rest)) =
      stringFrom strict (.unit (some leading) 4 0) done (digits ++ rest) := by
  have hslash : stringStep strict (.pairEscape leading) '\\' ('u' :: (digits ++ rest)) =
      .ok (.pairUnit leading, none) := by rfl
  have hletter : stringStep strict (.pairUnit leading) 'u' (digits ++ rest) =
      .ok (.unit (some leading) 4 0, none) := by
    rw [stringStep, if_pos rfl, beginUnit_append h]
    rfl
  rw [stringFrom_step_inside (by simp) hslash]
  exact stringFrom_step_inside (by simp) hletter

end Steps

/-! ## Surrogates -/

theorem isLeading_iff (unit : Nat) : isLeading unit = true ↔ 0xD800 ≤ unit ∧ unit ≤ 0xDBFF := by
  rw [isLeading, Bool.and_eq_true, decide_eq_true_eq, decide_eq_true_eq]

theorem isTrailing_iff (unit : Nat) : isTrailing unit = true ↔ 0xDC00 ≤ unit ∧ unit ≤ 0xDFFF := by
  rw [isTrailing, Bool.and_eq_true, decide_eq_true_eq, decide_eq_true_eq]

/-- No character is a surrogate. -/
theorem endUnit_toNat (c : Char) : endUnit true none c.toNat = .ok (.plain, some c) := by
  have hvalid : c.toNat < 0xD800 ∨ 0xDFFF < c.toNat ∧ c.toNat < 0x110000 := c.valid
  have htrailing : ¬ isTrailing c.toNat = true := by
    rw [isTrailing_iff]
    omega
  have hleading : ¬ isLeading c.toNat = true := by
    rw [isLeading_iff]
    omega
  simp [endUnit, htrailing, hleading, Char.ofNat_toNat]

theorem endUnit_leading {leading : Nat} (h : 0xD800 ≤ leading ∧ leading ≤ 0xDBFF) :
    endUnit true none leading = .ok (.pairEscape leading, none) := by
  have htrailing : ¬ isTrailing leading = true := by
    rw [isTrailing_iff]
    omega
  simp [endUnit, htrailing, (isLeading_iff leading).mpr h]

theorem endUnit_trailing {c : Char} {leading trailing : Nat}
    (h : 0xDC00 ≤ trailing ∧ trailing ≤ 0xDFFF)
    (hc : pairedCodePoint leading trailing = c.toNat) :
    endUnit true (some leading) trailing = .ok (.plain, some c) := by
  simp [endUnit, (isTrailing_iff trailing).mpr h, hc, Char.ofNat_toNat]

/-! ## Strings that are read -/

theorem stringFrom_char {c : Char} {t : Text} (h : SpellsChar c t) (done rest : Text) :
    stringFrom true .plain done (t ++ rest) = stringFrom true .plain (c :: done) rest := by
  cases h with
  | plain hc => exact stringFrom_plain hc
  | short hc => exact stringFrom_short hc
  | unit hdigits =>
      exact (stringFrom_beginUnit hdigits).trans (stringFrom_unit hdigits (endUnit_toNat c))
  | @pair leading trailing first second hfirst hsecond hleading htrailing hc =>
      have hregroup : '\\' :: 'u' :: (first ++ '\\' :: 'u' :: second) ++ rest =
          '\\' :: 'u' :: (first ++ '\\' :: 'u' :: (second ++ rest)) := by
        simp
      rw [hregroup, stringFrom_beginUnit hfirst, stringFrom_unit hfirst (endUnit_leading hleading)]
      exact (stringFrom_pairEscape hsecond).trans
        (stringFrom_unit hsecond (endUnit_trailing htrailing hc.symm))

theorem stringFrom_chars {s t : Text} (h : SpellsChars s t) (done rest : Text) :
    stringFrom true .plain done (t ++ '"' :: rest) = .ok (done.reverse ++ s, rest) := by
  induction h generalizing done with
  | nil => rw [List.nil_append, stringFrom_close, List.append_nil]
  | @cons c s t u hc _ ih =>
      rw [List.append_assoc, stringFrom_char hc, ih, List.reverse_cons, List.append_assoc]
      rfl

/-- A string is read as the text that it spells. -/
theorem stringBody_append {s t : Text} (h : SpellsChars s t) (rest : Text) :
    stringBody (t ++ '"' :: rest) = .ok (s, rest) := by
  exact stringFrom_chars h [] rest

/-! ## Strings that are passed over -/

theorem exists_endUnit_lenient (unit : Nat) :
    ∃ c, endUnit false none unit = .ok (.plain, some c) := by
  exact ⟨Char.ofNat unit, by simp [endUnit]⟩

theorem exists_stringFrom_inner {t : Text} (h : IsStringInner t) (done rest : Text) :
    ∃ read, stringFrom false .plain done (t ++ '"' :: rest) = .ok (read, rest) := by
  induction h generalizing done with
  | nil => exact ⟨_, stringFrom_close⟩
  | @plain c t hc _ ih =>
      rw [List.cons_append, stringFrom_plain hc]
      exact ih (c :: done)
  | @short letter c t hc _ ih =>
      rw [List.cons_append, List.cons_append, stringFrom_short hc]
      exact ih (c :: done)
  | @unit unit digits t hdigits _ ih =>
      obtain ⟨c, hend⟩ := exists_endUnit_lenient unit
      rw [List.cons_append, List.cons_append, List.append_assoc, stringFrom_beginUnit hdigits,
        stringFrom_unit hdigits hend]
      exact ih _

theorem skipStringBody_append {t : Text} (h : IsStringInner t) (rest : Text) :
    skipStringBody (t ++ '"' :: rest) = .ok rest := by
  obtain ⟨read, hread⟩ := exists_stringFrom_inner h [] rest
  rw [skipStringBody, hread]
  rfl

end DumpConvert.Json
