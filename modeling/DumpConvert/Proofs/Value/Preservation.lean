import DumpConvert.Profile.Basic
import DumpConvert.Proofs.Value.Forms

/-!
# Literals that a conversion keeps

Whatever the profile, the column and the place of a value are, `NULL` stays `NULL`, a
well-formed string literal stays as it is character by character, a blob keeps its
digits, and a decimal numeral is written as itself, between apostrophes, as the boolean
it stands for, or as its timestamp (`text_convert_of_literal`).

Strings and numerals are no `replace` calls, because these end in a parenthesis; so the
rules see the token itself, and what they may write for it is known (`WrittenAs`).
-/

namespace DumpConvert

namespace Sql.Literal

/-! ## Numerals of ASCII digits -/

def IsSign (t : Text) : Prop :=
  t = [] ∨ t = ['+'] ∨ t = ['-']

def IsFraction (t : Text) : Prop :=
  t = [] ∨ ∃ digits, Text.isDigits digits = true ∧ t = '.' :: digits

/-- An `e`, a sign and digits, or nothing. -/
def IsScale (t : Text) : Prop :=
  t = [] ∨ ∃ mark sign digits, (mark = 'e' ∨ mark = 'E') ∧ IsSign sign ∧
    Text.isDigits digits = true ∧ t = mark :: sign ++ digits

/-- A decimal numeral: a sign, digits, a fraction and a power of ten. -/
def IsNumeral (t : Text) : Prop :=
  ∃ sign whole fraction scale, IsSign sign ∧ Text.isDigits whole = true ∧
    IsFraction fraction ∧ IsScale scale ∧ t = sign ++ whole ++ fraction ++ scale

def isNumeralChar (c : Char) : Bool :=
  c.isDigit || ['+', '-', '.', 'e', 'E'].contains c

theorem isNumeralChar_of_isDigits {t : Text} (h : Text.isDigits t = true) :
    ∀ c ∈ t, isNumeralChar c = true := by
  intro c hc
  have hall : t.all Char.isDigit = true := (Bool.and_eq_true_iff.mp h).2
  simp [isNumeralChar, List.all_eq_true.mp hall c hc]

theorem isNumeralChar_of_isSign {t : Text} (h : IsSign t) :
    ∀ c ∈ t, isNumeralChar c = true := by
  rcases h with rfl | rfl | rfl <;> simp [isNumeralChar]

theorem isNumeralChar_of_isFraction {t : Text} (h : IsFraction t) :
    ∀ c ∈ t, isNumeralChar c = true := by
  rcases h with rfl | ⟨digits, hdigits, rfl⟩
  · simp
  · intro c hc
    rcases List.mem_cons.mp hc with rfl | hc
    · decide
    · exact isNumeralChar_of_isDigits hdigits c hc

theorem isNumeralChar_of_isScale {t : Text} (h : IsScale t) :
    ∀ c ∈ t, isNumeralChar c = true := by
  rcases h with rfl | ⟨mark, sign, digits, hmark, hsign, hdigits, rfl⟩
  · simp
  · intro c hc
    rcases List.mem_append.mp hc with hc | hc
    · rcases List.mem_cons.mp hc with rfl | hc
      · rcases hmark with rfl | rfl <;> decide
      · exact isNumeralChar_of_isSign hsign c hc
    · exact isNumeralChar_of_isDigits hdigits c hc

theorem isNumeralChar_of_isNumeral {t : Text} (h : IsNumeral t) :
    ∀ c ∈ t, isNumeralChar c = true := by
  obtain ⟨sign, whole, fraction, scale, hsign, hwhole, hfraction, hscale, rfl⟩ := h
  intro c hc
  rcases List.mem_append.mp hc with hc | hc
  · rcases List.mem_append.mp hc with hc | hc
    · rcases List.mem_append.mp hc with hc | hc
      · exact isNumeralChar_of_isSign hsign c hc
      · exact isNumeralChar_of_isDigits hwhole c hc
    · exact isNumeralChar_of_isFraction hfraction c hc
  · exact isNumeralChar_of_isScale hscale c hc

theorem not_mem_of_isNumeral {t : Text} {c : Char} (h : IsNumeral t)
    (hc : isNumeralChar c = false) : c ∉ t := by
  intro hmem
  rw [isNumeralChar_of_isNumeral h c hmem] at hc
  exact Bool.noConfusion hc

/-! ## Tokens that are no calls -/

theorem replaceCall?_eq_none {token : Text} (h : token.getLast? ≠ some ')') :
    replaceCall? token = none := by
  have harguments : arguments? "replace".toList token = none := by
    simp [arguments?, h]
  unfold replaceCall?
  split
  · rfl
  · rename_i inner hinner
    rw [harguments] at hinner
    cases hinner

theorem getLast?_ofText (t : Text) : (ofText t).getLast? = some '\'' := by
  exact List.getLast?_concat

theorem escape_of_not_mem {token : Text} (h : '\'' ∉ token) :
    escape token = '\'' :: token ++ ['\''] := by
  have hbody : body? token = none := by
    cases hbody : body? token with
    | none => rfl
    | some body =>
        rw [enclosed?_eq_some_iff.mp hbody] at h
        simp at h
  rw [escape, hbody, Option.getD_none, collapse_of_not_mem h]
  exact enclose_of_not_mem h

end Sql.Literal

namespace Value

open Sql

theorem plainToken_of_getLast? {token : Text} (h : token.getLast? ≠ some ')') :
    plainToken token = token := by
  rw [plainToken, Literal.replaceCall?_eq_none h]

/-! ## Strings -/

/-- For a string literal every rule writes that literal. -/
theorem eq_of_writtenAs_ofText {t written : Text} (h : WrittenAs (Literal.ofText t) written) :
    written = Literal.ofText t := by
  have hfirst : ∀ {c : Char} {rest : Text}, c ≠ '\'' → Literal.ofText t ≠ c :: rest := by
    intro c rest hc heq
    exact hc (List.cons_eq_cons.mp heq).1.symm
  have hdigits : Text.isDigits (Literal.ofText t) = false := by
    simp [Text.isDigits, Literal.ofText, enclose, Char.isDigit]
  cases h with
  | same => rfl
  | quoted => exact Literal.escape_ofText t
  | zero hzero => exact absurd hzero (hfirst (by decide))
  | one hone => exact absurd hone (hfirst (by decide))
  | timestamp hall => exact absurd hall (by rw [hdigits]; decide)
  | numeral hall => exact absurd hall (by rw [hdigits]; decide)

theorem text_convert_ofText (profile : Profile) (t : Text) (site : Site) :
    (convert profile (Literal.ofText t) site).text = Literal.ofText t := by
  have hplain : plainToken (Literal.ofText t) = Literal.ofText t := by
    apply plainToken_of_getLast?
    rw [Literal.getLast?_ofText]
    decide
  rcases text_convert_cases profile (Literal.ofText t) site with
    ⟨hnull, -⟩ | ⟨digits, hdigits, -⟩ | hwritten
  · exact absurd (List.cons_eq_cons.mp hnull).1 (by decide)
  · simp [Literal.blobDigits?, Literal.ofText, enclose] at hdigits
  · rw [hplain] at hwritten
    exact eq_of_writtenAs_ofText hwritten

/-! ## Blobs -/

theorem blobDigits?_of_digits {mark : Char} {digits : Text} (hmark : mark = 'x' ∨ mark = 'X')
    (hdigits : digits.all Literal.isHexDigit = true) :
    Literal.blobDigits? (mark :: '\'' :: digits ++ ['\'']) = some digits := by
  have hbody : Literal.body? ('\'' :: digits ++ ['\'']) = some digits :=
    enclosed?_eq_some_iff.mpr rfl
  rw [List.cons_append] at hbody
  simp only [Literal.blobDigits?, List.cons_append, if_pos hmark, hbody, Option.filter, hdigits,
    if_true]

theorem text_convert_blob (profile : Profile) (site : Site) {mark : Char} {digits : Text}
    (hmark : mark = 'x' ∨ mark = 'X') (hdigits : digits.all Literal.isHexDigit = true) :
    (convert profile (mark :: '\'' :: digits ++ ['\'']) site).text =
      '\'' :: '\\' :: 'x' :: digits ++ ['\''] := by
  have hblob := blobDigits?_of_digits hmark hdigits
  have hnull : mark :: '\'' :: digits ++ ['\''] ≠ "NULL".toList := by
    intro heq
    have hfirst : mark = 'N' := (List.cons_eq_cons.mp heq).1
    rcases hmark with rfl | rfl <;> exact absurd hfirst (by decide)
  rw [convert, if_neg hnull]
  simp only [hblob]

/-! ## Numerals -/

/--
What a numeral may be written as: itself, itself between apostrophes, the boolean of `0`
or `1`, or, if it consists of digits, the timestamp literal of its value.
-/
def KeepsNumeral (numeral written : Text) : Prop :=
  written = numeral ∨
  written = '\'' :: numeral ++ ['\''] ∨
  (numeral = ['0'] ∧ written = "false".toList) ∨
  (numeral = ['1'] ∧ written = "true".toList) ∨
  (Text.isDigits numeral = true ∧ epochLiteral? numeral = some written)

theorem keepsNumeral_of_writtenAs {numeral written : Text} (h : Literal.IsNumeral numeral)
    (hwritten : WrittenAs numeral written) : KeepsNumeral numeral written := by
  cases hwritten with
  | same => exact .inl rfl
  | quoted =>
      exact .inr (.inl (Literal.escape_of_not_mem (Literal.not_mem_of_isNumeral h (by decide))))
  | zero hzero => exact .inr (.inr (.inl ⟨hzero, rfl⟩))
  | one hone => exact .inr (.inr (.inr (.inl ⟨hone, rfl⟩)))
  | timestamp hdigits hliteral => exact .inr (.inr (.inr (.inr ⟨hdigits, hliteral⟩)))
  | numeral hdigits => exact .inr (.inl rfl)

theorem keepsNumeral_convert (profile : Profile) (site : Site) {numeral : Text}
    (h : Literal.IsNumeral numeral) : KeepsNumeral numeral (convert profile numeral site).text := by
  have hplain : plainToken numeral = numeral := by
    apply plainToken_of_getLast?
    intro hlast
    exact Literal.not_mem_of_isNumeral h (by decide) (List.mem_of_getLast? hlast)
  rcases text_convert_cases profile numeral site with
    ⟨hnull, -⟩ | ⟨digits, hdigits, -⟩ | hwritten
  · exact absurd (hnull ▸ List.mem_cons_self) (Literal.not_mem_of_isNumeral (c := 'N') h (by decide))
  · cases numeral with
    | nil => cases hdigits
    | cons c rest =>
        have hlower : c ≠ 'x' := by
          rintro rfl
          exact Literal.not_mem_of_isNumeral h (by decide) List.mem_cons_self
        have hupper : c ≠ 'X' := by
          rintro rfl
          exact Literal.not_mem_of_isNumeral h (by decide) List.mem_cons_self
        simp [Literal.blobDigits?, hlower, hupper] at hdigits
  · rw [hplain] at hwritten
    exact keepsNumeral_of_writtenAs h hwritten

/-! ## All literals -/

/-- Literals are kept in every place and under every profile. -/
theorem text_convert_of_literal (profile : Profile) (site : Site) :
    (convert profile "NULL".toList site).text = "NULL".toList ∧
    (∀ t, (convert profile (Literal.ofText t) site).text = Literal.ofText t) ∧
    (∀ mark digits, mark = 'x' ∨ mark = 'X' → digits.all Literal.isHexDigit = true →
      (convert profile (mark :: '\'' :: digits ++ ['\'']) site).text =
        '\'' :: '\\' :: 'x' :: digits ++ ['\'']) ∧
    (∀ numeral, Literal.IsNumeral numeral →
      KeepsNumeral numeral (convert profile numeral site).text) := by
  refine ⟨?_, fun t => text_convert_ofText profile t site, ?_, ?_⟩
  · rw [convert, if_pos rfl]
  · intro mark digits hmark hdigits
    exact text_convert_blob profile site hmark hdigits
  · intro numeral hnumeral
    exact keepsNumeral_convert profile site hnumeral

/-- A blob and a numeral where the built-in profile expects timestamps. -/
theorem text_convert_of_literal_repairPosition :
    ('X' = 'x' ∨ 'X' = 'X') ∧ "00fF".toList.all Literal.isHexDigit = true ∧
      Literal.IsNumeral "1696089600".toList ∧
      (convert .builtIn "X'00fF'".toList ⟨"Order".toList, 8, none, true⟩).text =
        "'\\x00fF'".toList ∧
      KeepsNumeral "1696089600".toList
        (convert .builtIn "1696089600".toList ⟨"Order".toList, 8, none, true⟩).text := by
  have hmark : 'X' = 'x' ∨ 'X' = 'X' := .inr rfl
  have hdigits : "00fF".toList.all Literal.isHexDigit = true := by decide
  have hnumeral : Literal.IsNumeral "1696089600".toList :=
    ⟨[], "1696089600".toList, [], [], .inl rfl, by decide, .inl rfl, .inl rfl, rfl⟩
  obtain ⟨-, -, hblob, hkeeps⟩ :=
    text_convert_of_literal .builtIn ⟨"Order".toList, 8, none, true⟩
  exact ⟨hmark, hdigits, hnumeral, hblob 'X' "00fF".toList hmark hdigits, hkeeps _ hnumeral⟩

end Value

end DumpConvert
