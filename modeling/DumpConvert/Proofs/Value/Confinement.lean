import DumpConvert.Proofs.Value.Preservation
import DumpConvert.Proofs.Value.Token
import Mathlib.Data.List.TakeDrop

/-!
# What is written without a column

Without a column a value is written by its shape, and the rules are meant to write nothing
but `NULL`, the booleans, numerals of ASCII digits and well-formed string literals
(`IsConfined`), whatever the token is: no word, expression or open quote of the dump.

Two rules write a token as it stands after a look at a part of it.  A token between
apostrophes with braces at the ends of its body is taken for JSON, and a numeral may have
the digits of any script.  These are the only leaks: what is written is confined exactly
if a braced token is a well-formed literal and a numeral has ASCII digits
(`isConfined_convert_iff`).
-/

namespace DumpConvert

namespace Sql.Literal

/-! ## Numerals over a class of digits -/

variable {digit : Char → Bool}

def AreDigits (digit : Char → Bool) (t : Text) : Prop :=
  t ≠ [] ∧ ∀ c ∈ t, digit c = true

inductive IsMantissa (digit : Char → Bool) : Text → Prop where
  | whole {whole : Text} (hwhole : AreDigits digit whole) : IsMantissa digit whole
  | pointed {whole digits : Text} (hwhole : AreDigits digit whole)
      (hdigits : ∀ c ∈ digits, digit c = true) : IsMantissa digit (whole ++ '.' :: digits)
  | fraction {digits : Text} (hdigits : AreDigits digit digits) : IsMantissa digit ('.' :: digits)

def IsPower (digit : Char → Bool) (t : Text) : Prop :=
  t = [] ∨ ∃ mark sign digits, (mark = 'e' ∨ mark = 'E') ∧ IsSign sign ∧
    AreDigits digit digits ∧ t = mark :: sign ++ digits

def IsDecimal (digit : Char → Bool) (t : Text) : Prop :=
  ∃ sign mantissa power, IsSign sign ∧ IsMantissa digit mantissa ∧ IsPower digit power ∧
    t = sign ++ mantissa ++ power

def isNumberMark (c : Char) : Bool :=
  ['+', '-', '.', 'e', 'E'].contains c

theorem isNumberMark_of_isSign {t : Text} (h : IsSign t) : ∀ c ∈ t, isNumberMark c = true := by
  rcases h with rfl | rfl | rfl <;> simp [isNumberMark]

theorem IsMantissa.digit_or_mark {t : Text} (h : IsMantissa digit t) :
    ∀ c ∈ t, digit c = true ∨ isNumberMark c = true := by
  have hpoint : ∀ {digits : Text}, (∀ c ∈ digits, digit c = true) →
      ∀ c ∈ '.' :: digits, digit c = true ∨ isNumberMark c = true := fun hdigits =>
    List.forall_mem_cons.mpr ⟨.inr (by decide), fun c hc => .inl (hdigits c hc)⟩
  cases h with
  | whole hwhole => exact fun c hc => .inl (hwhole.2 c hc)
  | pointed hwhole hdigits =>
      exact List.forall_mem_append.mpr ⟨fun c hc => .inl (hwhole.2 c hc), hpoint hdigits⟩
  | fraction hdigits => exact hpoint hdigits.2

theorem IsPower.digit_or_mark {t : Text} (h : IsPower digit t) :
    ∀ c ∈ t, digit c = true ∨ isNumberMark c = true := by
  rcases h with rfl | ⟨mark, sign, digits, hmark, hsign, hdigits, rfl⟩
  · exact List.forall_mem_nil _
  · have hletter : isNumberMark mark = true := by
      rcases hmark with rfl | rfl <;> decide
    rw [List.cons_append, List.forall_mem_cons, List.forall_mem_append]
    exact ⟨.inr hletter, fun c hc => .inr (isNumberMark_of_isSign hsign c hc),
      fun c hc => .inl (hdigits.2 c hc)⟩

theorem IsDecimal.digit_or_mark {t : Text} (h : IsDecimal digit t) :
    ∀ c ∈ t, digit c = true ∨ isNumberMark c = true := by
  obtain ⟨sign, mantissa, power, hsign, hmantissa, hpower, rfl⟩ := h
  rw [List.forall_mem_append, List.forall_mem_append]
  exact ⟨⟨fun c hc => .inr (isNumberMark_of_isSign hsign c hc), hmantissa.digit_or_mark⟩,
    hpower.digit_or_mark⟩

theorem IsDecimal.not_mem {t : Text} {c : Char} (h : IsDecimal digit t)
    (hdigit : digit c = false) (hmark : isNumberMark c = false) : c ∉ t := by
  intro hmem
  rcases h.digit_or_mark c hmem with hc | hc
  · rw [hdigit] at hc
    cases hc
  · rw [hmark] at hc
    cases hc

/-! ### Another class of digits -/

section

variable {other : Char → Bool}

theorem AreDigits.of_digits {t : Text} (h : AreDigits digit t)
    (hother : ∀ c ∈ t, digit c = true → other c = true) : AreDigits other t := by
  exact ⟨h.1, fun c hc => hother c hc (h.2 c hc)⟩

theorem IsMantissa.of_digits {t : Text} (h : IsMantissa digit t)
    (hother : ∀ c ∈ t, digit c = true → other c = true) : IsMantissa other t := by
  cases h with
  | whole hwhole => exact .whole (hwhole.of_digits hother)
  | pointed hwhole hdigits =>
      obtain ⟨hleft, hright⟩ := List.forall_mem_append.mp hother
      have hfraction := (List.forall_mem_cons.mp hright).2
      exact .pointed (hwhole.of_digits hleft) fun c hc => hfraction c hc (hdigits c hc)
  | fraction hdigits => exact .fraction (hdigits.of_digits (List.forall_mem_cons.mp hother).2)

theorem IsPower.of_digits {t : Text} (h : IsPower digit t)
    (hother : ∀ c ∈ t, digit c = true → other c = true) : IsPower other t := by
  rcases h with rfl | ⟨mark, sign, digits, hmark, hsign, hdigits, rfl⟩
  · exact .inl rfl
  · have hpower := (List.forall_mem_append.mp hother).2
    exact .inr ⟨mark, sign, digits, hmark, hsign, hdigits.of_digits hpower, rfl⟩

theorem IsDecimal.of_digits {t : Text} (h : IsDecimal digit t)
    (hother : ∀ c ∈ t, digit c = true → other c = true) : IsDecimal other t := by
  obtain ⟨sign, mantissa, power, hsign, hmantissa, hpower, rfl⟩ := h
  obtain ⟨hfront, hback⟩ := List.forall_mem_append.mp hother
  have hbody := (List.forall_mem_append.mp hfront).2
  exact ⟨sign, mantissa, power, hsign, hmantissa.of_digits hbody, hpower.of_digits hback, rfl⟩

end

/-! ## Numerals as they are recognised -/

theorem exists_dropSign_eq (t : Text) : ∃ sign, IsSign sign ∧ t = sign ++ dropSign t := by
  cases t with
  | nil => exact ⟨[], .inl rfl, rfl⟩
  | cons c rest =>
      by_cases hsign : c = '+' ∨ c = '-'
      · refine ⟨[c], ?_, ?_⟩
        · rcases hsign with rfl | rfl
          · exact .inr (.inl rfl)
          · exact .inr (.inr rfl)
        · rw [dropSign, if_pos hsign, List.singleton_append]
      · exact ⟨[], .inl rfl, by rw [dropSign, if_neg hsign, List.nil_append]⟩

theorem isPower_of_isExponent {t : Text} (h : isExponent t = true) :
    IsPower Text.isDecimalDigit t := by
  cases t with
  | nil => cases h
  | cons mark rest =>
      obtain ⟨sign, hsign, hrest⟩ := exists_dropSign_eq rest
      have hparts : ((mark = 'e' ∨ mark = 'E') ∧ dropSign rest ≠ []) ∧
          ∀ c ∈ dropSign rest, Text.isDecimalDigit c = true := by
        simpa [isExponent] using h
      obtain ⟨⟨hmark, hne⟩, hdigits⟩ := hparts
      refine .inr ⟨mark, sign, dropSign rest, hmark, hsign, ⟨hne, hdigits⟩, ?_⟩
      rw [List.cons_append, ← hrest]

/-- What is read as a mantissa and what is left make up the text. -/
theorem exists_of_mantissa? {t rest : Text} (h : mantissa? t = some rest) :
    ∃ mantissa, t = mantissa ++ rest ∧ IsMantissa Text.isDecimalDigit mantissa := by
  have htaken : ∀ (t : Text), ∀ c ∈ t.takeWhile Text.isDecimalDigit,
      Text.isDecimalDigit c = true := fun t c hc => List.mem_takeWhile_imp hc
  have hsplit : ∀ (t : Text),
      t = t.takeWhile Text.isDecimalDigit ++ t.dropWhile Text.isDecimalDigit := fun t =>
    List.takeWhile_append_dropWhile.symm
  unfold mantissa? at h
  rw [List.span_eq_takeWhile_dropWhile] at h
  split at h
  · rename_i whole more hspan
    obtain ⟨rfl, hpoint⟩ := Prod.mk.inj hspan
    rw [List.span_eq_takeWhile_dropWhile] at h
    dsimp only at h
    split at h
    · cases h
    · rename_i hsome
      obtain rfl := Option.some.inj h
      refine ⟨t.takeWhile Text.isDecimalDigit ++ '.' :: more.takeWhile Text.isDecimalDigit,
        ?_, ?_⟩
      · rw [List.append_assoc, List.cons_append, ← hsplit more, ← hpoint]
        exact hsplit t
      · by_cases hnil : t.takeWhile Text.isDecimalDigit = []
        · rw [hnil] at hsome ⊢
          exact .fraction ⟨fun hempty => hsome (by rw [hempty]; rfl), htaken more⟩
        · exact .pointed ⟨hnil, htaken t⟩ (htaken more)
  · rename_i whole more _ hspan
    obtain ⟨rfl, rfl⟩ := Prod.mk.inj hspan
    split at h
    · cases h
    · rename_i hne
      obtain rfl := Option.some.inj h
      exact ⟨_, hsplit t, .whole ⟨fun hempty => hne (by rw [hempty]; rfl), htaken t⟩⟩

theorem isDecimal_of_isNumber {t : Text} (h : isNumber t = true) :
    IsDecimal Text.isDecimalDigit t := by
  obtain ⟨sign, hsign, hsplit⟩ := exists_dropSign_eq t
  unfold isNumber at h
  split at h
  · cases h
  · rename_i rest hrest
    obtain ⟨mantissa, hbody, hmantissa⟩ := exists_of_mantissa? hrest
    have hpower : IsPower Text.isDecimalDigit rest := by
      rcases Bool.or_eq_true_iff.mp h with hnil | hexponent
      · exact .inl (List.isEmpty_iff.mp hnil)
      · exact isPower_of_isExponent hexponent
    refine ⟨sign, mantissa, rest, hsign, hmantissa, hpower, ?_⟩
    rw [List.append_assoc, ← hbody]
    exact hsplit

/-! ## Well-formed string literals -/

/-- Escaping leaves the well-formed string literals as they are, and only these. -/
theorem escape_eq_self_iff (token : Text) : escape token = token ↔ ∃ t, token = ofText t := by
  constructor
  · intro hsame
    exact ⟨_, hsame.symm⟩
  · rintro ⟨t, rfl⟩
    exact escape_ofText t

theorem not_isDecimal_of_quoted {digit : Char → Bool} (h : digit '\'' = false) (body : Text) :
    ¬ IsDecimal digit ('\'' :: body ++ ['\'']) := by
  intro hdecimal
  exact hdecimal.not_mem h (by decide) List.mem_cons_self

end Sql.Literal

namespace Value

open Sql

/-- The text is a literal of its own: it opens nothing that it does not close. -/
inductive IsConfined : Text → Prop where
  | null : IsConfined "NULL".toList
  | yes : IsConfined "true".toList
  | no : IsConfined "false".toList
  | number {t : Text} (h : Literal.IsDecimal Char.isDigit t) : IsConfined t
  | string (t : Text) : IsConfined (Literal.ofText t)

/-- A braced token is a well-formed literal, and a numeral has ASCII digits. -/
structure IsFaithful (token : Text) : Prop where
  braced : ∀ body, Literal.body? token = some body → isBraced body = true →
    Literal.escape token = token
  digits : Literal.isNumber token = true →
    ∀ c ∈ token, Text.isDecimalDigit c = true → c.isDigit = true

/-! ## Every rule is confined -/

theorem isConfined_escape (token : Text) : IsConfined (Literal.escape token) := by
  exact .string _

theorem isConfined_of_not_mem {t : Text} (h : '\'' ∉ t) : IsConfined ('\'' :: t ++ ['\'']) := by
  rw [← enclose_of_not_mem h]
  exact .string t

theorem isConfined_epochOrQuoted {token : Text} (h : Text.isDigits token = true) :
    IsConfined (epochOrQuoted token).text := by
  unfold epochOrQuoted
  split
  · rename_i literal hliteral
    obtain ⟨t, rfl⟩ := exists_eq_ofText_of_epochLiteral? hliteral
    exact .string t
  · exact isConfined_of_not_mem (not_mem_of_isDigits h (by decide))

theorem isConfined_of_boolean? {token : Text} {rendered : Rendered}
    (h : boolean? token = some rendered) : IsConfined rendered.text := by
  unfold boolean? at h
  split at h
  · cases h
    exact .no
  · split at h
    · cases h
      exact .yes
    · cases h

theorem isConfined_numberOrText {token : Text} (h : IsFaithful token) :
    IsConfined (numberOrText token).text := by
  unfold numberOrText
  split
  · rename_i hnumber
    exact .number ((Literal.isDecimal_of_isNumber hnumber).of_digits (h.digits hnumber))
  · exact isConfined_escape token

theorem isConfined_byShape (profile : Profile) {token : Text} (site : Site)
    (h : IsFaithful token) : IsConfined (byShape profile token site).text := by
  unfold byShape
  split
  · rename_i hdigits
    exact isConfined_epochOrQuoted hdigits.1
  · dsimp only
    split
    · rename_i flag hflag
      exact isConfined_of_boolean? (Option.eq_some_of_filter_eq_some hflag)
    · split
      · rename_i body hbody
        split
        · rename_i hbraced
          have hliteral := isConfined_escape token
          rw [h.braced body hbody hbraced] at hliteral
          exact hliteral
        · exact isConfined_escape token
      · exact isConfined_numberOrText h

theorem isConfined_withoutSchema (profile : Profile) {token : Text} (site : Site)
    (h : IsFaithful token) : IsConfined (withoutSchema profile token site).text := by
  unfold withoutSchema
  dsimp only
  split
  · rename_i hrepair
    exact isConfined_epochOrQuoted
      (isDigits_of_isEpochCandidate (Bool.and_eq_true_iff.mp hrepair).2)
  · exact isConfined_byShape profile site h

theorem isFaithful_ofText (t : Text) : IsFaithful (Literal.ofText t) := by
  refine ⟨fun _ _ _ => Literal.escape_ofText t, fun hnumber => ?_⟩
  exact absurd (Literal.isDecimal_of_isNumber hnumber)
    (Literal.not_isDecimal_of_quoted (by decide) (double '\'' t))

theorem isFaithful_plainToken {token : Text} (h : IsFaithful token) :
    IsFaithful (plainToken token) := by
  unfold plainToken
  split
  · exact isFaithful_ofText _
  · exact h

/-- A token without a column is `NULL`, a blob, or written by its shape. -/
theorem text_convert_without_column (profile : Profile) (token : Text) (site : Site) :
    (token = "NULL".toList ∧
      (convert profile token { site with column := none }).text = "NULL".toList) ∨
    (∃ digits, Literal.blobDigits? token = some digits ∧
      (convert profile token { site with column := none }).text =
        '\'' :: '\\' :: 'x' :: digits ++ ['\'']) ∨
    (convert profile token { site with column := none }).text =
      (withoutSchema profile (plainToken token) { site with column := none }).text := by
  unfold convert
  split
  · rename_i hnull
    exact .inl ⟨hnull, rfl⟩
  · split
    · rename_i digits hdigits
      exact .inr (.inl ⟨digits, hdigits, rfl⟩)
    · exact .inr (.inr rfl)

theorem isConfined_convert (profile : Profile) {token : Text} (site : Site)
    (h : IsFaithful token) :
    IsConfined (convert profile token { site with column := none }).text := by
  rcases text_convert_without_column profile token site with
    ⟨-, hnull⟩ | ⟨digits, hdigits, hblob⟩ | hshape
  · rw [hnull]
    exact .null
  · rw [hblob]
    have hbody : '\'' ∉ '\\' :: 'x' :: digits := by
      simp [not_mem_of_blobDigits? hdigits]
    exact isConfined_of_not_mem hbody
  · rw [hshape]
    exact isConfined_withoutSchema profile _ (isFaithful_plainToken h)

/-! ## Tokens that are written as they stand -/

theorem boolean?_of_not_isDigits {token : Text} (h : Text.isDigits token = false) :
    boolean? token = none := by
  unfold boolean?
  split
  · rename_i hzero
    rw [hzero] at h
    cases h
  · split
    · rename_i hone
      rw [hone] at h
      cases h
    · rfl

/-- A token that is no digit string is written by its quotes, its braces or its number form. -/
theorem text_byShape_of_not_isDigits (profile : Profile) {token : Text} (site : Site)
    (h : Text.isDigits token = false) :
    (byShape profile token site).text =
      match Literal.body? token with
      | some body => if isBraced body then token else Literal.escape token
      | none => (numberOrText token).text := by
  have hshape : ¬ (Text.isDigits token = true ∧ token.length = profile.heuristicEpochDigits) := by
    simp [h]
  simp only [byShape, if_neg hshape, boolean?_of_not_isDigits h, Option.filter_none]
  cases Literal.body? token with
  | none => rfl
  | some body => exact apply_ite Rendered.text _ _ _

theorem text_withoutSchema_of_not_isDigits (profile : Profile) {token : Text} (site : Site)
    (h : Text.isDigits token = false) :
    (withoutSchema profile token site).text = (byShape profile token site).text := by
  have hrepair : isEpochCandidate profile token = false := by
    rw [isEpochCandidate, h, Bool.false_and]
  simp [withoutSchema, hrepair]

/-- A token with the given ends is neither `NULL` nor a blob nor a call. -/
theorem text_convert_of_ends (profile : Profile) {token : Text} (site : Site)
    (hnull : token ≠ "NULL".toList) (hmark : 'x' ∉ token.head? ∧ 'X' ∉ token.head?)
    (hlast : token.getLast? ≠ some ')') :
    (convert profile token { site with column := none }).text =
      (withoutSchema profile token { site with column := none }).text := by
  have hblob : Literal.blobDigits? token = none := by
    cases token with
    | nil => rfl
    | cons c rest =>
        have hc : ¬ (c = 'x' ∨ c = 'X') := by
          rintro (rfl | rfl)
          · exact hmark.1 rfl
          · exact hmark.2 rfl
        rw [Literal.blobDigits?, if_neg hc]
  rcases text_convert_without_column profile token site with
    ⟨heq, -⟩ | ⟨digits, hdigits, -⟩ | hshape
  · exact absurd heq hnull
  · rw [hblob] at hdigits
    cases hdigits
  · rw [hshape, plainToken_of_getLast? hlast]

theorem text_convert_of_braced (profile : Profile) {token body : Text} (site : Site)
    (hbody : Literal.body? token = some body) (hbraced : isBraced body = true) :
    (convert profile token { site with column := none }).text = token := by
  have heq : token = '\'' :: body ++ ['\''] := enclosed?_eq_some_iff.mp hbody
  have hnull : token ≠ "NULL".toList := by
    rw [heq]
    exact fun h => absurd (List.cons_eq_cons.mp h).1 (by decide)
  have hmark : 'x' ∉ token.head? ∧ 'X' ∉ token.head? := by
    simp [heq]
  have hlast : token.getLast? ≠ some ')' := by
    rw [heq, List.getLast?_concat]
    decide
  have hdigits : Text.isDigits token = false := by
    simp [heq, Text.isDigits, Char.isDigit]
  rw [text_convert_of_ends profile site hnull hmark hlast,
    text_withoutSchema_of_not_isDigits profile _ hdigits,
    text_byShape_of_not_isDigits profile _ hdigits, hbody]
  exact if_pos hbraced

theorem text_convert_of_isNumber (profile : Profile) {token : Text} (site : Site)
    (hnumber : Literal.isNumber token = true) (hdigits : Text.isDigits token = false) :
    (convert profile token { site with column := none }).text = token := by
  have hdecimal := Literal.isDecimal_of_isNumber hnumber
  have hnull : token ≠ "NULL".toList := by
    rintro rfl
    exact absurd hnumber (by decide)
  have hmark : 'x' ∉ token.head? ∧ 'X' ∉ token.head? :=
    ⟨fun h => hdecimal.not_mem (by decide) (by decide) (List.mem_of_head? h),
      fun h => hdecimal.not_mem (by decide) (by decide) (List.mem_of_head? h)⟩
  have hlast : token.getLast? ≠ some ')' := fun h =>
    hdecimal.not_mem (by decide) (by decide) (List.mem_of_getLast? h)
  have hbody : Literal.body? token = none := by
    cases hbody : Literal.body? token with
    | none => rfl
    | some body =>
        rw [enclosed?_eq_some_iff.mp hbody] at hdecimal
        exact absurd hdecimal (Literal.not_isDecimal_of_quoted (by decide) body)
  rw [text_convert_of_ends profile site hnull hmark hlast,
    text_withoutSchema_of_not_isDigits profile _ hdigits,
    text_byShape_of_not_isDigits profile _ hdigits, hbody, numberOrText, if_pos hnumber]

theorem escape_of_isConfined {body : Text} (h : IsConfined ('\'' :: body ++ ['\''])) :
    Literal.escape ('\'' :: body ++ ['\'']) = '\'' :: body ++ ['\''] := by
  generalize htoken : '\'' :: body ++ ['\''] = token at h ⊢
  cases h with
  | null => cases htoken
  | yes => cases htoken
  | no => cases htoken
  | number hdecimal =>
      rw [← htoken] at hdecimal
      exact absurd hdecimal (Literal.not_isDecimal_of_quoted (by decide) body)
  | string t => exact Literal.escape_ofText t

theorem isDigit_of_isConfined {token : Text} (hnumber : Literal.isNumber token = true)
    (h : IsConfined token) : ∀ c ∈ token, Text.isDecimalDigit c = true → c.isDigit = true := by
  cases h with
  | null => exact absurd hnumber (by decide)
  | yes => exact absurd hnumber (by decide)
  | no => exact absurd hnumber (by decide)
  | number hdecimal =>
      intro c hc hdigit
      rcases hdecimal.digit_or_mark c hc with hascii | hmark
      · exact hascii
      · have hmarks : c = '+' ∨ c = '-' ∨ c = '.' ∨ c = 'e' ∨ c = 'E' := by
          simpa [Literal.isNumberMark] using hmark
        rcases hmarks with rfl | rfl | rfl | rfl | rfl <;> exact absurd hdigit (by decide)
  | string t =>
      exact absurd (Literal.isDecimal_of_isNumber hnumber)
        (Literal.not_isDecimal_of_quoted (by decide) (double '\'' t))

theorem isFaithful_of_isConfined {profile : Profile} {token : Text} {site : Site}
    (h : IsConfined (convert profile token { site with column := none }).text) :
    IsFaithful token := by
  constructor
  · intro body hbody hbraced
    rw [text_convert_of_braced profile site hbody hbraced] at h
    obtain rfl : token = '\'' :: body ++ ['\''] := enclosed?_eq_some_iff.mp hbody
    exact escape_of_isConfined h
  · intro hnumber
    cases hdigits : Text.isDigits token with
    | true =>
        intro c hc _
        exact List.all_eq_true.mp (Bool.and_eq_true_iff.mp hdigits).2 c hc
    | false =>
        rw [text_convert_of_isNumber profile site hnumber hdigits] at h
        exact isDigit_of_isConfined hnumber h

/--
Without a column, under every profile and in every place, what is written for a token is
`NULL`, a boolean, a numeral of ASCII digits or a well-formed string literal, except where
a braced token is no well-formed literal or a numeral has other digits.
-/
theorem isConfined_convert_iff (profile : Profile) (token : Text) (site : Site) :
    IsConfined (convert profile token { site with column := none }).text ↔
      (∀ body, Literal.body? token = some body → isBraced body = true →
        ∃ t, token = Literal.ofText t) ∧
      (Literal.isNumber token = true →
        ∀ c ∈ token, Text.isDecimalDigit c = true → c.isDigit = true) := by
  constructor
  · intro h
    obtain ⟨hbraced, hdigits⟩ := isFaithful_of_isConfined h
    refine ⟨fun body hbody hbraces => ?_, hdigits⟩
    exact (Literal.escape_eq_self_iff token).mp (hbraced body hbody hbraces)
  · rintro ⟨hbraced, hdigits⟩
    refine isConfined_convert profile site ⟨fun body hbody hbraces => ?_, hdigits⟩
    exact (Literal.escape_eq_self_iff token).mpr (hbraced body hbody hbraces)

/-- An expression between two strings is written as it stands. -/
theorem not_isConfined_expression :
    ∃ token, splitValues token = [token] ∧ token = "'\x7b' || x || '\x7d'".toList ∧
      (convert .builtIn token ⟨"t".toList, 0, none, false⟩).text = token ∧ ¬ IsConfined token := by
  let body := "\x7b' || x || '\x7d".toList
  have hbody : Literal.body? ('\'' :: body ++ ['\'']) = some body :=
    enclosed?_eq_some_iff.mpr rfl
  have hraw := text_convert_of_braced .builtIn ⟨"t".toList, 0, none, false⟩ hbody (by decide)
  refine ⟨'\'' :: body ++ ['\''], by decide +kernel, by decide, hraw, fun h => ?_⟩
  exact absurd (escape_of_isConfined h) (by decide +kernel)

/-- A digit of another script is written as it stands. -/
example : splitValues ['٣'] = [['٣']] ∧
    (convert .builtIn ['٣'] ⟨"t".toList, 0, none, false⟩).text = ['٣'] ∧
      '٣'.isDigit = false := by
  decide +kernel

end Value

end DumpConvert
