import DumpConvert.Proofs.Sql.ValueToken
import DumpConvert.Proofs.Text.Numeral
import DumpConvert.Proofs.Value.Forms

/-!
# Values are tokens again

Whatever a rule writes for a token is one token of a value list (`isToken_convert`): it
is the token itself, a text between apostrophes, or a plain word.  It is empty only if
the token was (`convert_ne_nil`).
-/

namespace DumpConvert

/-! ## Timestamps -/

theorem Text.not_mem_paddedDecimal {c : Char} (h : c.isDigit = false) (width n : Nat) :
    c ∉ Text.paddedDecimal width n := by
  intro hmem
  rw [Text.isDigit_of_mem_paddedDecimal hmem] at h
  exact Bool.noConfusion h

theorem Date.not_mem_yearText (year : Int) : '\'' ∉ Date.yearText year := by
  unfold Date.yearText
  split
  · exact Text.not_mem_paddedDecimal (by decide) _ _
  · intro hmem
    rcases List.mem_cons.mp hmem with hsign | hdigits
    · split at hsign <;> exact absurd hsign (by decide)
    · exact Text.not_mem_paddedDecimal (by decide) _ _ hdigits

theorem Date.not_mem_text (date : Date) : '\'' ∉ date.text := by
  simp [Date.text, Date.not_mem_yearText, Text.not_mem_paddedDecimal]

theorem Moment.not_mem_text (moment : Moment) : '\'' ∉ moment.text := by
  simp [Moment.text, Date.not_mem_text, Text.not_mem_paddedDecimal]

/-- A timestamp literal is a string literal. -/
theorem Moment.exists_literal_eq (moment : Moment) :
    ∃ t, moment.literal = Sql.Literal.ofText t := by
  refine ⟨moment.text ++ '.' :: Text.paddedDecimal 3 moment.millisecond ++ ['+', '0', '0'], ?_⟩
  rw [Sql.Literal.ofText, Sql.enclose_of_not_mem]
  · simp [Moment.literal]
  · simp [Moment.not_mem_text, Text.not_mem_paddedDecimal]

namespace Value

open Sql

theorem exists_eq_ofText_of_epochLiteral? {numeral literal : Text}
    (h : epochLiteral? numeral = some literal) : ∃ t, literal = Literal.ofText t := by
  unfold epochLiteral? at h
  split at h
  · cases h
  · dsimp only at h
    split at h
    · cases h
    · cases h
      exact Moment.exists_literal_eq _

/-! ## Every form is a token -/

theorem isToken_ofText (t : Text) : IsToken (Literal.ofText t) := by
  exact isToken_enclose (by decide) t

/-- Between apostrophes, a text without them is a token. -/
theorem isToken_of_not_mem {t : Text} (h : '\'' ∉ t) : IsToken ('\'' :: t ++ ['\'']) := by
  rw [← enclose_of_not_mem h]
  exact isToken_enclose (by decide) t

theorem not_mem_of_isDigits {t : Text} {c : Char} (h : Text.isDigits t = true)
    (hc : c.isDigit = false) : c ∉ t := by
  intro hmem
  have hall : t.all Char.isDigit = true := (Bool.and_eq_true_iff.mp h).2
  rw [List.all_eq_true.mp hall c hmem] at hc
  exact Bool.noConfusion hc

theorem WrittenAs.isToken {token written : Text} (h : WrittenAs token written)
    (htoken : IsToken token) : IsToken written := by
  cases h with
  | same => exact htoken
  | quoted => exact isToken_ofText _
  | zero hzero => exact isToken_of_isPlain rfl (by decide) rfl
  | one hone => exact isToken_of_isPlain rfl (by decide) rfl
  | timestamp hdigits hliteral =>
      obtain ⟨t, rfl⟩ := exists_eq_ofText_of_epochLiteral? hliteral
      exact isToken_ofText t
  | numeral hdigits => exact isToken_of_not_mem (not_mem_of_isDigits hdigits (by decide))

theorem isToken_plainToken {token : Text} (h : IsToken token) : IsToken (plainToken token) := by
  unfold plainToken
  split
  · exact isToken_ofText _
  · exact h

theorem not_mem_of_blobDigits? {token digits : Text}
    (h : Literal.blobDigits? token = some digits) : '\'' ∉ digits := by
  cases token with
  | nil => cases h
  | cons c rest =>
      rw [Literal.blobDigits?] at h
      split at h
      · have hall : digits.all Literal.isHexDigit = true := (Option.filter_eq_some_iff.mp h).2
        intro hmem
        exact absurd (List.all_eq_true.mp hall _ hmem) (by decide)
      · cases h

theorem isToken_convert (profile : Profile) {token : Text} (site : Site) (h : IsToken token) :
    IsToken (convert profile token site).text := by
  rcases text_convert_cases profile token site with
    ⟨-, hnull⟩ | ⟨digits, hdigits, hblob⟩ | hwritten
  · rw [hnull]
    exact isToken_of_isPlain rfl (by decide) rfl
  · rw [hblob]
    have hbody : '\'' ∉ '\\' :: 'x' :: digits := by
      simp [not_mem_of_blobDigits? hdigits]
    exact isToken_of_not_mem hbody
  · exact hwritten.isToken (isToken_plainToken h)

/-! ## Empty values -/

theorem ofText_ne_nil (t : Text) : Literal.ofText t ≠ [] := by
  exact List.cons_ne_nil _ _

theorem WrittenAs.ne_nil {token written : Text} (h : WrittenAs token written)
    (htoken : token ≠ []) : written ≠ [] := by
  cases h with
  | same => exact htoken
  | quoted => exact ofText_ne_nil _
  | zero hzero => exact List.cons_ne_nil _ _
  | one hone => exact List.cons_ne_nil _ _
  | timestamp hdigits hliteral =>
      obtain ⟨t, rfl⟩ := exists_eq_ofText_of_epochLiteral? hliteral
      exact ofText_ne_nil t
  | numeral hdigits => exact List.cons_ne_nil _ _

theorem plainToken_ne_nil {token : Text} (h : token ≠ []) : plainToken token ≠ [] := by
  unfold plainToken
  split
  · exact ofText_ne_nil _
  · exact h

/-- No value disappears. -/
theorem convert_ne_nil (profile : Profile) {token : Text} (site : Site) (h : token ≠ []) :
    (convert profile token site).text ≠ [] := by
  rcases text_convert_cases profile token site with
    ⟨-, hnull⟩ | ⟨digits, -, hblob⟩ | hwritten
  · rw [hnull]
    exact List.cons_ne_nil _ _
  · rw [hblob]
    exact List.cons_ne_nil _ _
  · exact hwritten.ne_nil (plainToken_ne_nil h)

end Value

end DumpConvert
