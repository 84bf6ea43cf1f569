import DumpConvert.Proofs.Sql.Quoting
import DumpConvert.Value

/-!
# What a value can be written as

The profile, the column and the place of a token decide which rule writes it, but they
leave few choices for what is written (`WrittenAs`): the token as it is, the token as a
string literal, a boolean for `0` or `1`, or the timestamp of a numeral.  `convert` adds
`NULL` and blobs to these (`text_convert_cases`), so every statement about all profiles
and places is a case analysis over `WrittenAs`.
-/

namespace DumpConvert.Value

open Sql

inductive WrittenAs (token : Text) : Text → Prop where
  | same : WrittenAs token token
  | quoted : WrittenAs token (Literal.escape token)
  | zero (h : token = ['0']) : WrittenAs token "false".toList
  | one (h : token = ['1']) : WrittenAs token "true".toList
  | timestamp {literal : Text} (hdigits : Text.isDigits token = true)
      (h : epochLiteral? token = some literal) : WrittenAs token literal
  | numeral (hdigits : Text.isDigits token = true) : WrittenAs token ('\'' :: token ++ ['\''])

/-! ## Rules by type -/

theorem writtenAs_epochOrQuoted {token : Text} (h : Text.isDigits token = true) :
    WrittenAs token (epochOrQuoted token).text := by
  unfold epochOrQuoted
  split
  · rename_i literal hliteral
    exact .timestamp h hliteral
  · exact .numeral h

theorem isDigits_of_isEpochCandidate {profile : Profile} {token : Text}
    (h : isEpochCandidate profile token = true) : Text.isDigits token = true := by
  unfold isEpochCandidate at h
  exact (Bool.and_eq_true_iff.mp h).1

theorem writtenAs_timestampValue (profile : Profile) (token : Text) :
    WrittenAs token (timestampValue profile token).text := by
  unfold timestampValue
  split
  · exact .same
  · split
    · rename_i hcandidate
      exact writtenAs_epochOrQuoted (isDigits_of_isEpochCandidate hcandidate)
    · exact .quoted

theorem writtenAs_of_boolean? {token : Text} {rendered : Rendered}
    (h : boolean? token = some rendered) : WrittenAs token rendered.text := by
  unfold boolean? at h
  split at h
  · rename_i hzero
    cases h
    exact .zero hzero
  · split at h
    · rename_i hone
      cases h
      exact .one hone
    · cases h

theorem writtenAs_numberOrText (token : Text) : WrittenAs token (numberOrText token).text := by
  unfold numberOrText
  split
  · exact .same
  · exact .quoted

theorem writtenAs_byClass (profile : Profile) (token : Text) (kind : TypeClass) :
    WrittenAs token (byClass profile token kind).text := by
  cases kind with
  | timestamp => exact writtenAs_timestampValue profile token
  | boolean =>
      show WrittenAs token ((boolean? token).getD ⟨token, .unchanged⟩).text
      cases hflag : boolean? token with
      | none => exact .same
      | some flag => exact writtenAs_of_boolean? hflag
  | text => exact .quoted
  | numeric => exact .same
  | json =>
      simp only [byClass]
      split
      · exact .same
      · exact .quoted

theorem writtenAs_of_bySchema? {profile : Profile} {token : Text} {column : Column}
    {rendered : Rendered} (h : bySchema? profile token column = some rendered) :
    WrittenAs token rendered.text := by
  unfold bySchema? at h
  split at h
  · cases h
    exact writtenAs_timestampValue profile token
  · split at h
    · cases h
      exact writtenAs_byClass profile token _
    · split at h
      · cases h
      · cases h
        exact writtenAs_numberOrText token

/-! ## Rules by shape -/

theorem writtenAs_byShape (profile : Profile) (token : Text) (site : Site) :
    WrittenAs token (byShape profile token site).text := by
  unfold byShape
  split
  · rename_i hdigits
    exact writtenAs_epochOrQuoted hdigits.1
  · dsimp only
    split
    · rename_i flag hflag
      exact writtenAs_of_boolean? (Option.eq_some_of_filter_eq_some hflag)
    · split
      · split
        · exact .same
        · exact .quoted
      · exact writtenAs_numberOrText token

theorem writtenAs_withoutSchema (profile : Profile) (token : Text) (site : Site) :
    WrittenAs token (withoutSchema profile token site).text := by
  unfold withoutSchema
  dsimp only
  split
  · rename_i hrepair
    exact writtenAs_epochOrQuoted
      (isDigits_of_isEpochCandidate (Bool.and_eq_true_iff.mp hrepair).2)
  · exact writtenAs_byShape profile token site

/-! ## All rules -/

/-- A token is `NULL`, a blob, or written by one of the rules once `replace` is carried out. -/
theorem text_convert_cases (profile : Profile) (token : Text) (site : Site) :
    (token = "NULL".toList ∧ (convert profile token site).text = "NULL".toList) ∨
    (∃ digits, Literal.blobDigits? token = some digits ∧
      (convert profile token site).text = '\'' :: '\\' :: 'x' :: digits ++ ['\'']) ∨
    WrittenAs (plainToken token) (convert profile token site).text := by
  unfold convert
  split
  · rename_i hnull
    exact .inl ⟨hnull, rfl⟩
  · split
    · rename_i digits hdigits
      exact .inr (.inl ⟨digits, hdigits, rfl⟩)
    · refine .inr (.inr ?_)
      dsimp only
      split
      · rename_i rendered hrendered
        obtain ⟨column, -, hcolumn⟩ := Option.bind_eq_some_iff.mp hrendered
        exact writtenAs_of_bySchema? hcolumn
      · exact writtenAs_withoutSchema profile _ site

end DumpConvert.Value
