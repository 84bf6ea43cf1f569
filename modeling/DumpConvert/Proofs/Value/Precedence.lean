import DumpConvert.Profile.Basic
import DumpConvert.Proofs.Value.Column
import DumpConvert.Proofs.Value.Preservation

/-!
# When no column decides

Six rules are tried for a token without a column, and the first one that applies writes it
(`ShapeRule.order`).  `Value.withoutSchema` goes another way: it writes the token by its
shape first and repairs the result at a position of timestamps.  Both are the same, because
a repair takes nothing back that the first rule has written and replaces whatever a later
one has (`withoutSchema_eq`).

A value counts as repaired exactly if the first rule wrote it for its position alone
(`convert_eq_firstRule`).
-/

namespace DumpConvert.Value

open Sql

inductive ShapeRule where
  | epoch
  | flag
  | braced
  | quoted
  | number
  | plain
deriving Repr, DecidableEq

namespace ShapeRule

def later : List ShapeRule :=
  [.flag, .braced, .quoted, .number, .plain]

def order : List ShapeRule :=
  .epoch :: later

def applies (profile : Profile) (token : Text) (site : Site) : ShapeRule → Bool
  | .epoch =>
      Text.isDigits token &&
        (token.length == profile.heuristicEpochDigits ||
          profile.isRepairPosition site.table site.position &&
            decide (profile.minEpochDigits ≤ token.length))
  | .flag =>
      (token == ['0'] || token == ['1']) &&
        (site.booleanHint || profile.isBooleanPosition site.table site.position)
  | .braced => (Literal.body? token).any isBraced
  | .quoted => Literal.isQuoted token
  | .number => Literal.isNumber token
  | .plain => true

def rendered (token : Text) : ShapeRule → Rendered
  | .epoch => epochOrQuoted token
  | .flag => ⟨if token = ['1'] then "true".toList else "false".toList, .boolean⟩
  | .braced => ⟨token, .json⟩
  | .quoted => ⟨Literal.escape token, .text⟩
  | .number => ⟨token, .numeric⟩
  | .plain => ⟨Literal.escape token, .text⟩

theorem isTimestampKind_rendered (token : Text) (rule : ShapeRule) :
    isTimestampKind (rule.rendered token).kind = true ↔ rule = .epoch := by
  cases rule with
  | epoch =>
      rw [rendered, epochOrQuoted]
      split <;> simp [isTimestampKind]
  | flag | braced | quoted | number | plain => simp [rendered, isTimestampKind]

end ShapeRule

variable (profile : Profile) (token : Text) (site : Site)

/-! ## The shape of a token -/

theorem byShape_of_epochLength
    (h : Text.isDigits token = true ∧ token.length = profile.heuristicEpochDigits) :
    byShape profile token site = ShapeRule.epoch.rendered token := by
  rw [byShape, if_pos h]
  rfl

theorem filter_boolean? :
    (boolean? token).filter
        (fun _ => site.booleanHint || profile.isBooleanPosition site.table site.position) =
      if ShapeRule.applies profile token site .flag then some (ShapeRule.flag.rendered token)
      else none := by
  by_cases hzero : token = ['0']
  · subst hzero
    rfl
  · by_cases hone : token = ['1']
    · subst hone
      rfl
    · simp [boolean?, ShapeRule.applies, hzero, hone]

/-- A token without the length of a timestamp is written by the first of the later rules. -/
theorem exists_byShape_eq
    (h : ¬ (Text.isDigits token = true ∧ token.length = profile.heuristicEpochDigits)) :
    ∃ rule, rule ≠ .epoch ∧
      ShapeRule.later.find? (ShapeRule.applies profile token site) = some rule ∧
      byShape profile token site = rule.rendered token := by
  simp only [byShape, if_neg h, filter_boolean?]
  cases hflag : ShapeRule.applies profile token site .flag with
  | true =>
      exact ⟨.flag, ShapeRule.noConfusion, List.find?_cons_of_pos hflag, rfl⟩
  | false =>
      have hskip : ShapeRule.later.find? (ShapeRule.applies profile token site) =
          [.braced, .quoted, .number, .plain].find? (ShapeRule.applies profile token site) :=
        List.find?_cons_of_neg (by rw [hflag]; exact Bool.false_ne_true)
      rw [hskip]
      cases hbody : Literal.body? token with
      | some body =>
          cases hbraced : isBraced body with
          | true =>
              exact ⟨.braced, ShapeRule.noConfusion, by simp [ShapeRule.applies, hbody, hbraced],
                by simp [ShapeRule.rendered, hbraced]⟩
          | false =>
              exact ⟨.quoted, ShapeRule.noConfusion,
                by simp [ShapeRule.applies, Literal.isQuoted, hbody, hbraced],
                by simp [ShapeRule.rendered, hbraced]⟩
      | none =>
          cases hnumber : Literal.isNumber token with
          | true =>
              exact ⟨.number, ShapeRule.noConfusion,
                by simp [ShapeRule.applies, Literal.isQuoted, hbody, hnumber],
                by simp [ShapeRule.rendered, numberOrText, hnumber]⟩
          | false =>
              exact ⟨.plain, ShapeRule.noConfusion,
                by simp [ShapeRule.applies, Literal.isQuoted, hbody, hnumber],
                by simp [ShapeRule.rendered, numberOrText, hnumber]⟩

/-! ## The repair -/

theorem applies_epoch :
    ShapeRule.applies profile token site .epoch = true ↔
      (Text.isDigits token = true ∧ token.length = profile.heuristicEpochDigits) ∨
        (profile.isRepairPosition site.table site.position = true ∧
          isEpochCandidate profile token = true) := by
  simp only [ShapeRule.applies, isEpochCandidate, Bool.and_eq_true, Bool.or_eq_true, beq_iff_eq]
  rw [and_or_left, and_left_comm]

/-- The first rule that applies writes the token, and a repair is the first rule of all. -/
theorem withoutSchema_eq :
    ∃ rule, ShapeRule.order.find? (ShapeRule.applies profile token site) = some rule ∧
      withoutSchema profile token site =
        ⟨rule.rendered token, false,
          decide (rule = .epoch ∧ token.length ≠ profile.heuristicEpochDigits)⟩ := by
  by_cases hlength : Text.isDigits token = true ∧ token.length = profile.heuristicEpochDigits
  · -- The shape gives a timestamp already, so there is nothing to repair.
    refine ⟨.epoch, List.find?_cons_of_pos ((applies_epoch ..).mpr (.inl hlength)), ?_⟩
    have hkind := (ShapeRule.isTimestampKind_rendered token .epoch).mpr rfl
    rw [withoutSchema, byShape_of_epochLength profile token site hlength]
    simp [hkind, hlength.2]
  · obtain ⟨rule, hne, hfind, hshape⟩ := exists_byShape_eq profile token site hlength
    have hkind : isTimestampKind (rule.rendered token).kind = false := by
      rw [Bool.eq_false_iff, Ne, ShapeRule.isTimestampKind_rendered]
      exact hne
    rw [withoutSchema, hshape]
    by_cases hrepair : profile.isRepairPosition site.table site.position = true ∧
        isEpochCandidate profile token = true
    · refine ⟨.epoch, List.find?_cons_of_pos ((applies_epoch ..).mpr (.inr hrepair)), ?_⟩
      have hdigits := isDigits_of_isEpochCandidate hrepair.2
      have hother : token.length ≠ profile.heuristicEpochDigits := fun heq =>
        hlength ⟨hdigits, heq⟩
      have hnow : (!isTimestampKind (rule.rendered token).kind &&
          profile.isRepairPosition site.table site.position &&
            isEpochCandidate profile token) = true := by
        simp [hkind, hrepair]
      simp only [hnow, if_true]
      simp [ShapeRule.rendered, hother]
    · have hskip : ¬ ShapeRule.applies profile token site .epoch = true := by
        rw [applies_epoch]
        exact fun happlies => happlies.elim hlength hrepair
      refine ⟨rule, (List.find?_cons_of_neg hskip).trans hfind, ?_⟩
      have hkeep : (!isTimestampKind (rule.rendered token).kind &&
          profile.isRepairPosition site.table site.position &&
            isEpochCandidate profile token) = false := by
        rw [hkind, Bool.eq_false_iff]
        simpa using hrepair
      simp [hkeep, hne]

/--
A token that is neither `NULL` nor a blob nor a call of `replace` is written, without a
column, by the first rule that applies to it.  The value counts as repaired exactly if that
rule is the first of all and the length of the token is not the one of a timestamp.
-/
theorem convert_eq_firstRule (hnull : token ≠ "NULL".toList)
    (hblob : Literal.blobDigits? token = none) (hcall : Literal.replaceCall? token = none)
    (hcolumn : site.column = none) :
    ∃ rule, ShapeRule.order.find? (ShapeRule.applies profile token site) = some rule ∧
      (convert profile token site).toRendered = rule.rendered token ∧
      (convert profile token site).schemaDriven = false ∧
      ((convert profile token site).repaired = true ↔
        rule = .epoch ∧ token.length ≠ profile.heuristicEpochDigits) := by
  obtain ⟨rule, hfind, heq⟩ := withoutSchema_eq profile token site
  have hconvert : convert profile token site = withoutSchema profile token site := by
    rw [convert, if_neg hnull]
    simp only [hblob, plainToken, hcall, hcolumn, Option.bind_none]
  rw [hconvert, heq]
  exact ⟨rule, hfind, rfl, rfl, decide_eq_true_iff⟩

/-- A numeral of ten digits that its position alone makes a timestamp. -/
theorem convert_eq_firstRule_repairPosition :
    let token := "1696089600".toList
    let site : Site := ⟨"Order".toList, 8, none, true⟩
    token ≠ "NULL".toList ∧ Literal.blobDigits? token = none ∧
      Literal.replaceCall? token = none ∧ site.column = none ∧
      ∃ rule, ShapeRule.order.find? (ShapeRule.applies .builtIn token site) = some rule ∧
        (convert .builtIn token site).toRendered = rule.rendered token ∧
        (convert .builtIn token site).schemaDriven = false ∧
        ((convert .builtIn token site).repaired = true ↔
          rule = .epoch ∧ token.length ≠ Profile.builtIn.heuristicEpochDigits) := by
  intro token site
  have hcall : Literal.replaceCall? token = none := Literal.replaceCall?_eq_none (by decide)
  exact ⟨by decide, by decide, hcall, rfl,
    convert_eq_firstRule .builtIn token site (by decide) (by decide) hcall rfl⟩

end DumpConvert.Value
