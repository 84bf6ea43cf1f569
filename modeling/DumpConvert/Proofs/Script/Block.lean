import DumpConvert.Proofs.Statement.Containment
import DumpConvert.Script.Block

/-!
# What decides about a block

The block of a statement depends on the registry and on the outline of the statement,
which is its kind, its text and whether it was terminated (`ofStatement_congr`).  A
directive has no line, and the statement that closes the dump has the closing lines.

Summaries add up in any order (`sum_perm`), so what the blocks count together does not
depend on the order of the statements.
-/

namespace DumpConvert

namespace Statement

/-- The line is left out of the script. -/
def isDropped (profile : Profile) (statement : Statement) : Bool :=
  statement.kind == .other && profile.isDirective statement.text

/-- The line closes the dump; a line that is left out does not. -/
def closesDump (profile : Profile) (statement : Statement) : Bool :=
  statement.kind == .other && !profile.isDirective statement.text &&
    profile.isCommit statement.text

end Statement

namespace Block

theorem ofOther_of_isDirective {profile : Profile} {text : Text}
    (h : profile.isDirective text = true) :
    ofOther profile text = ofLines [] { directivesDropped := 1 } [.directiveDropped text] := by
  simp [ofOther, h]

theorem ofOther_of_isCommit {profile : Profile} {text : Text}
    (hkept : profile.isDirective text = false) (hcommit : profile.isCommit text = true) :
    ofOther profile text = ⟨closingLines profile, .zero, [], true⟩ := by
  simp [ofOther, hkept, hcommit]

theorem ofOther_of_passed {profile : Profile} {text : Text}
    (hkept : profile.isDirective text = false) (hopen : profile.isCommit text = false) :
    ofOther profile text = ofLines [text] { linesPassedThrough := 1 } [] := by
  simp [ofOther, hkept, hopen]

theorem lines_of_isDropped {profile : Profile} {statement : Statement}
    (h : statement.isDropped profile = true) (registry : Option Registry) :
    (ofStatement profile registry statement).lines = [] := by
  have hparts : statement.kind = .other ∧ profile.isDirective statement.text = true := by
    simpa [Statement.isDropped] using h
  rw [ofStatement, hparts.1]
  exact congrArg Block.lines (ofOther_of_isDirective hparts.2)

theorem lines_of_closesDump {profile : Profile} {statement : Statement}
    (h : statement.closesDump profile = true) (registry : Option Registry) :
    (ofStatement profile registry statement).lines = closingLines profile := by
  have hparts : (statement.kind = .other ∧ profile.isDirective statement.text = false) ∧
      profile.isCommit statement.text = true := by
    simpa [Statement.closesDump] using h
  obtain ⟨⟨hkind, hkept⟩, hcommit⟩ := hparts
  rw [ofStatement, hkind]
  exact congrArg Block.lines (ofOther_of_isCommit hkept hcommit)

theorem commits_ofOther (profile : Profile) (text : Text) :
    (ofOther profile text).commits = (!profile.isDirective text && profile.isCommit text) := by
  cases hdropped : profile.isDirective text with
  | true => exact congrArg commits (ofOther_of_isDirective hdropped)
  | false =>
      cases hcommit : profile.isCommit text with
      | true => exact congrArg commits (ofOther_of_isCommit hdropped hcommit)
      | false => exact congrArg commits (ofOther_of_passed hdropped hcommit)

theorem commits_ofCreateTable (profile : Profile) (text : Text) :
    (ofCreateTable profile text).commits = false := by
  unfold ofCreateTable
  split <;> rfl

theorem commits_ofInsert (profile : Profile) (registry : Option Registry) (text : Text) :
    (ofInsert profile registry text).commits = false := by
  unfold ofInsert
  split <;> rfl

/-- Only the line that closes the dump has a block that says so. -/
theorem commits_ofStatement (profile : Profile) (registry : Option Registry)
    (statement : Statement) :
    (ofStatement profile registry statement).commits = statement.closesDump profile := by
  unfold ofStatement Statement.closesDump
  cases hkind : statement.kind with
  | createTable => exact commits_ofCreateTable profile statement.text
  | insert =>
      dsimp only
      split
      · exact commits_ofInsert profile registry statement.text
      · rfl
  | other => exact commits_ofOther profile statement.text

theorem ofStatement_congr {s t : Statement} (h : s.outline = t.outline) (profile : Profile)
    (registry : Option Registry) :
    ofStatement profile registry s = ofStatement profile registry t := by
  have hkind : s.kind = t.kind := congrArg (·.1) h
  have htext : s.text = t.text := congrArg (·.2.1) h
  have hended : s.isTerminated = t.isTerminated := congrArg (·.2.2) h
  rw [ofStatement, ofStatement, hkind, htext, hended]

end Block

namespace Summary

theorem foldl_add (start : Summary) (summaries : List Summary) :
    summaries.foldl (· + ·) start = start + sum summaries := by
  induction summaries generalizing start with
  | nil => exact (add_zero start).symm
  | cons a rest ih =>
      have hrest : sum (a :: rest) = a + sum rest := by
        rw [sum, List.foldl_cons, zero_add, ih]
      rw [List.foldl_cons, ih, hrest, add_assoc]

theorem sum_cons (a : Summary) (rest : List Summary) : sum (a :: rest) = a + sum rest := by
  rw [sum, List.foldl_cons, zero_add, foldl_add]

theorem sum_perm {a b : List Summary} (h : a.Perm b) : sum a = sum b := by
  induction h with
  | nil => rfl
  | cons x _ ih => rw [sum_cons, sum_cons, ih]
  | swap x y rest =>
      rw [sum_cons, sum_cons, sum_cons, sum_cons, ← add_assoc, ← add_assoc, add_comm x y]
  | trans _ _ ih ih' => exact ih.trans ih'

end Summary

end DumpConvert
