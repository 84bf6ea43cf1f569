import DumpConvert.Proofs.Sql.Comment
import DumpConvert.Proofs.Statement.Step
import DumpConvert.Proofs.Text.Lines

/-!
# Damage stays in its statement

Whatever is open at the end of a dump, a line that starts a statement is read as if the
dump had ended before it and another one began with it (`continues_of_startsStatement`).
Two runs that have the same statement open go on in the same way, whatever they have read
before (`continues_foldl`), so nothing of the first dump reaches the second.

At the seam the last line of the first dump can lose a carriage return, and an empty line
can appear after it.  Neither changes what the first dump gives by itself
(`finish_step_append_blank`, `finish_step_empty`), because the quotes that are open are
never blanks (`QuoteKnown`).
-/

namespace DumpConvert

/-! ## Blanks at the end of a line -/

namespace Openings

/-- The open quote is one of the quote characters. -/
def QuoteKnown (openings : Openings) : Prop :=
  ∀ quote ∈ openings.quote, Sql.isProtectingQuote quote = true

theorem quoteKnown_none : none.QuoteKnown := by
  intro quote hmem
  cases hmem

theorem QuoteKnown.afterChar {openings : Openings} (h : openings.QuoteKnown) (c : Char) :
    (openings.afterChar c).QuoteKnown := by
  intro quote hmem
  unfold Openings.afterChar at hmem
  split at hmem
  · split at hmem
    · cases hmem
    · exact h quote hmem
  · split at hmem
    · rename_i hquote
      cases hmem
      exact hquote
    · split at hmem
      · exact h quote hmem
      · split at hmem <;> exact h quote hmem

/-- A blank opens and closes nothing. -/
theorem afterChar_of_isBlank
    {openings : Openings} {c : Char} (h : openings.QuoteKnown) (hblank : Text.isBlank c = true) :
    openings.afterChar c = openings := by
  have hne : ∀ quote, Sql.isProtectingQuote quote = true → c ≠ quote := fun quote hquote =>
    Text.ne_of_isBlank hblank (Sql.isBlank_of_isProtectingQuote hquote)
  unfold Openings.afterChar
  split
  · rename_i quote hopen
    rw [if_neg (hne quote (h quote hopen))]
  · have hquote : Sql.isProtectingQuote c = false := Sql.isProtectingQuote_of_isBlank hblank
    have hleft : c ≠ '(' := Text.ne_of_isBlank hblank (by decide)
    have hright : c ≠ ')' := Text.ne_of_isBlank hblank (by decide)
    simp [hquote, hleft, hright]

end Openings

theorem quoteKnown_scanLine
    {openings : Openings} (last : Option Char) (line : Text) (h : openings.QuoteKnown) :
    (scanLine openings last line).1.QuoteKnown := by
  fun_induction scanLine openings last line with
  | case1 openings last => exact h
  | case2 openings last c hcomment => exact h
  | case3 openings last c hcomment => exact h.afterChar c
  | case4 openings last c d rest hcomment hend ih => exact ih h
  | case5 openings last c d rest hcomment hend ih => exact ih h
  | case6 openings last c d rest hcomment hline => exact h
  | case7 openings last c d rest hcomment hline hblock ih => exact ih h
  | case8 openings last c d rest hcomment hline hblock ih => exact ih (h.afterChar c)

theorem scanLine_append_blank
    {openings : Openings} (last : Option Char) (line : Text) {b : Char}
    (h : openings.QuoteKnown) (hblank : Text.isBlank b = true) :
    scanLine openings last (line ++ [b]) = scanLine openings last line := by
  have hstar : b ≠ '*' := Text.ne_of_isBlank hblank (by decide)
  have hslash : b ≠ '/' := Text.ne_of_isBlank hblank (by decide)
  have hhyphen : b ≠ '-' := Text.ne_of_isBlank hblank (by decide)
  fun_induction scanLine openings last line with
  | case1 openings last =>
      simp [scanLine, Openings.afterChar_of_isBlank h hblank, lastSolid, hblank]
  | case2 openings last c hcomment =>
      simp [scanLine, hcomment, hslash]
  | case3 openings last c hcomment =>
      simp [scanLine, hcomment, hstar, hhyphen,
        Openings.afterChar_of_isBlank (h.afterChar c) hblank, lastSolid, hblank]
  | case4 openings last c d rest hcomment hend ih =>
      simp [scanLine, hcomment, hend, ih h]
  | case5 openings last c d rest hcomment hend ih =>
      simp only [List.cons_append, scanLine, hcomment, hend, if_true, if_false]
      exact ih h
  | case6 openings last c d rest hcomment hline =>
      simp [scanLine, hcomment, hline]
  | case7 openings last c d rest hcomment hline hblock ih =>
      simp only [List.cons_append, scanLine, hcomment, hblock]
      exact ih h
  | case8 openings last c d rest hcomment hline hblock ih =>
      simp only [List.cons_append, scanLine, hcomment, hline, hblock, if_false]
      exact ih (h.afterChar c)

/-! ## What a reader of statements sees -/

def Statement.outline (statement : Statement) : StatementKind × Text × Bool :=
  (statement.kind, statement.text, statement.isTerminated)

namespace SplitState

variable {terminators : List Text}

/-- The outlines of the statements, if the dump ended here. -/
def outlines (state : SplitState) : List (StatementKind × Text × Bool) :=
  state.finish.map Statement.outline

theorem outlines_none (done : List Statement) (pending : Nat) :
    outlines ⟨done, none, pending⟩ = (done.map Statement.outline).reverse := by
  simp [outlines, finish]

theorem outlines_some (done : List Statement) (draft : Draft) (pending : Nat) :
    outlines ⟨done, some draft, pending⟩ =
      (done.map Statement.outline).reverse ++ [(draft.kind, draft.text, false)] := by
  simp [outlines, finish, Draft.finish, Statement.outline, Statement.isTerminated]

def QuoteKnown (state : SplitState) : Prop :=
  ∀ draft ∈ state.draft, draft.openings.QuoteKnown

theorem quoteKnown_pushLine
    (done : List Statement) {draft : Draft} (pending : Nat) (line : Text)
    (h : draft.openings.QuoteKnown) : (pushLine done draft pending line).QuoteKnown := by
  rw [pushLine_eq]
  split
  · intro other hmem
    cases hmem
  · intro other hmem
    cases hmem
    rw [Draft.openings_push]
    exact quoteKnown_scanLine none line h

theorem quoteKnown_openLine (done : List Statement) (pending : Nat) (line : Text) :
    (openLine done pending line).QuoteKnown := by
  cases hblank : Text.isBlankText line with
  | true =>
      rw [openLine_of_blank done pending hblank]
      intro draft hmem
      cases hmem
  | false =>
      by_cases hother : StatementKind.ofLine (Text.trim line) = .other
      · rw [openLine_of_other done pending hblank hother]
        intro draft hmem
        cases hmem
      · rw [openLine_of_ne_other done pending hblank hother]
        exact quoteKnown_pushLine done pending line Openings.quoteKnown_none

theorem QuoteKnown.step {state : SplitState} (h : state.QuoteKnown) (line : Text) :
    (SplitState.step terminators state line).QuoteKnown := by
  rcases state with ⟨done, _ | draft, pending⟩
  · exact quoteKnown_openLine done _ line
  · cases hstarts : startsStatement terminators (Text.trim line) with
    | true =>
        rw [step_of_startsStatement _ _ _ hstarts]
        exact quoteKnown_openLine _ _ line
    | false =>
        rw [step_of_inside _ _ _ hstarts]
        exact quoteKnown_pushLine done _ line (h draft rfl)

theorem QuoteKnown.foldl {state : SplitState} (h : state.QuoteKnown) (lines : List Text) :
    (lines.foldl (SplitState.step terminators) state).QuoteKnown := by
  induction lines generalizing state with
  | nil => exact h
  | cons line rest ih => exact ih (h.step line)

/-! ## The seam -/

theorem outlines_pushLine_append_blank
    (done : List Statement) {draft : Draft} (pending : Nat) (line : Text) {b : Char}
    (h : draft.openings.QuoteKnown) (hblank : Text.isBlank b = true) :
    (pushLine done draft pending (line ++ [b])).outlines =
      (pushLine done draft pending line).outlines := by
  have hscan := scanLine_append_blank none line h hblank
  have hcomplete : (draft.push (line ++ [b])).2 = (draft.push line).2 := by
    simp only [Draft.push, hscan]
  have htext : (draft.push (line ++ [b])).1.text = (draft.push line).1.text := by
    rw [Draft.text_push, Draft.text_push, Text.joinWith_append_last]
    exact Text.trim_append_of_blank_right (by simpa using hblank) _
  rw [pushLine_eq, pushLine_eq, hcomplete]
  split
  · simp [outlines_none, Statement.outline, Draft.finish, htext]
  · simp [outlines_some, htext]

theorem outlines_openLine_append_blank
    (done : List Statement) (pending : Nat) (line : Text) {b : Char}
    (hblank : Text.isBlank b = true) :
    (openLine done pending (line ++ [b])).outlines = (openLine done pending line).outlines := by
  have htrim : Text.trim (line ++ [b]) = Text.trim line :=
    Text.trim_append_of_blank_right (by simpa using hblank) line
  have hsame : Text.isBlankText (line ++ [b]) = Text.isBlankText line := by
    simp [Text.isBlankText, hblank]
  cases hline : Text.isBlankText line with
  | true =>
      rw [openLine_of_blank done pending hline,
        openLine_of_blank done pending (hsame.trans hline)]
  | false =>
      by_cases hother : StatementKind.ofLine (Text.trim line) = .other
      · rw [openLine_of_other done pending hline hother,
          openLine_of_other done pending (hsame.trans hline) (by rw [htrim]; exact hother), htrim]
      · rw [openLine_of_ne_other done pending hline hother,
          openLine_of_ne_other done pending (hsame.trans hline) (by rw [htrim]; exact hother),
          htrim]
        exact outlines_pushLine_append_blank done pending line Openings.quoteKnown_none hblank

/-- A blank at the end of the last line changes no statement. -/
theorem outlines_step_append_blank
    {state : SplitState} (line : Text) {b : Char}
    (h : state.QuoteKnown) (hblank : Text.isBlank b = true) :
    (step terminators state (line ++ [b])).outlines = (step terminators state line).outlines := by
  have htrim : Text.trim (line ++ [b]) = Text.trim line :=
    Text.trim_append_of_blank_right (by simpa using hblank) line
  rcases state with ⟨done, _ | draft, pending⟩
  · exact outlines_openLine_append_blank done _ line hblank
  · cases hstarts : startsStatement terminators (Text.trim line) with
    | true =>
        rw [step_of_startsStatement _ _ _ hstarts,
          step_of_startsStatement _ _ _ (by rw [htrim]; exact hstarts), htrim]
        exact outlines_openLine_append_blank _ _ line hblank
    | false =>
        rw [step_of_inside _ _ _ hstarts, step_of_inside _ _ _ (by rw [htrim]; exact hstarts)]
        exact outlines_pushLine_append_blank done _ line (h draft rfl) hblank

/-- An empty line after the last one changes no statement, even if it cuts one off. -/
theorem outlines_step_empty (state : SplitState) :
    (step terminators state []).outlines = state.outlines := by
  rcases state with ⟨done, _ | draft, pending⟩
  · rfl
  · cases hstarts : startsStatement terminators (Text.trim []) with
    | true =>
        rw [step_of_startsStatement _ _ _ hstarts, step_none, openLine_of_blank _ _ rfl,
          outlines_none, outlines_some, List.map_cons, List.reverse_cons]
        rfl
    | false =>
        have htext : (draft.push []).1.text = draft.text := by
          rw [Draft.text_push, Text.joinWith_append_empty]
          apply Text.trim_append_of_blank_right
          split <;> simp [Text.isBlank_of_isWhitespace]
        have hopen : (draft.push []).2 = false := by
          simp [Draft.push, scanLine]
        rw [step_of_inside _ _ _ hstarts, pushLine_eq, hopen]
        simp [outlines_some, htext]

/-- The first dump gives the same outlines with the line feed that ends its last line. -/
theorem outlines_foldl_rawLines (terminators : List Text) (dump : Text) :
    (((Text.rawLines dump).map Text.dropReturn).foldl (step terminators) .start).outlines =
      ((Text.lines dump).foldl (step terminators) .start).outlines := by
  obtain ⟨closed, last, hraw⟩ := Text.exists_rawLines_eq dump
  have hknown :
      ((closed.map Text.dropReturn).foldl (step terminators) .start).QuoteKnown :=
    QuoteKnown.foldl (fun draft hmem => by cases hmem) _
  rw [Text.lines_eq_of_rawLines hraw, hraw, List.map_append, List.foldl_append,
    List.foldl_append]
  -- An empty last piece is no line of the dump; any other one keeps its carriage return there.
  by_cases hnil : last = []
  · rw [if_pos hnil, hnil]
    exact outlines_step_empty _
  · rw [if_neg hnil]
    show (step terminators _ (Text.dropReturn last)).outlines =
      (step terminators _ last).outlines
    rcases Text.dropReturn_eq_or last with hsame | hreturn
    · rw [hsame]
    · have hblank :=
        @outlines_step_append_blank terminators _ (Text.dropReturn last) '\r' hknown (by decide)
      rw [← hreturn] at hblank
      exact hblank.symm

/-! ## The dump after the seam -/

/--
One run has the same statement open as another, and it has read the statements of the
other after some earlier ones, which are given latest first.
-/
structure Continues (earlier : List (StatementKind × Text × Bool)) (whole part : SplitState) :
    Prop where
  draft_eq : whole.draft = part.draft
  done_eq :
    whole.doneReversed.map Statement.outline = part.doneReversed.map Statement.outline ++ earlier

variable {earlier : List (StatementKind × Text × Bool)}

theorem Continues.outlines_eq {whole part : SplitState} (h : Continues earlier whole part) :
    whole.outlines = earlier.reverse ++ part.outlines := by
  rcases whole with ⟨wholeDone, draft, wholePending⟩
  rcases part with ⟨partDone, partDraft, partPending⟩
  obtain ⟨hdraft, hdone⟩ := h
  simp only at hdraft hdone
  subst hdraft
  cases draft with
  | none =>
      rw [outlines_none, outlines_none, hdone, List.reverse_append]
  | some draft =>
      rw [outlines_some, outlines_some, hdone, List.reverse_append, List.append_assoc]

theorem continues_pushLine
    {wholeDone partDone : List Statement} (draft : Draft) (wholePending partPending : Nat)
    (line : Text)
    (h : wholeDone.map Statement.outline = partDone.map Statement.outline ++ earlier) :
    Continues earlier (pushLine wholeDone draft wholePending line)
      (pushLine partDone draft partPending line) := by
  rw [pushLine_eq, pushLine_eq]
  split
  · exact ⟨rfl, congrArg _ h⟩
  · exact ⟨rfl, h⟩

theorem continues_openLine
    {wholeDone partDone : List Statement} (wholePending partPending : Nat) (line : Text)
    (h : wholeDone.map Statement.outline = partDone.map Statement.outline ++ earlier) :
    Continues earlier (openLine wholeDone wholePending line)
      (openLine partDone partPending line) := by
  cases hblank : Text.isBlankText line with
  | true =>
      rw [openLine_of_blank _ _ hblank, openLine_of_blank _ _ hblank]
      exact ⟨rfl, h⟩
  | false =>
      by_cases hother : StatementKind.ofLine (Text.trim line) = .other
      · rw [openLine_of_other _ _ hblank hother, openLine_of_other _ _ hblank hother]
        exact ⟨rfl, congrArg _ h⟩
      · rw [openLine_of_ne_other _ _ hblank hother, openLine_of_ne_other _ _ hblank hother]
        exact continues_pushLine _ _ _ line h

theorem Continues.step {whole part : SplitState} (h : Continues earlier whole part)
    (line : Text) :
    Continues earlier (SplitState.step terminators whole line)
      (SplitState.step terminators part line) := by
  rcases whole with ⟨wholeDone, draft, wholePending⟩
  rcases part with ⟨partDone, partDraft, partPending⟩
  obtain ⟨hdraft, hdone⟩ := h
  simp only at hdraft hdone
  subst hdraft
  cases draft with
  | none => exact continues_openLine _ _ line hdone
  | some draft =>
      cases hstarts : startsStatement terminators (Text.trim line) with
      | true =>
          rw [step_of_startsStatement _ _ _ hstarts, step_of_startsStatement _ _ _ hstarts]
          exact continues_openLine _ _ line (congrArg _ hdone)
      | false =>
          rw [step_of_inside _ _ _ hstarts, step_of_inside _ _ _ hstarts]
          exact continues_pushLine draft _ _ line hdone

theorem Continues.foldl {whole part : SplitState} (h : Continues earlier whole part)
    (lines : List Text) :
    Continues earlier (lines.foldl (SplitState.step terminators) whole)
      (lines.foldl (SplitState.step terminators) part) := by
  induction lines generalizing whole part with
  | nil => exact h
  | cons line rest ih => exact ih (h.step line)

/-- A line that starts a statement is read as the first line of another dump. -/
theorem continues_of_startsStatement
    (state : SplitState) {line : Text}
    (hstarts : startsStatement terminators (Text.trim line) = true) :
    Continues state.outlines.reverse (step terminators state line)
      (step terminators .start line) := by
  rcases state with ⟨done, _ | draft, pending⟩
  · rw [outlines_none, List.reverse_reverse]
    exact continues_openLine _ _ line rfl
  · rw [step_of_startsStatement _ _ _ hstarts, outlines_some, List.reverse_append,
      List.reverse_reverse]
    exact continues_openLine _ _ line rfl

end SplitState

/--
A line that starts a statement keeps two dumps apart: the statements of the whole are
those of the first dump and then those of the second, whatever the first one leaves open.
-/
theorem outline_splitStatements_append
    (terminators : List Text) (first second : Text)
    (h : startsStatement terminators (Text.trim (Text.firstLine second)) = true) :
    (splitStatements terminators (first ++ '\n' :: second)).map Statement.outline =
      (splitStatements terminators first).map Statement.outline ++
        (splitStatements terminators second).map Statement.outline := by
  let before :=
    ((Text.rawLines first).map Text.dropReturn).foldl (SplitState.step terminators) .start
  have hbefore :
      before.outlines = (splitStatements terminators first).map Statement.outline :=
    SplitState.outlines_foldl_rawLines terminators first
  have hwhole :
      (splitStatements terminators (first ++ '\n' :: second)).map Statement.outline =
        ((Text.lines second).foldl (SplitState.step terminators) before).outlines := by
    unfold splitStatements
    rw [Text.lines_append_newline, List.foldl_append]
    rfl
  rw [hwhole, ← hbefore]
  cases hlines : Text.lines second with
  | nil =>
      simp [splitStatements, hlines, SplitState.start, SplitState.finish]
  | cons line rest =>
      have hline : startsStatement terminators (Text.trim line) = true := by
        simpa [Text.firstLine, hlines] using h
      have hrest := @SplitState.Continues.foldl terminators _ _ _
        (SplitState.continues_of_startsStatement before hline) rest
      have hsecond :
          (splitStatements terminators second).map Statement.outline =
            ((line :: rest).foldl (SplitState.step terminators) .start).outlines := by
        rw [← hlines]
        rfl
      rw [hsecond, List.foldl_cons, hrest.outlines_eq, List.reverse_reverse]
      rfl

/-- An open string and an open parenthesis do not reach the line that closes the dump. -/
theorem outline_splitStatements_openString :
    startsStatement ["COMMIT;".toList] (Text.trim (Text.firstLine "commit;\nx".toList)) = true ∧
      (splitStatements ["COMMIT;".toList]
          ("INSERT INTO t VALUES(1,'a\r".toList ++ '\n' :: "commit;\nx".toList)).map
            Statement.outline =
        (splitStatements ["COMMIT;".toList] "INSERT INTO t VALUES(1,'a\r".toList).map
            Statement.outline ++
          (splitStatements ["COMMIT;".toList] "commit;\nx".toList).map Statement.outline := by
  have hstarts :
      startsStatement ["COMMIT;".toList] (Text.trim (Text.firstLine "commit;\nx".toList)) = true := by
    decide
  exact ⟨hstarts, outline_splitStatements_append _ _ _ hstarts⟩

end DumpConvert
