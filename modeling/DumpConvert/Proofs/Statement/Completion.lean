import DumpConvert.Proofs.Statement.LineScan

/-!
# When a statement is complete

The text of a statement is complete if nothing is open after it and it ends in a semicolon,
comments and blanks at its ends disregarded (`IsCompleteText`).  An open statement is
completed by a line whose text is complete, but only if some of that line is left when
comments are stripped (`Draft.push_iff`): the scan carries what is open from line to line,
and it looks for the semicolon in the last line only.

So the statement stays open behind its semicolon exactly if a block comment that opened
behind the semicolon was still open at the end of an earlier line
(`Draft.push_iff_isCompleteText_iff`).
-/

namespace DumpConvert

/-! ## Complete texts -/

/-- A text without its comments, trimmed. -/
def bareText (t : Text) : Text :=
  Text.trim (Sql.stripComments t)

structure IsCompleteText (t : Text) : Prop where
  quote_closed : Sql.openQuote none (Sql.stripComments t) = none
  comment_closed : ¬ Sql.LeavesCommentOpen t
  parens_closed : parenDepth none (Sql.stripComments t) ≤ 0
  /-- The semicolon at the end stands outside quotes. -/
  ends : ∃ front, bareText t = front ++ [';'] ∧ Sql.openQuote none front = none

theorem Openings.allowEnd_ofText_iff (t : Text) :
    (ofText t).allowEnd = true ↔
      Sql.openQuote .none (Sql.stripComments t) = .none ∧ ¬ Sql.LeavesCommentOpen t ∧
        parenDepth .none (Sql.stripComments t) ≤ 0 := by
  rw [← quote_ofText, ← inComment_ofText, ← depth_ofText]
  simp [allowEnd, and_assoc]

/-- If no quote is open after a text, then none is open before its last semicolon. -/
theorem openQuote_of_bareText {t front : Text} (hbare : bareText t = front ++ [';'])
    (hclosed : Sql.openQuote none (Sql.stripComments t) = none) :
    Sql.openQuote none front = none := by
  obtain ⟨lead, tail, heq, hlead, htail⟩ := Text.exists_eq_append_trim (Sql.stripComments t)
  have hknown : ∀ u, ∀ q ∈ Sql.openQuote none u, Sql.isProtectingQuote q = true := fun u =>
    Sql.isProtectingQuote_of_mem_openQuote (by simp) u
  rw [heq, Sql.openQuote_append, Sql.openQuote_of_blank (hknown _) htail, Sql.openQuote_append,
    Sql.openQuote_of_blank (by simp) hlead, show Text.trim _ = front ++ [';'] from hbare,
    Sql.openQuote_append] at hclosed
  have hmark : Sql.protectAfter (Sql.openQuote none front) ';' = Sql.openQuote none front :=
    Sql.protectAfter_of_unquoted (hknown front) (by decide)
  exact hmark.symm.trans hclosed

theorem isCompleteText_iff (t : Text) :
    IsCompleteText t ↔
      (Openings.ofText t).allowEnd = true ∧ (bareText t).getLast? = some ';' := by
  rw [Openings.allowEnd_ofText_iff]
  constructor
  · rintro ⟨hquote, hcomment, hparens, front, hbare, -⟩
    exact ⟨⟨hquote, hcomment, hparens⟩, by rw [hbare, List.getLast?_concat]⟩
  · rintro ⟨⟨hquote, hcomment, hparens⟩, hlast⟩
    obtain ⟨front, hbare⟩ := List.getLast?_eq_some_iff.mp hlast
    exact ⟨hquote, hcomment, hparens, front, hbare, openQuote_of_bareText hbare hquote⟩

/-- What is complete with more blanks is complete without them, unless they end a comment. -/
theorem IsCompleteText.of_append_blank {s t gap : Text} (h : IsCompleteText t)
    (hstrip : Sql.stripComments t = Sql.stripComments s ++ gap)
    (hgap : ∀ b ∈ gap, Text.isBlank b = true) (hcomment : ¬ Sql.LeavesCommentOpen s) :
    IsCompleteText s := by
  have hknown : ∀ q ∈ Sql.openQuote none (Sql.stripComments s),
      Sql.isProtectingQuote q = true :=
    Sql.isProtectingQuote_of_mem_openQuote (by simp) _
  have hnone : parenDepth (Sql.openQuote none (Sql.stripComments s)) gap = 0 := by
    have hmore := parenDepth_append_of_blank hknown hgap []
    rwa [List.append_nil] at hmore
  have hquote := h.quote_closed
  have hparens := h.parens_closed
  rw [hstrip, Sql.openQuote_append, Sql.openQuote_of_blank hknown hgap] at hquote
  rw [hstrip, parenDepth_append, hnone, Int.add_zero] at hparens
  have hbare : bareText t = bareText s := by
    rw [bareText, hstrip]
    exact Text.trim_append_of_blank_right hgap _
  have hends := h.ends
  rw [hbare] at hends
  exact ⟨hquote, hcomment, hparens, hends⟩

/-! ## The line that completes a statement -/

theorem foldl_lastSolid_of_blank (last : Option Char) {gap : Text}
    (h : ∀ b ∈ gap, Text.isBlank b = true) : gap.foldl lastSolid last = last := by
  induction gap with
  | nil => rfl
  | cons b rest ih =>
      obtain ⟨hb, hrest⟩ := List.forall_mem_cons.mp h
      rw [List.foldl_cons, lastSolid, if_pos hb, ih hrest]

/-- The last character that is no blank is the last one of the trimmed text. -/
theorem foldl_lastSolid (last : Option Char) (t : Text) :
    t.foldl lastSolid last = (Text.trim t).getLast?.or last := by
  obtain ⟨lead, tail, heq, hlead, htail⟩ := Text.exists_eq_append_trim t
  have hsolid := ((Text.trim_eq_self_iff (Text.trim t)).mp (Text.trim_trim t)).2
  conv_lhs => rw [heq]
  rw [List.foldl_append, List.foldl_append, foldl_lastSolid_of_blank last hlead,
    foldl_lastSolid_of_blank _ htail]
  cases hlast : (Text.trim t).getLast? with
  | none =>
      rw [List.getLast?_eq_none_iff.mp hlast]
      rfl
  | some c =>
      obtain ⟨front, hfront⟩ := List.getLast?_eq_some_iff.mp hlast
      rw [hfront, List.foldl_append, List.foldl_cons, lastSolid, hsolid c hlast]
      rfl

namespace Draft

variable {kind : StatementKind}

/-- Behind earlier lines only what is left of the line itself is searched for the semicolon. -/
theorem push_eq {earlier : List Text} {line : Text} (h : ∀ l ∈ earlier ++ [line], '\n' ∉ l) :
    (((start kind).pushAll earlier).push line).2 =
      ((Openings.ofText (Text.joinWith ['\n'] (earlier ++ [line]))).allowEnd &&
        (Text.trim (Sql.stripFrom
          (Sql.modeAfter .code (Text.joinWith ['\n'] earlier)).nextLine line)).getLast? ==
            some ';') := by
  obtain ⟨hearlier, hline⟩ := List.forall_mem_append.mp h
  have hopenings : ((start kind).pushAll earlier).openings =
      .ofText (Text.joinWith ['\n'] earlier) :=
    (openings_pushAll _ _).trans (scanLines_eq_ofText hearlier)
  rw [push, hopenings, scanLine_ofText earlier (hline line (List.mem_singleton_self line)),
    foldl_lastSolid, Option.or_none]

/--
A line completes the statement exactly if its text is complete with the line, and the line
adds more to it than comments and blanks.
-/
theorem push_iff {earlier : List Text} {line : Text} (h : ∀ l ∈ earlier ++ [line], '\n' ∉ l) :
    (((start kind).pushAll earlier).push line).2 = true ↔
      IsCompleteText (Text.joinWith ['\n'] (earlier ++ [line])) ∧
        bareText (Text.joinWith ['\n'] (earlier ++ [line])) ≠
          bareText (Text.joinWith ['\n'] earlier) := by
  obtain ⟨gap, hgap, hstrip, -⟩ := Sql.strip_joinWith_append earlier line
  rw [push_eq h, isCompleteText_iff, Bool.and_eq_true, beq_iff_eq, and_assoc]
  generalize Sql.stripFrom _ line = kept at hstrip ⊢
  have hsame : bareText (Text.joinWith ['\n'] (earlier ++ [line])) =
      bareText (Text.joinWith ['\n'] earlier) ↔ Text.isBlankText kept = true := by
    have hblank := Text.trim_append_eq_iff
      (Sql.stripComments (Text.joinWith ['\n'] earlier)) (gap ++ kept)
    rw [bareText, hstrip, List.append_assoc, bareText, hblank, List.forall_mem_append,
      and_iff_right hgap, Text.isBlankText, List.all_eq_true]
  have hlast : (bareText (Text.joinWith ['\n'] (earlier ++ [line]))).getLast? =
      (Text.trim kept).getLast?.or (bareText (Text.joinWith ['\n'] earlier)).getLast? := by
    have hwhole := foldl_lastSolid none
      (Sql.stripComments (Text.joinWith ['\n'] earlier) ++ gap ++ kept)
    rw [← hstrip, Option.or_none] at hwhole
    rw [bareText, ← hwhole, hstrip, List.foldl_append, foldl_lastSolid, foldl_lastSolid,
      Option.or_none, Text.trim_append_of_blank_right hgap]
    rfl
  -- The text ends where the line does, unless nothing is left of the line.
  rw [hlast, Ne, hsame, ← Text.trim_eq_nil_iff, ← List.getLast?_eq_none_iff]
  cases (Text.trim kept).getLast? <;> simp

/-! ## Comments behind the semicolon -/

/--
At the end of an earlier line a block comment was open that nothing but comments and blanks
have followed.
-/
def CommentRunsOn (earlier : List Text) (t : Text) : Prop :=
  ∃ front back, earlier = front ++ back ∧
    Sql.LeavesCommentOpen (Text.joinWith ['\n'] front) ∧
      bareText (Text.joinWith ['\n'] front) = bareText t

theorem exists_stripComments_joinWith_append (front back : List Text) :
    ∃ more, Sql.stripComments (Text.joinWith ['\n'] (front ++ back)) =
      Sql.stripComments (Text.joinWith ['\n'] front) ++ more := by
  induction back using List.reverseRecOn with
  | nil => exact ⟨[], by rw [List.append_nil, List.append_nil]⟩
  | append_singleton back line ih =>
      obtain ⟨more, hmore⟩ := ih
      obtain ⟨gap, -, hstrip, -⟩ := Sql.strip_joinWith_append (front ++ back) line
      rw [← List.append_assoc, hstrip, hmore, List.append_assoc, List.append_assoc]
      exact ⟨_, rfl⟩

/-- What the last lines do not add to a text, the lines in between do not add either. -/
theorem bareText_eq_of_append {s t u more later : Text}
    (ht : Sql.stripComments t = Sql.stripComments s ++ more)
    (hu : Sql.stripComments u = Sql.stripComments t ++ later) (h : bareText s = bareText u) :
    bareText t = bareText u := by
  rw [← h, bareText, ht, bareText]
  rw [bareText, bareText, hu, ht, List.append_assoc, eq_comm, Text.trim_append_eq_iff,
    List.forall_mem_append] at h
  exact (Text.trim_append_eq_iff _ _).mpr h.1

/-- A complete text that did not complete the statement has a comment behind its semicolon. -/
theorem commentRunsOn_of_isCompleteText {earlier : List Text} {line : Text}
    (h : ∀ l ∈ earlier ++ [line], '\n' ∉ l)
    (hopen : ∀ complete ∈ (start kind).completions earlier, complete = false)
    (hcomplete : IsCompleteText (Text.joinWith ['\n'] (earlier ++ [line])))
    (hsame : bareText (Text.joinWith ['\n'] (earlier ++ [line])) =
      bareText (Text.joinWith ['\n'] earlier)) :
    CommentRunsOn earlier (Text.joinWith ['\n'] (earlier ++ [line])) := by
  induction earlier using List.reverseRecOn generalizing line with
  | nil =>
      have hnothing : bareText (Text.joinWith ['\n'] []) = [] := rfl
      obtain ⟨front, hends, -⟩ := hcomplete.ends
      rw [hsame, hnothing] at hends
      exact absurd hends (by simp)
  | append_singleton earlier before ih =>
      by_cases hcomment : Sql.LeavesCommentOpen (Text.joinWith ['\n'] (earlier ++ [before]))
      · exact ⟨_, [], (List.append_nil _).symm, hcomment, hsame.symm⟩
      · -- No comment runs on into the last line, so the text was complete before it already.
        obtain ⟨more, hmore⟩ := exists_stripComments_joinWith_append (earlier ++ [before]) [line]
        have hgap : ∀ b ∈ more, Text.isBlank b = true := by
          rwa [bareText, bareText, hmore, Text.trim_append_eq_iff] at hsame
        have hbefore := hcomplete.of_append_blank hmore hgap hcomment
        obtain ⟨hearlier, -⟩ := List.forall_mem_append.mp h
        rw [completions_append, List.forall_mem_append] at hopen
        have hpush : (((start kind).pushAll earlier).push before).2 = false :=
          hopen.2 _ List.mem_cons_self
        have hkept : bareText (Text.joinWith ['\n'] (earlier ++ [before])) =
            bareText (Text.joinWith ['\n'] earlier) := by
          by_contra hne
          have hpushed : (((start kind).pushAll earlier).push before).2 = true :=
            (push_iff hearlier).mpr ⟨hbefore, hne⟩
          rw [hpush] at hpushed
          cases hpushed
        obtain ⟨front, back, rfl, hruns, hbare⟩ := ih hearlier hopen.1 hbefore hkept
        exact ⟨front, back ++ [before], by rw [List.append_assoc], hruns, hbare.trans hsame.symm⟩

/--
A line completes the statement exactly if the text is complete with it, unless a block
comment that opened behind the semicolon has run over the end of an earlier line.
-/
theorem push_iff_isCompleteText_iff (kind : StatementKind) (earlier : List Text) (line : Text)
    (h : ∀ l ∈ earlier ++ [line], '\n' ∉ l)
    (hopen : ∀ complete ∈ (start kind).completions earlier, complete = false) :
    ((((start kind).pushAll earlier).push line).2 = true ↔
        IsCompleteText (Text.joinWith ['\n'] (earlier ++ [line]))) ↔
      ¬ (IsCompleteText (Text.joinWith ['\n'] (earlier ++ [line])) ∧
        CommentRunsOn earlier (Text.joinWith ['\n'] (earlier ++ [line]))) := by
  obtain ⟨later, hlater⟩ := exists_stripComments_joinWith_append earlier [line]
  rw [push_iff h]
  constructor
  · rintro hexact ⟨hcomplete, front, back, rfl, -, hbare⟩
    obtain ⟨more, hmore⟩ := exists_stripComments_joinWith_append front back
    exact (hexact.mpr hcomplete).2 (bareText_eq_of_append hmore hlater hbare).symm
  · intro hnone
    refine ⟨And.left, fun hcomplete => ⟨hcomplete, fun hsame => hnone ⟨hcomplete, ?_⟩⟩⟩
    exact commentRunsOn_of_isCompleteText h hopen hcomplete hsame

/-- A comment that runs over a line end, but not behind the semicolon. -/
theorem push_iff_isCompleteText_iff_bodyComment :
    let earlier := ["CREATE TABLE t(a TEXT /* one;".toList]
    let line := "two */); -- done".toList
    (∀ l ∈ earlier ++ [line], '\n' ∉ l) ∧
      (∀ complete ∈ (start .createTable).completions earlier, complete = false) ∧
      (((start .createTable).pushAll earlier).push line).2 = true ∧
      (((((start .createTable).pushAll earlier).push line).2 = true ↔
          IsCompleteText (Text.joinWith ['\n'] (earlier ++ [line]))) ↔
        ¬ (IsCompleteText (Text.joinWith ['\n'] (earlier ++ [line])) ∧
          CommentRunsOn earlier (Text.joinWith ['\n'] (earlier ++ [line])))) := by
  intro earlier line
  have hlines : ∀ l ∈ earlier ++ [line], '\n' ∉ l := by decide
  have hopen : ∀ complete ∈ (start .createTable).completions earlier, complete = false := by
    decide
  exact ⟨hlines, hopen, by decide, push_iff_isCompleteText_iff _ earlier line hlines hopen⟩

/--
A comment behind the semicolon, on two lines: the text is complete, the statement is not, and
it takes the next line in.
-/
theorem not_push_commentBehind :
    let earlier := ["CREATE TABLE t(a TEXT); /* one".toList]
    let line := "two */".toList
    (∀ l ∈ earlier ++ [line], '\n' ∉ l) ∧
      (∀ complete ∈ (start .createTable).completions earlier, complete = false) ∧
      IsCompleteText (Text.joinWith ['\n'] (earlier ++ [line])) ∧
      (((start .createTable).pushAll earlier).push line).2 = false ∧
      (splitStatements []
          "CREATE TABLE t(a TEXT); /* one\ntwo */\nCREATE INDEX i ON t(a);".toList).map
        Statement.text =
          ["CREATE TABLE t(a TEXT); /* one\ntwo */\nCREATE INDEX i ON t(a);".toList] := by
  have hcomplete : IsCompleteText (Text.joinWith ['\n']
      (["CREATE TABLE t(a TEXT); /* one".toList] ++ ["two */".toList])) :=
    (isCompleteText_iff _).mpr (by decide +kernel)
  exact ⟨by decide, by decide, hcomplete, by decide, by decide +kernel⟩

end Draft

end DumpConvert
