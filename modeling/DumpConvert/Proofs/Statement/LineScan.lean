import DumpConvert.Proofs.Sql.CommentMode
import DumpConvert.Proofs.Statement.Containment
import DumpConvert.Proofs.Statement.Partition
import Mathlib.Data.List.Induction

/-!
# Scanning lines and stripping comments

Two readers know comments: the scan of the lines of a statement, and the stripping of
comments from a whole text.  They agree.  After any number of lines the scan knows the mode
in which stripping has come to the end of the text that they make up, and how many
parentheses are open in what stripping has left of it (`scanLines_eq_ofText`).  One line is
compared character by character (`scanLine_ofMode`); the next line begins in the mode that
the line feed leaves.

So the lines of a text and the lines of the stripped text leave the same quote open and
the same parentheses (`scanLines_stripComments`).
-/

namespace DumpConvert

/-! ## Parentheses outside quotes -/

/-- What a character adds to the depth, if the given quote is open before it. -/
def depthStep : Option Char → Char → Int
  | some _, _ => 0
  | none, c => if c = '(' then 1 else if c = ')' then -1 else 0

theorem depthStep_quote {quote : Char} (h : Sql.isProtectingQuote quote = true) :
    depthStep none quote = 0 := by
  have hcases : (quote = '\'' ∨ quote = '"') ∨ quote = '\x60' := by
    simpa [Sql.isProtectingQuote] using h
  rcases hcases with (rfl | rfl) | rfl <;> decide

/-- Opening parentheses less closing ones, those in quotes not counted. -/
def parenDepth : Option Char → Text → Int
  | _, [] => 0
  | quote, c :: rest => depthStep quote c + parenDepth (Sql.protectAfter quote c) rest

theorem parenDepth_append (quote : Option Char) (s t : Text) :
    parenDepth quote (s ++ t) = parenDepth quote s + parenDepth (Sql.openQuote quote s) t := by
  induction s generalizing quote with
  | nil => simp [parenDepth, Sql.openQuote]
  | cons c rest ih =>
      rw [List.cons_append, parenDepth, parenDepth, ih, Int.add_assoc]
      rfl

/-- Blanks open and close no parenthesis, and no quote either. -/
theorem parenDepth_append_of_blank {quote : Option Char}
    (hquote : ∀ q ∈ quote, Sql.isProtectingQuote q = true) {gap : Text}
    (hgap : ∀ b ∈ gap, Text.isBlank b = true) (t : Text) :
    parenDepth quote (gap ++ t) = parenDepth quote t := by
  induction gap with
  | nil => rfl
  | cons b rest ih =>
      obtain ⟨hblank, hrest⟩ := List.forall_mem_cons.mp hgap
      have hstay : Sql.protectAfter quote b = quote :=
        Sql.protectAfter_of_unquoted hquote (Sql.isProtectingQuote_of_isBlank hblank)
      have hnone : depthStep quote b = 0 := by
        have hleft : b ≠ '(' := Text.ne_of_isBlank hblank (by decide)
        have hright : b ≠ ')' := Text.ne_of_isBlank hblank (by decide)
        cases quote <;> simp [depthStep, hleft, hright]
      rw [List.cons_append, parenDepth, hstay, hnone, ih hrest, Int.zero_add]

/-! ## One line -/

namespace Openings

/-- What is open in a mode of stripping, with the given depth of parentheses. -/
def ofMode (mode : Sql.CommentMode) (depth : Int) : Openings :=
  ⟨mode.openQuote, mode == .block, depth⟩

/-- A line comment leaves nothing open. -/
theorem ofMode_nextLine (mode : Sql.CommentMode) (depth : Int) :
    ofMode mode.nextLine depth = ofMode mode depth := by
  cases mode <;> rfl

theorem afterChar_ofMode (quote : Option Char) (depth : Int) (c : Char) :
    (ofMode (.ofQuote quote) depth).afterChar c =
      ofMode (.ofQuote (Sql.protectAfter quote c)) (depth + depthStep quote c) := by
  cases quote with
  | some opened =>
      by_cases hc : c = opened <;>
        simp [ofMode, afterChar, Sql.protectAfter, depthStep, Sql.CommentMode.ofQuote,
          Sql.CommentMode.openQuote, hc]
  | none =>
      cases hquote : Sql.isProtectingQuote c with
      | true =>
          simp [ofMode, afterChar, Sql.protectAfter, Sql.CommentMode.ofQuote,
            Sql.CommentMode.openQuote, hquote, depthStep_quote hquote]
      | false =>
          simp only [ofMode, afterChar, Sql.protectAfter, depthStep, Sql.CommentMode.ofQuote,
            Sql.CommentMode.openQuote, hquote, Bool.false_eq_true, if_false]
          split
          · rfl
          · split
            · rfl
            · rw [Int.add_zero]

end Openings

theorem scanLine_ofQuote {quote : Option Char} {c : Char} {rest : Text}
    (h : quote = none → ∀ d ∈ rest.head?, Sql.opensComment c d = false) (depth : Int)
    (last : Option Char) :
    scanLine (.ofMode (.ofQuote quote) depth) last (c :: rest) =
      scanLine (.ofMode (.ofQuote (Sql.protectAfter quote c)) (depth + depthStep quote c))
        (lastSolid last c) rest := by
  rw [← Openings.afterChar_ofMode]
  have houtside : (Openings.ofMode (.ofQuote quote) depth).inComment = false := by
    cases quote <;> rfl
  cases rest with
  | nil => simp [scanLine, houtside]
  | cons d more =>
      have hplain : (Openings.ofMode (.ofQuote quote) depth).inCode = true →
          Sql.opensComment c d = false := by
        intro hcode
        cases quote with
        | none => exact h rfl d rfl
        | some opened => simp [Openings.inCode, Openings.ofMode, Sql.CommentMode.ofQuote,
            Sql.CommentMode.openQuote] at hcode
      have hline : ¬ ((Openings.ofMode (.ofQuote quote) depth).inCode ∧ c = '-' ∧ d = '-') :=
        fun hmark => (Sql.not_mark_of_opensComment (hplain hmark.1)).1 hmark.2
      have hblock : ¬ ((Openings.ofMode (.ofQuote quote) depth).inCode ∧ c = '/' ∧ d = '*') :=
        fun hmark => (Sql.not_mark_of_opensComment (hplain hmark.1)).2 hmark.2
      rw [scanLine, houtside, if_neg Bool.false_ne_true, if_neg hline, if_neg hblock]

theorem scanLine_lineComment (depth : Int) (last : Option Char) (rest : Text) :
    scanLine (.ofMode .code depth) last ('-' :: '-' :: rest) = (.ofMode .code depth, last) := by
  simp [scanLine, Openings.ofMode, Openings.inCode, Sql.CommentMode.openQuote]

theorem scanLine_blockComment (depth : Int) (last : Option Char) (rest : Text) :
    scanLine (.ofMode .code depth) last ('/' :: '*' :: rest) =
      scanLine (.ofMode .block depth) last rest := by
  simp [scanLine, Openings.ofMode, Openings.inCode, Sql.CommentMode.openQuote]

theorem scanLine_blockEnd (depth : Int) (last : Option Char) (rest : Text) :
    scanLine (.ofMode .block depth) last ('*' :: '/' :: rest) =
      scanLine (.ofMode .code depth) last rest := by
  rfl

theorem scanLine_block_cons {c : Char} {rest : Text} (h : ['*', '/'].isPrefixOf (c :: rest) = false)
    (depth : Int) (last : Option Char) :
    scanLine (.ofMode .block depth) last (c :: rest) = scanLine (.ofMode .block depth) last rest := by
  cases rest with
  | nil => simp [scanLine, Openings.ofMode]
  | cons d more =>
      have hinside : ¬ (c = '*' ∧ d = '/') := by
        rintro ⟨rfl, rfl⟩
        simp at h
      simp [scanLine, Openings.ofMode, hinside]

theorem scanLine_ofMode (mode : Sql.CommentMode) (line : Text) (hmode : mode ≠ .line)
    (hline : '\n' ∉ line) (depth : Int) (last : Option Char) :
    scanLine (.ofMode mode depth) last line =
      (.ofMode (Sql.modeAfter mode line)
        (depth + parenDepth mode.openQuote (Sql.stripFrom mode line)),
        (Sql.stripFrom mode line).foldl lastSolid last) := by
  induction mode, line using Sql.strip_induction generalizing depth last with
  | nil mode => simp [scanLine, parenDepth]
  | char quote c rest hplain ih =>
      have hnext : Sql.CommentMode.ofQuote (Sql.protectAfter quote c) ≠ .line := by
        cases Sql.protectAfter quote c <;> exact Sql.CommentMode.noConfusion
      rw [scanLine_ofQuote hplain, ih hnext (fun hmem => hline (List.mem_cons_of_mem c hmem)),
        Sql.modeAfter_ofQuote hplain, Sql.stripFrom_ofQuote hplain, Sql.CommentMode.openQuote_ofQuote,
        Sql.CommentMode.openQuote_ofQuote, parenDepth, Int.add_assoc]
      rfl
  | lineComment rest ih =>
      have hrest : '\n' ∉ rest := fun hmem =>
        hline (List.mem_cons_of_mem _ (List.mem_cons_of_mem _ hmem))
      have hnothing : Sql.stripFrom .line rest = [] := by
        have hstrip := Sql.stripFrom_line_append hrest []
        rwa [List.append_nil, Sql.stripFrom_nil] at hstrip
      rw [scanLine_lineComment, Sql.modeAfter_lineComment, Sql.stripFrom_lineComment, hnothing,
        Sql.modeAfter_line_of_not_mem hrest, parenDepth, Int.add_zero]
      rfl
  | lineFeed rest ih => exact absurd rfl hmode
  | lineChar c rest hc ih => exact absurd rfl hmode
  | blockComment rest ih =>
      have hrest : '\n' ∉ rest := fun hmem =>
        hline (List.mem_cons_of_mem _ (List.mem_cons_of_mem _ hmem))
      have hspace : parenDepth Sql.CommentMode.code.openQuote (' ' :: Sql.stripFrom .block rest) =
          parenDepth Sql.CommentMode.block.openQuote (Sql.stripFrom .block rest) :=
        @parenDepth_append_of_blank none (by simp) [' '] (List.forall_mem_singleton.mpr (by decide)) _
      rw [scanLine_blockComment, ih (by decide) hrest, Sql.modeAfter_blockComment,
        Sql.stripFrom_blockComment, hspace]
      rfl
  | blockEnd rest ih =>
      have hrest : '\n' ∉ rest := fun hmem =>
        hline (List.mem_cons_of_mem _ (List.mem_cons_of_mem _ hmem))
      rw [scanLine_blockEnd, ih (by decide) hrest, Sql.modeAfter_blockEnd, Sql.stripFrom_blockEnd]
      rfl
  | blockChar c rest hinside ih =>
      have hrest : '\n' ∉ rest := fun hmem => hline (List.mem_cons_of_mem _ hmem)
      rw [scanLine_block_cons hinside, ih (by decide) hrest, Sql.modeAfter_block_cons hinside,
        Sql.stripFrom_block_cons hinside]

/-! ## Line after line -/

def scanLines (openings : Openings) (lines : List Text) : Openings :=
  lines.foldl (fun before line => (scanLine before none line).1) openings

theorem scanLines_append (openings : Openings) (xs ys : List Text) :
    scanLines openings (xs ++ ys) = scanLines (scanLines openings xs) ys := by
  exact List.foldl_append

theorem openings_pushAll (draft : Draft) (lines : List Text) :
    (draft.pushAll lines).openings = scanLines draft.openings lines := by
  induction lines generalizing draft with
  | nil => rfl
  | cons line rest ih => exact ih (draft.push line).1

/-- What the scan knows after the lines of a text, by what stripping knows of the text. -/
def Openings.ofText (t : Text) : Openings :=
  .ofMode (Sql.modeAfter .code t) (parenDepth .none (Sql.stripComments t))

namespace Openings

theorem quote_ofText (t : Text) :
    (ofText t).quote = Sql.openQuote .none (Sql.stripComments t) := by
  exact (Sql.openQuote_stripFrom .code t).symm

theorem depth_ofText (t : Text) :
    (ofText t).depth = parenDepth .none (Sql.stripComments t) := by
  rfl

theorem inComment_ofText (t : Text) :
    (ofText t).inComment = true ↔ Sql.LeavesCommentOpen t := by
  rw [Sql.leavesCommentOpen_iff]
  exact beq_iff_eq

end Openings

/-- One more line, if the scan knows of the lines before it what stripping does. -/
theorem scanLine_ofText (lines : List Text) {line : Text} (hline : '\n' ∉ line) :
    scanLine (.ofText (Text.joinWith ['\n'] lines)) none line =
      (.ofText (Text.joinWith ['\n'] (lines ++ [line])),
        (Sql.stripFrom (Sql.modeAfter .code (Text.joinWith ['\n'] lines)).nextLine line).foldl
          lastSolid none) := by
  obtain ⟨gap, hgap, hstrip, hmode⟩ := Sql.strip_joinWith_append lines line
  have hquote := Sql.isProtectingQuote_of_modeAfter (Text.joinWith ['\n'] lines)
  have hopen : Sql.openQuote none (Sql.stripComments (Text.joinWith ['\n'] lines)) =
      (Sql.modeAfter .code (Text.joinWith ['\n'] lines)).openQuote :=
    Sql.openQuote_stripFrom .code _
  generalize hbefore : Sql.modeAfter .code (Text.joinWith ['\n'] lines) = before at *
  have hcode : before.nextLine ≠ .line := by
    cases before <;> exact Sql.CommentMode.noConfusion
  have hdepth : parenDepth none (Sql.stripComments (Text.joinWith ['\n'] (lines ++ [line]))) =
      parenDepth none (Sql.stripComments (Text.joinWith ['\n'] lines)) +
        parenDepth before.nextLine.openQuote (Sql.stripFrom before.nextLine line) := by
    rw [hstrip, List.append_assoc, parenDepth_append, hopen,
      parenDepth_append_of_blank hquote hgap, Sql.CommentMode.openQuote_nextLine]
  rw [Openings.ofText, Openings.ofText, hbefore, ← Openings.ofMode_nextLine,
    scanLine_ofMode _ _ hcode hline, hdepth, hmode]

/-- The scan of the lines knows what stripping knows of the text that the lines make up. -/
theorem scanLines_eq_ofText {lines : List Text} (h : ∀ line ∈ lines, '\n' ∉ line) :
    scanLines .none lines = .ofText (Text.joinWith ['\n'] lines) := by
  induction lines using List.reverseRecOn with
  | nil => rfl
  | append_singleton earlier line ih =>
      obtain ⟨hearlier, hline⟩ := List.forall_mem_append.mp h
      rw [scanLines_append, ih hearlier]
      show (scanLine _ none line).1 = _
      rw [scanLine_ofText earlier (hline line (List.mem_singleton_self line))]

/-! ## The lines of a text -/

/-- The carriage return that a line loses at its end is a blank. -/
theorem scanLine_dropReturn {openings : Openings} (h : openings.QuoteKnown)
    (last : Option Char) (line : Text) :
    scanLine openings last (Text.dropReturn line) = scanLine openings last line := by
  rcases Text.dropReturn_eq_or line with hsame | hmore
  · rw [hsame]
  · conv_rhs => rw [hmore]
    exact (scanLine_append_blank last _ h (by decide)).symm

theorem scanLines_map_dropReturn {openings : Openings} (h : openings.QuoteKnown)
    (lines : List Text) :
    scanLines openings (lines.map Text.dropReturn) = scanLines openings lines := by
  induction lines generalizing openings with
  | nil => rfl
  | cons line rest ih =>
      show scanLines (scanLine openings none (Text.dropReturn line)).1 _ = _
      rw [scanLine_dropReturn h]
      exact ih (quoteKnown_scanLine none line h)

/-- The line ending makes no difference, and an empty piece at the end is no line. -/
theorem scanLines_lines (t : Text) :
    scanLines .none (Text.lines t) = scanLines .none (Text.rawLines t) := by
  obtain ⟨closed, last, hraw⟩ := Text.exists_rawLines_eq t
  rw [Text.lines_eq_of_rawLines hraw, hraw, scanLines_append, scanLines_append,
    scanLines_map_dropReturn Openings.quoteKnown_none]
  by_cases hnil : last = []
  · rw [if_pos hnil, hnil]
    rfl
  · rw [if_neg hnil]

theorem scanLines_lines_eq_ofText (t : Text) : scanLines .none (Text.lines t) = .ofText t := by
  rw [scanLines_lines, scanLines_eq_ofText (Text.not_mem_of_mem_rawLines t),
    Text.joinWith_rawLines]

/--
The scan of lines and the stripping of comments agree on every text.

The lines of the text and those of the stripped text leave the same quote open and the same
parentheses.  No place of the stripped text lies in a block comment; the text ends in one
exactly if stripping has found a block comment that nothing ends.  Stripping the stripped
text changes nothing.
-/
theorem scanLines_stripComments (t : Text) :
    (scanLines .none (Text.lines (Sql.stripComments t))).quote =
        (scanLines .none (Text.lines t)).quote ∧
      (scanLines .none (Text.lines (Sql.stripComments t))).depth =
        (scanLines .none (Text.lines t)).depth ∧
      (∀ n, (scanLines .none (Text.lines ((Sql.stripComments t).take n))).inComment = false) ∧
      ((scanLines .none (Text.lines t)).inComment = true ↔ Sql.LeavesCommentOpen t) ∧
      Sql.stripComments (Sql.stripComments t) = Sql.stripComments t := by
  have hfree : Sql.CommentFree none (Sql.stripComments t) := Sql.commentFree_stripFrom .code t
  have hagain : Sql.stripComments (Sql.stripComments t) = Sql.stripComments t :=
    (Sql.stripComments_eq_self_iff _).mpr hfree
  simp only [scanLines_lines_eq_ofText, Openings.quote_ofText, Openings.depth_ofText,
    Openings.inComment_ofText, hagain, true_and, and_true]
  intro n
  rw [← List.take_append_drop n (Sql.stripComments t)] at hfree
  generalize (Sql.stripComments t).take n = front at hfree
  have hmode : Sql.modeAfter .code front = .ofQuote (Sql.openQuote none front) :=
    Sql.modeAfter_of_commentFree hfree.left
  rw [Openings.ofText, hmode]
  cases Sql.openQuote none front <;> rfl

end DumpConvert
