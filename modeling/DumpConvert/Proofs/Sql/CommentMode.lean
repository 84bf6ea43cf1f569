import DumpConvert.Proofs.Sql.WholeComment

/-!
# The mode in which stripping ends

Stripping carries one thing from a character to the next, the mode it is in.  `modeAfter`
is the mode in which it ends.  There are eight ways to take the first characters of a text,
and `strip_induction` is the induction over them; what holds of stripping is derived from
it.

A text can be stripped in two parts where the second one begins with no part of a mark
(`strip_append_cons`): the first part leaves its mode to the second.  The mode tells which
quote is open in what stripping leaves (`openQuote_stripFrom`), and whether a block comment
runs to the end of the text (`leavesCommentOpen_iff`).
-/

namespace DumpConvert.Sql

/-- The mode in which stripping ends, if it begins in the given one. -/
def modeAfter : CommentMode → Text → CommentMode
  | mode, [] => mode
  | .quoted quote, c :: rest => modeAfter (if c = quote then .code else .quoted quote) rest
  | .line, c :: rest => if c = '\n' then modeAfter .code rest else modeAfter .line rest
  | .block, c :: rest =>
      if c = '*' then
        match rest with
        | [] => .block
        | d :: rest' => if d = '/' then modeAfter .code rest' else modeAfter .block (d :: rest')
      else
        modeAfter .block rest
  | .code, c :: rest =>
      if isProtectingQuote c then
        modeAfter (.quoted c) rest
      else
        match rest with
        | [] => .code
        | d :: rest' =>
            if c = '-' ∧ d = '-' then modeAfter .line rest'
            else if c = '/' ∧ d = '*' then modeAfter .block rest'
            else modeAfter .code (d :: rest')

/-! ## Steps -/

@[simp] theorem stripFrom_nil (mode : CommentMode) : stripFrom mode [] = [] := by
  cases mode <;> simp [stripFrom]

@[simp] theorem modeAfter_nil (mode : CommentMode) : modeAfter mode [] = mode := by
  cases mode <;> simp [modeAfter]

/-- A character that opens no comment is kept, in a quote or outside. -/
theorem stripFrom_ofQuote {quote : Option Char} {c : Char} {rest : Text}
    (h : quote = none → ∀ d ∈ rest.head?, opensComment c d = false) :
    stripFrom (.ofQuote quote) (c :: rest) =
      c :: stripFrom (.ofQuote (protectAfter quote c)) rest := by
  cases quote with
  | some opened => exact stripFrom_quoted opened c rest
  | none => exact stripFrom_code (h rfl)

theorem modeAfter_ofQuote {quote : Option Char} {c : Char} {rest : Text}
    (h : quote = none → ∀ d ∈ rest.head?, opensComment c d = false) :
    modeAfter (.ofQuote quote) (c :: rest) = modeAfter (.ofQuote (protectAfter quote c)) rest := by
  cases quote with
  | some opened =>
      by_cases hc : c = opened <;> simp [modeAfter, protectAfter, CommentMode.ofQuote, hc]
  | none =>
      cases hquote : isProtectingQuote c with
      | true => cases rest <;> simp [modeAfter, protectAfter, CommentMode.ofQuote, hquote]
      | false =>
          cases rest with
          | nil => simp [protectAfter, modeAfter, CommentMode.ofQuote, hquote]
          | cons d more =>
              obtain ⟨hline, hblock⟩ := not_mark_of_opensComment (h rfl d rfl)
              simp [modeAfter, protectAfter, CommentMode.ofQuote, hquote, hline, hblock]

theorem modeAfter_lineComment (rest : Text) :
    modeAfter .code ('-' :: '-' :: rest) = modeAfter .line rest := by
  simp [modeAfter, isProtectingQuote]

theorem modeAfter_blockComment (rest : Text) :
    modeAfter .code ('/' :: '*' :: rest) = modeAfter .block rest := by
  simp [modeAfter, isProtectingQuote]

theorem stripFrom_lineFeed (rest : Text) :
    stripFrom .line ('\n' :: rest) = '\n' :: stripFrom .code rest := by
  simp [stripFrom]

theorem modeAfter_lineFeed (rest : Text) :
    modeAfter .line ('\n' :: rest) = modeAfter .code rest := by
  simp [modeAfter]

theorem stripFrom_line_cons {c : Char} (h : c ≠ '\n') (rest : Text) :
    stripFrom .line (c :: rest) = stripFrom .line rest := by
  simp [stripFrom, h]

theorem modeAfter_line_cons {c : Char} (h : c ≠ '\n') (rest : Text) :
    modeAfter .line (c :: rest) = modeAfter .line rest := by
  simp [modeAfter, h]

theorem stripFrom_blockEnd (rest : Text) :
    stripFrom .block ('*' :: '/' :: rest) = stripFrom .code rest := by
  simp [stripFrom]

theorem modeAfter_blockEnd (rest : Text) :
    modeAfter .block ('*' :: '/' :: rest) = modeAfter .code rest := by
  simp [modeAfter]

theorem modeAfter_block_cons {c : Char} {rest : Text}
    (h : ['*', '/'].isPrefixOf (c :: rest) = false) :
    modeAfter .block (c :: rest) = modeAfter .block rest := by
  cases rest with
  | nil => simp [modeAfter]
  | cons d more =>
      by_cases hstar : c = '*'
      · have hslash : d ≠ '/' := by
          rintro rfl
          simp [hstar] at h
        simp [modeAfter, hslash]
      · simp [modeAfter, hstar]

/--
The ways to take the first characters of a text: a character that is kept, the marks that
open a comment, and the characters and the end of a comment of each kind.
-/
@[elab_as_elim]
theorem strip_induction {motive : CommentMode → Text → Prop}
    (nil : ∀ mode, motive mode [])
    (char : ∀ quote c rest, (quote = none → ∀ d ∈ rest.head?, opensComment c d = false) →
      motive (.ofQuote (protectAfter quote c)) rest → motive (.ofQuote quote) (c :: rest))
    (lineComment : ∀ rest, motive .line rest → motive .code ('-' :: '-' :: rest))
    (lineFeed : ∀ rest, motive .code rest → motive .line ('\n' :: rest))
    (lineChar : ∀ c rest, c ≠ '\n' → motive .line rest → motive .line (c :: rest))
    (blockComment : ∀ rest, motive .block rest → motive .code ('/' :: '*' :: rest))
    (blockEnd : ∀ rest, motive .code rest → motive .block ('*' :: '/' :: rest))
    (blockChar : ∀ c rest, ['*', '/'].isPrefixOf (c :: rest) = false → motive .block rest →
      motive .block (c :: rest))
    (mode : CommentMode) (t : Text) : motive mode t := by
  fun_induction modeAfter mode t with
  | case1 mode => exact nil mode
  | case2 quote c rest ih =>
      refine char (some quote) c rest (fun hnone => absurd hnone (Option.some_ne_none quote)) ?_
      by_cases hc : c = quote <;> simpa [protectAfter, CommentMode.ofQuote, hc] using ih
  | case3 rest ih => exact lineFeed rest ih
  | case4 c rest hc ih => exact lineChar c rest hc ih
  | case5 => exact blockChar '*' [] rfl (nil .block)
  | case6 rest ih => exact blockEnd rest ih
  | case7 d rest hd ih =>
      exact blockChar '*' (d :: rest) (by simp [List.isPrefixOf, Ne.symm hd]) ih
  | case8 c rest hc ih => exact blockChar c rest (by simp [List.isPrefixOf, Ne.symm hc]) ih
  | case9 c rest hquote ih =>
      refine char none c rest (fun _ d _ => (opensComment_quote hquote d).1) ?_
      rw [(protectAfter_quote hquote).1]
      exact ih
  | case10 c hplain =>
      refine char none c [] (fun _ d hd => (Option.not_mem_none d hd).elim) (nil _)
  | case11 c hplain d rest hline ih =>
      obtain ⟨rfl, rfl⟩ := hline
      exact lineComment rest ih
  | case12 c hplain d rest hline hblock ih =>
      obtain ⟨rfl, rfl⟩ := hblock
      exact blockComment rest ih
  | case13 c hplain d rest hline hblock ih =>
      have hopens : opensComment c d = false := by
        rw [Bool.eq_false_iff]
        exact fun hopens => (cases_of_opensComment hopens).elim hline hblock
      refine char none c (d :: rest) (fun _ => Text.forall_mem_head?_cons hopens rest) ?_
      simpa [protectAfter, CommentMode.ofQuote, hplain] using ih

/-! ## Two parts of a text -/

/-- The first part leaves its mode to the second one, which begins with no part of a mark. -/
theorem strip_append_cons {d : Char} (hd : d ≠ '-' ∧ d ≠ '*') (rest : Text) (mode : CommentMode)
    (front : Text) (hslash : d = '/' → modeAfter mode front ≠ .block) :
    stripFrom mode (front ++ d :: rest) =
        stripFrom mode front ++ stripFrom (modeAfter mode front) (d :: rest) ∧
      modeAfter mode (front ++ d :: rest) = modeAfter (modeAfter mode front) (d :: rest) := by
  induction mode, front using strip_induction with
  | nil mode => simp
  | char quote c more hplain ih =>
      have hapart : quote = none → ∀ e ∈ (more ++ d :: rest).head?, opensComment c e = false := by
        intro hnone e he
        cases more with
        | nil =>
            obtain rfl : d = e := Option.some.inj he
            exact opensComment_of_ne_right hd c
        | cons f later => exact hplain hnone e he
      rw [modeAfter_ofQuote hplain] at hslash ⊢
      rw [List.cons_append, stripFrom_ofQuote hapart, stripFrom_ofQuote hplain,
        modeAfter_ofQuote hapart, (ih hslash).1, (ih hslash).2]
      exact ⟨rfl, rfl⟩
  | lineComment more ih =>
      rw [modeAfter_lineComment] at hslash
      simpa [stripFrom_lineComment, modeAfter_lineComment] using ih hslash
  | lineFeed more ih =>
      rw [modeAfter_lineFeed] at hslash
      simpa [stripFrom_lineFeed, modeAfter_lineFeed] using ih hslash
  | lineChar c more hc ih =>
      rw [modeAfter_line_cons hc] at hslash
      simpa [stripFrom_line_cons hc, modeAfter_line_cons hc] using ih hslash
  | blockComment more ih =>
      rw [modeAfter_blockComment] at hslash
      simpa [stripFrom_blockComment, modeAfter_blockComment] using ih hslash
  | blockEnd more ih =>
      rw [modeAfter_blockEnd] at hslash
      simpa [stripFrom_blockEnd, modeAfter_blockEnd] using ih hslash
  | blockChar c more hinside ih =>
      rw [modeAfter_block_cons hinside] at hslash
      -- A star at the end of the front would end the comment together with a slash.
      have hlater : ['*', '/'].isPrefixOf (c :: (more ++ d :: rest)) = false := by
        cases more with
        | nil =>
            have hne : d ≠ '/' := fun heq => hslash heq rfl
            simp [List.isPrefixOf, Ne.symm hne]
        | cons e later => simpa [List.isPrefixOf] using hinside
      rw [List.cons_append, stripFrom_block_cons hlater, stripFrom_block_cons hinside,
        modeAfter_block_cons hlater, modeAfter_block_cons hinside]
      exact ih hslash

theorem exists_stripFrom_cons {d : Char} (hd : d ≠ '-' ∧ d ≠ '/' ∧ d ≠ '*')
    (mode : CommentMode) :
    ∃ mode', ∀ rest, stripFrom mode (d :: rest) = stripFrom mode [d] ++ stripFrom mode' rest := by
  cases mode with
  | code =>
      have hplain : ∀ rest : Text, ∀ e ∈ rest.head?, opensComment d e = false :=
        fun rest e _ => opensComment_of_ne_left ⟨hd.1, hd.2.1⟩ e
      refine ⟨.ofQuote (protectAfter none d), fun rest => ?_⟩
      rw [stripFrom_code (hplain rest), stripFrom_code (hplain [])]
      rfl
  | quoted quote =>
      refine ⟨.ofQuote (protectAfter (some quote) d), fun rest => ?_⟩
      rw [stripFrom_quoted, stripFrom_quoted]
      rfl
  | line =>
      by_cases hfeed : d = '\n'
      · exact ⟨.code, fun rest => by simp [stripFrom, hfeed]⟩
      · exact ⟨.line, fun rest => by simp [stripFrom, hfeed]⟩
  | block =>
      refine ⟨.block, fun rest => ?_⟩
      have hinside : ∀ later, ['*', '/'].isPrefixOf (d :: later) = false := fun later => by
        simp [List.isPrefixOf, hd.2.2.symm]
      rw [stripFrom_block_cons (hinside rest), stripFrom_block_cons (hinside [])]
      rfl

/-- Behind a character that is no part of a mark stripping goes on in some mode. -/
theorem exists_stripFrom_append {d : Char} (hd : d ≠ '-' ∧ d ≠ '/' ∧ d ≠ '*')
    (mode : CommentMode) (front : Text) :
    ∃ mode', ∀ rest, stripFrom mode (front ++ d :: rest) =
      stripFrom mode (front ++ [d]) ++ stripFrom mode' rest := by
  have hseam : ∀ rest, stripFrom mode (front ++ d :: rest) =
      stripFrom mode front ++ stripFrom (modeAfter mode front) (d :: rest) := fun rest =>
    (strip_append_cons ⟨hd.1, hd.2.2⟩ rest mode front fun heq => absurd heq hd.2.1).1
  obtain ⟨mode', hmore⟩ := exists_stripFrom_cons hd (modeAfter mode front)
  refine ⟨mode', fun rest => ?_⟩
  rw [hseam rest, hseam [], hmore rest, List.append_assoc]

/-! ## The quote that is left open -/

@[simp] theorem CommentMode.openQuote_ofQuote (quote : Option Char) :
    (CommentMode.ofQuote quote).openQuote = quote := by
  cases quote <;> rfl

/-- The mode knows the quote that is open in what stripping leaves. -/
theorem openQuote_stripFrom (mode : CommentMode) (t : Text) :
    openQuote mode.openQuote (stripFrom mode t) = (modeAfter mode t).openQuote := by
  induction mode, t using strip_induction with
  | nil mode => simp [openQuote]
  | char quote c rest hplain ih =>
      rw [CommentMode.openQuote_ofQuote] at ih ⊢
      rw [stripFrom_ofQuote hplain, modeAfter_ofQuote hplain, ← ih]
      rfl
  | lineComment rest ih =>
      rw [stripFrom_lineComment, modeAfter_lineComment]
      exact ih
  | lineFeed rest ih =>
      rw [stripFrom_lineFeed, modeAfter_lineFeed]
      exact ih
  | lineChar c rest hc ih =>
      rw [stripFrom_line_cons hc, modeAfter_line_cons hc]
      exact ih
  | blockComment rest ih =>
      rw [stripFrom_blockComment, modeAfter_blockComment]
      exact ih
  | blockEnd rest ih =>
      rw [stripFrom_blockEnd, modeAfter_blockEnd]
      exact ih
  | blockChar c rest hinside ih =>
      rw [stripFrom_block_cons hinside, modeAfter_block_cons hinside]
      exact ih

/-- A text without comments is stripped to the end in the mode of the quote that it leaves open. -/
theorem modeAfter_of_commentFree {quote : Option Char} {t : Text} (h : CommentFree quote t) :
    modeAfter (.ofQuote quote) t = .ofQuote (openQuote quote t) := by
  induction t generalizing quote with
  | nil => simp [openQuote]
  | cons c rest ih =>
      rw [modeAfter_ofQuote h.1, ih h.2]
      rfl

/-! ## Lines -/

/-- The mode in which the next line begins: only a line comment ends with its line. -/
def CommentMode.nextLine : CommentMode → CommentMode
  | .line => .code
  | mode => mode

@[simp] theorem CommentMode.openQuote_nextLine (mode : CommentMode) :
    mode.nextLine.openQuote = mode.openQuote := by
  cases mode <;> rfl

/-- A line feed leaves a blank or nothing, and the next line begins behind it. -/
theorem strip_lineFeed {mode : CommentMode}
    (hquote : ∀ quote ∈ mode.openQuote, isProtectingQuote quote = true) (rest : Text) :
    ∃ gap, (∀ b ∈ gap, Text.isBlank b = true) ∧
      stripFrom mode ('\n' :: rest) = gap ++ stripFrom mode.nextLine rest ∧
      modeAfter mode ('\n' :: rest) = modeAfter mode.nextLine rest := by
  have hfeed : ∀ b ∈ ['\n'], Text.isBlank b = true :=
    List.forall_mem_singleton.mpr (by decide)
  have hstay : protectAfter mode.openQuote '\n' = mode.openQuote :=
    protectAfter_of_unquoted hquote (by decide)
  have hkept : ∀ quote : Option Char, protectAfter quote '\n' = quote →
      stripFrom (.ofQuote quote) ('\n' :: rest) = ['\n'] ++ stripFrom (.ofQuote quote) rest ∧
        modeAfter (.ofQuote quote) ('\n' :: rest) = modeAfter (.ofQuote quote) rest := by
    intro quote hsame
    have hplain : quote = none → ∀ d ∈ rest.head?, opensComment '\n' d = false := fun _ d _ =>
      opensComment_of_ne_left (by decide) d
    rw [stripFrom_ofQuote hplain, modeAfter_ofQuote hplain, hsame]
    exact ⟨rfl, rfl⟩
  cases mode with
  | code => exact ⟨['\n'], hfeed, hkept none hstay⟩
  | quoted quote => exact ⟨['\n'], hfeed, hkept (some quote) hstay⟩
  | line => exact ⟨['\n'], hfeed, stripFrom_lineFeed rest, modeAfter_lineFeed rest⟩
  | block =>
      have hinside : ['*', '/'].isPrefixOf ('\n' :: rest) = false := rfl
      exact ⟨[], by simp, stripFrom_block_cons hinside, modeAfter_block_cons hinside⟩

/-- The quote that stripping leaves open is one that protects. -/
theorem isProtectingQuote_of_modeAfter (t : Text) :
    ∀ quote ∈ (modeAfter .code t).openQuote, isProtectingQuote quote = true := by
  rw [← openQuote_stripFrom]
  exact isProtectingQuote_of_mem_openQuote (by simp [CommentMode.openQuote]) _

/--
One more line is stripped by itself, in the mode that the lines before it leave; blanks at
most stand between what is left of it and of them.
-/
theorem strip_joinWith_append (lines : List Text) (line : Text) :
    ∃ gap, (∀ b ∈ gap, Text.isBlank b = true) ∧
      stripComments (Text.joinWith ['\n'] (lines ++ [line])) =
        stripComments (Text.joinWith ['\n'] lines) ++ gap ++
          stripFrom (modeAfter .code (Text.joinWith ['\n'] lines)).nextLine line ∧
      modeAfter .code (Text.joinWith ['\n'] (lines ++ [line])) =
        modeAfter (modeAfter .code (Text.joinWith ['\n'] lines)).nextLine line := by
  rw [Text.joinWith_append_singleton]
  by_cases hnil : lines = []
  · subst hnil
    exact ⟨[], by simp, by simp [Text.joinWith_nil, stripComments, CommentMode.nextLine],
      by simp [Text.joinWith_nil, CommentMode.nextLine]⟩
  · rw [if_neg hnil, List.append_assoc, List.singleton_append]
    obtain ⟨gap, hgap, hstrip, hmode⟩ := strip_lineFeed
      (isProtectingQuote_of_modeAfter (Text.joinWith ['\n'] lines)) line
    have hseam := strip_append_cons (d := '\n') (by decide) line .code
      (Text.joinWith ['\n'] lines) (fun heq => absurd heq (by decide))
    refine ⟨gap, hgap, ?_, hseam.2.trans hmode⟩
    rw [stripComments, hseam.1, hstrip, stripComments, List.append_assoc]

/-! ## Comments that nothing ends -/

/-- A slash and a star behind the text open a block comment, whatever follows them. -/
def OpensBlock (front : Text) : Prop :=
  ∀ more, stripComments (front ++ '/' :: '*' :: more) =
    stripComments front ++ ' ' :: stripFrom .block more

/-- A block comment opens in the text, and it runs to the end of the text. -/
def LeavesCommentOpen (t : Text) : Prop :=
  ∃ front inner, t = front ++ '/' :: '*' :: inner ∧ OpensBlock front ∧
    Text.occursIn ['*', '/'] inner = false

theorem modeAfter_line_of_not_mem {inner : Text} (h : '\n' ∉ inner) :
    modeAfter .line inner = .line := by
  induction inner with
  | nil => rfl
  | cons c rest ih =>
      obtain ⟨hc, hrest⟩ := not_or.mp (mt List.mem_cons.mpr h)
      rw [modeAfter_line_cons (Ne.symm hc), ih hrest]

theorem modeAfter_block_unclosed {inner : Text} (h : Text.occursIn ['*', '/'] inner = false) :
    modeAfter .block inner = .block := by
  induction inner with
  | nil => rfl
  | cons c rest ih =>
      rw [Text.occursIn, Bool.or_eq_false_iff] at h
      rw [modeAfter_block_cons h.1, ih h.2]

/-- In the given mode a front of the text ends in code, and a comment without end follows it. -/
def RunsOpen (mode : CommentMode) (t : Text) : Prop :=
  ∃ front inner, t = front ++ '/' :: '*' :: inner ∧ modeAfter mode front = .code ∧
    Text.occursIn ['*', '/'] inner = false

/-- What stands in front of the text may change the mode that the text begins in. -/
theorem RunsOpen.append_left {mode mode' : CommentMode} {rest : Text} (h : RunsOpen mode' rest)
    (lead : Text)
    (hlead : ∀ front, front <+: rest → modeAfter mode (lead ++ front) = modeAfter mode' front) :
    RunsOpen mode (lead ++ rest) := by
  obtain ⟨front, inner, rfl, hcode, hinner⟩ := h
  refine ⟨lead ++ front, inner, (List.append_assoc _ _ _).symm, ?_, hinner⟩
  rw [hlead front (List.prefix_append _ _), hcode]

/-- The first character of a prefix is the first character of the text. -/
theorem forall_mem_head?_of_prefix {P : Char → Prop} {front t : Text} (h : front <+: t)
    (ht : ∀ d ∈ t.head?, P d) : ∀ d ∈ front.head?, P d := by
  obtain ⟨more, rfl⟩ := h
  intro d hd
  refine ht d ?_
  rw [List.head?_append, Option.mem_def.mp hd]
  rfl

/-- A text that is stripped to its end in a block comment is in one, or opens one. -/
theorem runsOpen_of_modeAfter (mode : CommentMode) (t : Text) (h : modeAfter mode t = .block) :
    (mode = .block ∧ Text.occursIn ['*', '/'] t = false) ∨ RunsOpen mode t := by
  induction mode, t using strip_induction with
  | nil mode => exact .inl ⟨h, rfl⟩
  | char quote c rest hplain ih =>
      rw [modeAfter_ofQuote hplain] at h
      rcases ih h with ⟨hmode, -⟩ | hruns
      · cases hquote : protectAfter quote c <;> rw [hquote] at hmode <;> cases hmode
      · exact .inr (hruns.append_left [c] fun front hfront =>
          modeAfter_ofQuote fun hnone => forall_mem_head?_of_prefix hfront (hplain hnone))
  | lineComment rest ih =>
      rw [modeAfter_lineComment] at h
      rcases ih h with ⟨hmode, -⟩ | hruns
      · cases hmode
      · exact .inr (hruns.append_left ['-', '-'] fun front _ => modeAfter_lineComment front)
  | lineFeed rest ih =>
      rw [modeAfter_lineFeed] at h
      rcases ih h with ⟨hmode, -⟩ | hruns
      · cases hmode
      · exact .inr (hruns.append_left ['\n'] fun front _ => modeAfter_lineFeed front)
  | lineChar c rest hc ih =>
      rw [modeAfter_line_cons hc] at h
      rcases ih h with ⟨hmode, -⟩ | hruns
      · cases hmode
      · exact .inr (hruns.append_left [c] fun front _ => modeAfter_line_cons hc front)
  | blockComment rest ih =>
      rw [modeAfter_blockComment] at h
      rcases ih h with ⟨-, hinner⟩ | hruns
      · exact .inr ⟨[], rest, rfl, rfl, hinner⟩
      · exact .inr (hruns.append_left ['/', '*'] fun front _ => modeAfter_blockComment front)
  | blockEnd rest ih =>
      rw [modeAfter_blockEnd] at h
      rcases ih h with ⟨hmode, -⟩ | hruns
      · cases hmode
      · exact .inr (hruns.append_left ['*', '/'] fun front _ => modeAfter_blockEnd front)
  | blockChar c rest hinside ih =>
      rw [modeAfter_block_cons hinside] at h
      rcases ih h with ⟨-, hinner⟩ | hruns
      · refine .inl ⟨rfl, ?_⟩
        rw [Text.occursIn, hinside, hinner]
        rfl
      · refine .inr (hruns.append_left [c] fun front hfront => modeAfter_block_cons ?_)
        rw [Bool.eq_false_iff] at hinside ⊢
        intro hends
        have hmark : ['*', '/'] <+: c :: rest :=
          (List.isPrefixOf_iff_prefix.mp hends).trans ((List.prefix_cons_inj c).mpr hfront)
        exact hinside (List.isPrefixOf_iff_prefix.mpr hmark)

/-- A line feed is dropped in block comments only. -/
theorem eq_block_of_stripFrom_lineFeed {mode : CommentMode} (h : stripFrom mode ['\n'] = []) :
    mode = .block := by
  cases mode with
  | block => rfl
  | code => cases h
  | quoted quote => cases h
  | line => cases h

theorem leavesCommentOpen_iff (t : Text) : LeavesCommentOpen t ↔ modeAfter .code t = .block := by
  constructor
  · rintro ⟨front, inner, rfl, hopens, hinner⟩
    -- A line feed behind the text is dropped, so stripping has ended in a block comment.
    have hseam : ∀ mode s, stripFrom mode (s ++ ['\n']) =
        stripFrom mode s ++ stripFrom (modeAfter mode s) ['\n'] := fun mode s =>
      (strip_append_cons (by decide) [] mode s fun heq => absurd heq (by decide)).1
    have hdropped : stripFrom .block (inner ++ ['\n']) = stripFrom .block inner := by
      rw [hseam, modeAfter_block_unclosed hinner]
      exact List.append_nil _
    have hmore := hopens (inner ++ ['\n'])
    rw [hdropped, ← hopens inner, ← List.cons_append, ← List.cons_append, ← List.append_assoc,
      stripComments, hseam, stripComments, List.append_right_eq_self] at hmore
    exact eq_block_of_stripFrom_lineFeed hmore
  · intro hblock
    rcases runsOpen_of_modeAfter .code t hblock with
      ⟨hmode, -⟩ | ⟨front, inner, rfl, hcode, hinner⟩
    · cases hmode
    · refine ⟨front, inner, rfl, fun more => ?_, hinner⟩
      have hopens : modeAfter .code front ≠ .block := by
        rw [hcode]
        exact CommentMode.noConfusion
      rw [stripComments, (strip_append_cons (by decide) _ .code front fun _ => hopens).1, hcode,
        stripFrom_blockComment]
      rfl

end DumpConvert.Sql
