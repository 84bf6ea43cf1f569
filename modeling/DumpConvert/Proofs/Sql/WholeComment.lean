import DumpConvert.Proofs.Sql.Comment
import DumpConvert.Proofs.Text.Scanning

/-!
# Whole comments

A comment that opens outside quotes runs to its end or to the end of the text
(`IsComment`), so a text is free of comments, or it is a front without comments, a whole
comment and a rest (`commentFree_or_exists_comment`).  Stripping takes the comment out and
leaves at most a space for it (`exists_stripFrom_comment`).

What stripping leaves holds no comment (`commentFree_stripFrom`): the space keeps apart
what stood around a block comment, and the line feed what stood around a line comment.
-/

namespace DumpConvert.Sql

inductive IsComment : Text → Text → Prop where
  | line {inner rest : Text} (hinner : '\n' ∉ inner) (hrest : ∀ c ∈ rest.head?, c = '\n') :
      IsComment ('-' :: '-' :: inner) rest
  | block {inner : Text} (rest : Text)
      (hinner : Text.occursIn ['*', '/'] (inner ++ ['*']) = false) :
      IsComment ('/' :: '*' :: (inner ++ ['*', '/'])) rest
  | unclosed {inner : Text} (hinner : Text.occursIn ['*', '/'] inner = false) :
      IsComment ('/' :: '*' :: inner) []

/-! ## Where a comment ends -/

theorem stripFrom_line_append {inner : Text} (h : '\n' ∉ inner) (rest : Text) :
    stripFrom .line (inner ++ rest) = stripFrom .line rest := by
  induction inner with
  | nil => rfl
  | cons c more ih =>
      obtain ⟨hc, hmore⟩ := not_or.mp (mt List.mem_cons.mpr h)
      rw [List.cons_append, stripFrom, if_neg (Ne.symm hc), ih hmore]

/-- A line comment leaves the line feed behind it. -/
theorem stripFrom_line_eq_code {rest : Text} (h : ∀ c ∈ rest.head?, c = '\n') :
    stripFrom .line rest = stripFrom .code rest := by
  cases rest with
  | nil => rfl
  | cons c more =>
      obtain rfl : c = '\n' := h c rfl
      rw [stripFrom_code fun d _ => opensComment_of_ne_left (by decide) d]
      rfl

/-- In a block comment every character is dropped that does not begin its end. -/
theorem stripFrom_block_cons {c : Char} {rest : Text}
    (h : ['*', '/'].isPrefixOf (c :: rest) = false) :
    stripFrom .block (c :: rest) = stripFrom .block rest := by
  cases rest with
  | nil => simp [stripFrom]
  | cons d more =>
      by_cases hstar : c = '*'
      · have hslash : d ≠ '/' := by
          rintro rfl
          simp [hstar] at h
        simp [stripFrom, hslash]
      · simp [stripFrom, hstar]

theorem stripFrom_block_append {inner : Text}
    (h : Text.occursIn ['*', '/'] (inner ++ ['*']) = false) (rest : Text) :
    stripFrom .block (inner ++ '*' :: '/' :: rest) = stripFrom .code rest := by
  induction inner with
  | nil => simp [stripFrom]
  | cons c more ih =>
      rw [List.cons_append, Text.occursIn, Bool.or_eq_false_iff] at h
      have hinside : ['*', '/'].isPrefixOf (c :: (more ++ '*' :: '/' :: rest)) = false := by
        cases more with
        | nil => simp [List.isPrefixOf]
        | cons d later => simpa [List.isPrefixOf] using h.1
      exact (stripFrom_block_cons hinside).trans (ih h.2)

theorem stripFrom_block_unclosed {inner : Text} (h : Text.occursIn ['*', '/'] inner = false) :
    stripFrom .block inner = [] := by
  induction inner with
  | nil => rfl
  | cons c more ih =>
      rw [Text.occursIn, Bool.or_eq_false_iff] at h
      exact (stripFrom_block_cons h.1).trans (ih h.2)

/-- A comment is taken out, and a space takes the place of a block comment. -/
theorem exists_stripFrom_comment {body rest : Text} (h : IsComment body rest) :
    ∃ gap, (gap = [] ∨ gap = [' ']) ∧
      stripFrom .code (body ++ rest) = gap ++ stripFrom .code rest := by
  cases h with
  | @line inner _ hinner hrest =>
      refine ⟨[], .inl rfl, ?_⟩
      rw [List.cons_append, List.cons_append, stripFrom_lineComment, stripFrom_line_append hinner,
        stripFrom_line_eq_code hrest, List.nil_append]
  | @block inner _ hinner =>
      refine ⟨[' '], .inr rfl, ?_⟩
      rw [List.cons_append, List.cons_append, stripFrom_blockComment, List.append_assoc]
      exact congrArg (' ' :: ·) (stripFrom_block_append hinner rest)
  | @unclosed inner hinner =>
      refine ⟨[' '], .inr rfl, ?_⟩
      rw [List.append_nil, stripFrom_blockComment, stripFrom_block_unclosed hinner]
      rfl

/-! ## The first comment of a text -/

theorem exists_block_end (t : Text) :
    Text.occursIn ['*', '/'] t = false ∨ ∃ inner rest, t = inner ++ '*' :: '/' :: rest ∧
      Text.occursIn ['*', '/'] (inner ++ ['*']) = false := by
  induction t with
  | nil => exact .inl rfl
  | cons c more ih =>
      by_cases hend : ['*', '/'] <+: c :: more
      · obtain ⟨rest, hrest⟩ := hend
        exact .inr ⟨[], rest, hrest.symm, rfl⟩
      · have hnow : ['*', '/'].isPrefixOf (c :: more) = false := by
          rw [Bool.eq_false_iff]
          exact fun hbegins => hend (List.isPrefixOf_iff_prefix.mp hbegins)
        rcases ih with hnone | ⟨inner, rest, rfl, hinner⟩
        · left
          rw [Text.occursIn, hnow, hnone]
          rfl
        · refine .inr ⟨c :: inner, rest, rfl, ?_⟩
          have hlater : ['*', '/'].isPrefixOf (c :: (inner ++ ['*'])) = false := by
            cases inner with
            | nil => simp [List.isPrefixOf]
            | cons d later => simpa [List.isPrefixOf] using hnow
          rw [List.cons_append, Text.occursIn, hlater, hinner]
          rfl

/-- Two characters that open a comment begin a whole one. -/
theorem exists_isComment {c d : Char} (h : opensComment c d = true) (t : Text) :
    ∃ inner rest, t = inner ++ rest ∧ IsComment (c :: d :: inner) rest := by
  rcases cases_of_opensComment h with ⟨rfl, rfl⟩ | ⟨rfl, rfl⟩
  · refine ⟨t.takeWhile (· ≠ '\n'), t.dropWhile (· ≠ '\n'),
      List.takeWhile_append_dropWhile.symm, .line (fun hmem => ?_) fun c hc => ?_⟩
    · simpa using List.mem_takeWhile_imp hmem
    · have hstop := List.head?_dropWhile_not (· ≠ '\n') t
      rw [Option.mem_def.mp hc] at hstop
      simpa using hstop
  · rcases exists_block_end t with hnone | ⟨inner, rest, rfl, hinner⟩
    · exact ⟨t, [], (List.append_nil t).symm, .unclosed hnone⟩
    · refine ⟨inner ++ ['*', '/'], rest, ?_, .block rest hinner⟩
      rw [List.append_assoc]
      rfl

theorem commentFree_or_exists_opensComment (quote : Option Char) (t : Text) :
    CommentFree quote t ∨ ∃ front c d rest, t = front ++ c :: d :: rest ∧
      opensComment c d = true ∧ CommentFree quote (front ++ [c]) ∧
      openQuote quote front = none := by
  induction t generalizing quote with
  | nil => exact .inl trivial
  | cons c more ih =>
      by_cases hopens : quote = none ∧ ∃ d ∈ more.head?, opensComment c d = true
      · obtain ⟨rfl, d, hd, hcomment⟩ := hopens
        obtain ⟨rest, rfl⟩ := List.head?_eq_some_iff.mp hd
        exact .inr ⟨[], c, d, rest, rfl, hcomment, commentFree_take_one [c] none, rfl⟩
      · have hplain : quote = none → ∀ d ∈ more.head?, opensComment c d = false := by
          intro hnone d hd
          rw [Bool.eq_false_iff]
          exact fun hcomment => hopens ⟨hnone, d, hd, hcomment⟩
        rcases ih (protectAfter quote c) with
          hfree | ⟨front, e, f, rest, rfl, hcomment, hfree, hcode⟩
        · exact .inl ⟨hplain, hfree⟩
        · refine .inr ⟨c :: front, e, f, rest, rfl, hcomment, ⟨fun hnone d hd => ?_, hfree⟩, hcode⟩
          refine hplain hnone d ?_
          cases front <;> exact hd

/-- A text is free of comments, or a whole comment follows a front without comments. -/
theorem commentFree_or_exists_comment (quote : Option Char) (t : Text) :
    CommentFree quote t ∨ ∃ front c d inner rest, t = front ++ (c :: d :: inner ++ rest) ∧
      opensComment c d = true ∧ IsComment (c :: d :: inner) rest ∧
      CommentFree quote (front ++ [c]) ∧ openQuote quote front = none := by
  rcases commentFree_or_exists_opensComment quote t with
    hfree | ⟨front, c, d, after, rfl, hopens, hfree, hcode⟩
  · exact .inl hfree
  · obtain ⟨inner, rest, rfl, hcomment⟩ := exists_isComment hopens after
    exact .inr ⟨front, c, d, inner, rest, rfl, hopens, hcomment, hfree, hcode⟩

/-! ## What stripping leaves -/

def CommentMode.openQuote : CommentMode → Option Char
  | .quoted quote => some quote
  | _ => none

/-- In place of a character stands the character itself, or what is left of a comment. -/
theorem head?_stripFrom_code (c : Char) (rest : Text) :
    ∀ d ∈ (stripFrom .code (c :: rest)).head?, d = c ∨ d = ' ' ∨ d = '\n' := by
  intro d hd
  by_cases hopens : ∃ e ∈ rest.head?, opensComment c e = true
  · obtain ⟨e, he, hcomment⟩ := hopens
    obtain ⟨more, rfl⟩ := List.head?_eq_some_iff.mp he
    rcases cases_of_opensComment hcomment with ⟨rfl, rfl⟩ | ⟨rfl, rfl⟩
    · rw [stripFrom_lineComment] at hd
      exact .inr (.inr (head?_stripFrom_line more d hd))
    · rw [stripFrom_blockComment] at hd
      exact .inr (.inl (Option.some.inj hd).symm)
  · have hplain : ∀ e ∈ rest.head?, opensComment c e = false := by
      intro e he
      rw [Bool.eq_false_iff]
      exact fun hcomment => hopens ⟨e, he, hcomment⟩
    rw [stripFrom_code hplain] at hd
    exact .inl (Option.some.inj hd).symm

theorem commentFree_stripFrom (mode : CommentMode) (t : Text) :
    CommentFree mode.openQuote (stripFrom mode t) := by
  fun_induction stripFrom mode t with
  | case1 => trivial
  | case2 quote c rest ih =>
      refine ⟨fun hnone => absurd hnone (Option.some_ne_none quote), ?_⟩
      by_cases hc : c = quote <;> simpa [protectAfter, CommentMode.openQuote, hc] using ih
  | case3 rest ih => exact ⟨fun _ d _ => opensComment_of_ne_left (by decide) d, ih⟩
  | case4 c rest hc ih => exact ih
  | case5 => trivial
  | case6 rest ih => exact ih
  | case7 d rest hd ih => exact ih
  | case8 c rest hc ih => exact ih
  | case9 c rest hquote ih =>
      refine ⟨fun _ d _ => (opensComment_quote hquote d).1, ?_⟩
      simpa [protectAfter, CommentMode.openQuote, hquote] using ih
  | case10 c hplain => exact commentFree_take_one [c] none
  | case11 c hplain d rest hline ih => exact ih
  | case12 c hplain d rest hnone hblock ih =>
      exact ⟨fun _ d _ => opensComment_of_ne_left (by decide) d, ih⟩
  | case13 c hplain d rest hline hblock ih =>
      refine ⟨fun _ e he => ?_, ?_⟩
      · rcases head?_stripFrom_code d rest e he with rfl | rfl | rfl
        · simp only [opensComment, Bool.or_eq_false_iff, Bool.and_eq_false_imp, beq_iff_eq,
            beq_eq_false_iff_ne]
          exact ⟨fun hc hd => hline ⟨hc, hd⟩, fun hc hd => hblock ⟨hc, hd⟩⟩
        · exact opensComment_of_ne_right (by decide) c
        · exact opensComment_of_ne_right (by decide) c
      · simpa [protectAfter, CommentMode.openQuote, hplain] using ih

/-- Nothing is put in but the space for a block comment. -/
theorem stripFrom_sublist {t : Text} (h : '/' ∉ t) (mode : CommentMode) :
    (stripFrom mode t).Sublist t := by
  have hmore : ∀ {c : Char} {rest : Text}, '/' ∉ c :: rest → '/' ∉ rest :=
    fun hnone hmem => hnone (List.mem_cons_of_mem _ hmem)
  fun_induction stripFrom mode t with
  | case1 | case10 => exact List.Sublist.refl _
  | case2 c quote rest ih | case3 rest ih | case9 c rest hquote ih
  | case13 c hplain d rest hline hblock ih => exact (ih (hmore h)).cons_cons _
  | case4 c rest hc ih | case7 d rest hd ih | case8 c rest hc ih => exact (ih (hmore h)).cons _
  | case5 => exact List.nil_sublist _
  | case6 rest ih => simp at h
  | case12 c hplain d rest hnone hblock ih => simp [hblock] at h
  | case11 c hplain d rest hline ih => exact ((ih (hmore (hmore h))).cons _).cons _

end DumpConvert.Sql
