import DumpConvert.Proofs.Sql.Quoting
import DumpConvert.Proofs.Text.Lines
import DumpConvert.Sql.Quoting
import DumpConvert.Text.Blank

/-!
# Texts without comments

Stripping leaves a text as it is exactly if no comment opens in it outside quotes
(`stripFrom_eq_self_iff`).  That is a property of the text and of the quote that is open
before it, and it can be put together from the parts of a text, unless a comment opens
where two parts meet (`commentFree_append`).  A text between quote characters is such a
part, whatever it is (`isUncommented_enclose`).
-/

namespace DumpConvert.Sql

/-! ## Open quotes -/

def protectAfter : Option Char → Char → Option Char
  | some quote, c => if c = quote then none else some quote
  | none, c => if isProtectingQuote c then some c else none

/-- The protecting quote that is open after a text without comments. -/
def openQuote (quote : Option Char) (t : Text) : Option Char :=
  t.foldl protectAfter quote

theorem openQuote_append (quote : Option Char) (s t : Text) :
    openQuote quote (s ++ t) = openQuote (openQuote quote s) t := by
  exact List.foldl_append

theorem isBlank_of_isProtectingQuote {c : Char} (h : isProtectingQuote c = true) :
    Text.isBlank c = false := by
  have hcases : (c = '\'' ∨ c = '"') ∨ c = '\x60' := by
    simpa [isProtectingQuote] using h
  rcases hcases with (rfl | rfl) | rfl <;> decide

theorem isProtectingQuote_of_isBlank {c : Char} (h : Text.isBlank c = true) :
    isProtectingQuote c = false := by
  rw [Bool.eq_false_iff]
  intro hquote
  rw [isBlank_of_isProtectingQuote hquote] at h
  cases h

theorem isProtectingQuote_of_mem_protectAfter {quote : Option Char}
    (h : ∀ q ∈ quote, isProtectingQuote q = true) (c : Char) :
    ∀ q ∈ protectAfter quote c, isProtectingQuote q = true := by
  intro q hq
  cases quote with
  | none =>
      cases hc : isProtectingQuote c with
      | true =>
          simp only [protectAfter, hc, if_true, Option.mem_some_iff] at hq
          rw [← hq]
          exact hc
      | false => simp [protectAfter, hc] at hq
  | some opened =>
      by_cases hc : c = opened
      · simp [protectAfter, hc] at hq
      · simp only [protectAfter, if_neg hc] at hq
        exact h q hq

theorem isProtectingQuote_of_mem_openQuote {quote : Option Char}
    (h : ∀ q ∈ quote, isProtectingQuote q = true) (t : Text) :
    ∀ q ∈ openQuote quote t, isProtectingQuote q = true := by
  induction t generalizing quote with
  | nil => exact h
  | cons c rest ih => exact ih (isProtectingQuote_of_mem_protectAfter h c)

theorem protectAfter_of_unquoted {quote : Option Char}
    (h : ∀ q ∈ quote, isProtectingQuote q = true) {c : Char}
    (hc : isProtectingQuote c = false) : protectAfter quote c = quote := by
  cases quote with
  | none => simp [protectAfter, hc]
  | some opened =>
      have hne : c ≠ opened := by
        rintro rfl
        rw [h c rfl] at hc
        cases hc
      simp [protectAfter, hne]

/-- A text without quote characters opens no quote and closes none. -/
theorem openQuote_of_unquoted {quote : Option Char}
    (h : ∀ q ∈ quote, isProtectingQuote q = true) {t : Text}
    (ht : ∀ c ∈ t, isProtectingQuote c = false) : openQuote quote t = quote := by
  induction t with
  | nil => rfl
  | cons c rest ih =>
      obtain ⟨hc, hrest⟩ := List.forall_mem_cons.mp ht
      show openQuote (protectAfter quote c) rest = quote
      rw [protectAfter_of_unquoted h hc, ih hrest]

theorem openQuote_of_blank {quote : Option Char} (h : ∀ q ∈ quote, isProtectingQuote q = true)
    {gap : Text} (hgap : ∀ b ∈ gap, Text.isBlank b = true) : openQuote quote gap = quote := by
  exact openQuote_of_unquoted h fun b hb => isProtectingQuote_of_isBlank (hgap b hb)

/-! ## Comments -/

def opensComment (c d : Char) : Bool :=
  (c == '-' && d == '-') || (c == '/' && d == '*')

theorem opensComment_of_ne_left {c : Char} (h : c ≠ '-' ∧ c ≠ '/') (d : Char) :
    opensComment c d = false := by
  simp [opensComment, h]

theorem opensComment_of_ne_right {d : Char} (h : d ≠ '-' ∧ d ≠ '*') (c : Char) :
    opensComment c d = false := by
  simp [opensComment, h]

theorem not_mark_of_opensComment {c d : Char} (h : opensComment c d = false) :
    ¬ (c = '-' ∧ d = '-') ∧ ¬ (c = '/' ∧ d = '*') := by
  constructor
  · rintro ⟨rfl, rfl⟩
    cases h
  · rintro ⟨rfl, rfl⟩
    cases h

/-- No comment opens in the text outside quotes. -/
def CommentFree : Option Char → Text → Prop
  | _, [] => True
  | quote, c :: rest =>
      (quote = none → ∀ d ∈ rest.head?, opensComment c d = false) ∧
        CommentFree (protectAfter quote c) rest

/-- One character is no comment. -/
theorem commentFree_take_one (t : Text) (quote : Option Char) : CommentFree quote (t.take 1) := by
  cases t with
  | nil => trivial
  | cons c rest => exact ⟨fun _ d hd => (Option.not_mem_none d hd).elim, trivial⟩

def CommentMode.ofQuote : Option Char → CommentMode
  | none => .code
  | some quote => .quoted quote

theorem stripFrom_quoted (quote c : Char) (rest : Text) :
    stripFrom (.quoted quote) (c :: rest) =
      c :: stripFrom (.ofQuote (protectAfter (some quote) c)) rest := by
  by_cases hc : c = quote <;> simp [stripFrom, protectAfter, CommentMode.ofQuote, hc]

/-- Outside quotes a character is kept unless it opens a comment with the next one. -/
theorem stripFrom_code {c : Char} {rest : Text}
    (h : ∀ d ∈ rest.head?, opensComment c d = false) :
    stripFrom .code (c :: rest) = c :: stripFrom (.ofQuote (protectAfter none c)) rest := by
  cases hquote : isProtectingQuote c with
  | true => cases rest <;> simp [stripFrom, protectAfter, CommentMode.ofQuote, hquote]
  | false =>
      cases rest with
      | nil => simp [stripFrom, hquote]
      | cons d more =>
          obtain ⟨hline, hblock⟩ := not_mark_of_opensComment (h d rfl)
          simp [stripFrom, protectAfter, CommentMode.ofQuote, hquote, hline, hblock]

theorem stripFrom_lineComment (rest : Text) :
    stripFrom .code ('-' :: '-' :: rest) = stripFrom .line rest := by
  simp [stripFrom, isProtectingQuote]

theorem stripFrom_blockComment (rest : Text) :
    stripFrom .code ('/' :: '*' :: rest) = ' ' :: stripFrom .block rest := by
  simp [stripFrom, isProtectingQuote]

theorem cases_of_opensComment {c d : Char} (h : opensComment c d = true) :
    (c = '-' ∧ d = '-') ∨ (c = '/' ∧ d = '*') := by
  simpa [opensComment] using h

/-- Only the line feed that ends a line comment is left of it. -/
theorem head?_stripFrom_line (t : Text) : ∀ c ∈ (stripFrom .line t).head?, c = '\n' := by
  induction t with
  | nil => simp [stripFrom]
  | cons d rest ih =>
      by_cases hd : d = '\n'
      · simp [stripFrom, hd]
      · simpa [stripFrom, hd] using ih

/-- The mark that opens a comment is not left in its place. -/
theorem head?_stripFrom_ne {c d : Char} (h : opensComment c d = true) (rest : Text) :
    (stripFrom .code (c :: d :: rest)).head? ≠ some c := by
  rcases cases_of_opensComment h with ⟨rfl, rfl⟩ | ⟨rfl, rfl⟩
  · rw [stripFrom_lineComment]
    intro hhead
    exact absurd (head?_stripFrom_line rest '-' hhead) (by decide)
  · rw [stripFrom_blockComment]
    simp

/--
A part without comments is kept, if none opens between it and the next character, and
stripping goes on with the quote that the part leaves open.
-/
theorem stripFrom_append {quote : Option Char} {s t : Text}
    (h : CommentFree quote (s ++ t.take 1)) :
    stripFrom (.ofQuote quote) (s ++ t) = s ++ stripFrom (.ofQuote (openQuote quote s)) t := by
  induction s generalizing quote with
  | nil => rfl
  | cons c rest ih =>
      rw [List.cons_append] at h
      obtain ⟨hfirst, hmore⟩ := h
      have hhead : (rest ++ t.take 1).head? = (rest ++ t).head? := by
        cases rest <;> cases t <;> rfl
      rw [hhead] at hfirst
      cases quote with
      | some opened =>
          rw [List.cons_append, CommentMode.ofQuote, stripFrom_quoted, ih hmore]
          rfl
      | none =>
          rw [List.cons_append, CommentMode.ofQuote, stripFrom_code (hfirst rfl), ih hmore]
          rfl

/-- What stripping leaves in its place holds no comment. -/
theorem commentFree_of_prefix_stripFrom {quote : Option Char} {s more : Text}
    (h : s <+: stripFrom (.ofQuote quote) (s ++ more)) : CommentFree quote s := by
  induction s generalizing quote with
  | nil => trivial
  | cons c rest ih =>
      cases quote with
      | some opened =>
          rw [List.cons_append, CommentMode.ofQuote, stripFrom_quoted, List.cons_prefix_cons] at h
          exact ⟨fun hnone => absurd hnone (Option.some_ne_none opened), ih h.2⟩
      | none =>
          cases rest with
          | nil => exact ⟨fun _ d hd => (Option.not_mem_none d hd).elim, trivial⟩
          | cons next later =>
              have hplain : ∀ {rest : Text}, ∀ d ∈ (next :: rest).head?,
                  opensComment c d = false := by
                intro rest d hd
                obtain rfl : next = d := Option.some.inj hd
                cases hopens : opensComment c next with
                | false => rfl
                | true =>
                    obtain ⟨tail, htail⟩ := h
                    have hhead := head?_stripFrom_ne hopens (later ++ more)
                    exact absurd (congrArg List.head? htail.symm) hhead
              rw [List.cons_append, CommentMode.ofQuote, List.cons_append,
                stripFrom_code hplain, List.cons_prefix_cons] at h
              exact ⟨fun _ => hplain, ih h.2⟩

theorem stripFrom_eq_self_iff (quote : Option Char) (t : Text) :
    stripFrom (.ofQuote quote) t = t ↔ CommentFree quote t := by
  constructor
  · intro hstrip
    have hwhole : t ++ [] = stripFrom (.ofQuote quote) (t ++ []) := by
      rw [List.append_nil, hstrip]
    exact commentFree_of_prefix_stripFrom ⟨[], hwhole⟩
  · intro hfree
    have hwhole : CommentFree quote (t ++ ([] : Text).take 1) := by
      rw [List.take_nil, List.append_nil]
      exact hfree
    have hstrip := stripFrom_append hwhole
    rw [List.append_nil, stripFrom, List.append_nil] at hstrip
    exact hstrip

theorem stripComments_eq_self_iff (t : Text) : stripComments t = t ↔ CommentFree none t := by
  exact stripFrom_eq_self_iff none t

/-! ## Parts of a text -/

theorem CommentFree.right {quote : Option Char} {s t : Text} (h : CommentFree quote (s ++ t)) :
    CommentFree (openQuote quote s) t := by
  induction s generalizing quote with
  | nil => exact h
  | cons c rest ih => exact ih h.2

theorem CommentFree.left {quote : Option Char} {s t : Text} (h : CommentFree quote (s ++ t)) :
    CommentFree quote s := by
  induction s generalizing quote with
  | nil => trivial
  | cons c rest ih =>
      refine ⟨fun hnone d hd => h.1 hnone d ?_, ih h.2⟩
      show d ∈ (rest ++ t).head?
      rw [List.head?_append, Option.mem_def.mp hd]
      rfl

theorem commentFree_append {quote : Option Char} {s t : Text} (hs : CommentFree quote s)
    (ht : CommentFree (openQuote quote s) t)
    (hseam : ∀ c ∈ s.getLast?, ∀ d ∈ t.head?, opensComment c d = false) :
    CommentFree quote (s ++ t) := by
  induction s generalizing quote with
  | nil => exact ht
  | cons c rest ih =>
      cases rest with
      | nil => exact ⟨fun _ d hd => hseam c rfl d hd, ht⟩
      | cons next more =>
          refine ⟨hs.1, ih hs.2 ht fun last hlast => hseam last ?_⟩
          rw [List.getLast?_cons_cons]
          exact hlast

/-- A text that does not hold the marks of a comment is free of them in quotes and outside. -/
theorem commentFree_of_not_occursIn {t : Text} (hline : Text.occursIn ['-', '-'] t = false)
    (hblock : Text.occursIn ['/', '*'] t = false) (quote : Option Char) : CommentFree quote t := by
  induction t generalizing quote with
  | nil => trivial
  | cons c rest ih =>
      simp only [Text.occursIn, Bool.or_eq_false_iff] at hline hblock
      refine ⟨fun _ d hd => ?_, ih hline.2 hblock.2 _⟩
      obtain ⟨more, rfl⟩ := List.head?_eq_some_iff.mp hd
      cases hopens : opensComment c d with
      | false => rfl
      | true =>
          rcases cases_of_opensComment hopens with ⟨rfl, rfl⟩ | ⟨rfl, rfl⟩
          · simp at hline
          · simp at hblock

/-! ## Texts that close their quotes -/

structure IsUncommented (t : Text) : Prop where
  free : CommentFree none t
  closed : openQuote none t = none

theorem IsUncommented.append {s t : Text} (hs : IsUncommented s) (ht : IsUncommented t)
    (hseam : ∀ c ∈ s.getLast?, ∀ d ∈ t.head?, opensComment c d = false) :
    IsUncommented (s ++ t) := by
  constructor
  · refine commentFree_append hs.free ?_ hseam
    rw [hs.closed]
    exact ht.free
  · rw [openQuote_append, hs.closed, ht.closed]

/-- No comment opens behind a text whose last character begins none. -/
theorem IsUncommented.append_of_last {s t : Text} {c : Char} (hs : IsUncommented s)
    (ht : IsUncommented t) (hlast : s.getLast? = some c) (hc : c ≠ '-' ∧ c ≠ '/') :
    IsUncommented (s ++ t) := by
  refine hs.append ht fun last hmem d _ => opensComment_of_ne_left ?_ d
  rw [Option.mem_def, hlast] at hmem
  rw [← Option.some.inj hmem]
  exact hc

/-- No comment opens in front of a text whose first character is no second one. -/
theorem IsUncommented.append_of_first {s t : Text} {d : Char} (hs : IsUncommented s)
    (ht : IsUncommented t) (hfirst : t.head? = some d) (hd : d ≠ '-' ∧ d ≠ '*') :
    IsUncommented (s ++ t) := by
  refine hs.append ht fun c _ first hmem => opensComment_of_ne_right ?_ c
  rw [Option.mem_def, hfirst] at hmem
  rw [← Option.some.inj hmem]
  exact hd

theorem isUncommented_of_unquoted {t : Text} (h : t.any isProtectingQuote = false)
    (hline : Text.occursIn ['-', '-'] t = false) (hblock : Text.occursIn ['/', '*'] t = false) :
    IsUncommented t := by
  have hunquoted : ∀ c ∈ t, isProtectingQuote c = false := by
    simpa using h
  exact ⟨commentFree_of_not_occursIn hline hblock none, openQuote_of_unquoted (by simp) hunquoted⟩

/-- No comment opens where the separator meets the texts that it joins. -/
theorem isUncommented_joinWith {separator : Text} {first last : Char}
    (hseparator : IsUncommented separator) (hhead : separator.head? = some first)
    (hfirst : first ≠ '-' ∧ first ≠ '*') (hend : separator.getLast? = some last)
    (hlast : last ≠ '-' ∧ last ≠ '/') {items : List Text}
    (h : ∀ item ∈ items, IsUncommented item) :
    IsUncommented (Text.joinWith separator items) := by
  induction items with
  | nil => exact isUncommented_of_unquoted rfl rfl rfl
  | cons item rest ih =>
      obtain ⟨hitem, hrest⟩ := List.forall_mem_cons.mp h
      cases rest with
      | nil =>
          rw [Text.joinWith_singleton]
          exact hitem
      | cons next later =>
          have hmore := hseparator.append_of_last (ih hrest) hend hlast
          have hstart : ∀ rest, (separator ++ rest).head? = some first := by
            intro rest
            rw [List.head?_append, hhead]
            rfl
          rw [Text.joinWith_cons_of_ne_nil _ _ (List.cons_ne_nil next later), List.append_assoc]
          exact hitem.append_of_first hmore (hstart _) hfirst

theorem protectAfter_quote {quote : Char} (h : isProtectingQuote quote = true) :
    protectAfter none quote = some quote ∧ protectAfter (some quote) quote = none := by
  simp [protectAfter, h]

theorem openQuote_double {quote : Char} (h : isProtectingQuote quote = true) (t : Text) :
    openQuote (some quote) (double quote t) = some quote := by
  obtain ⟨hopen, hclose⟩ := protectAfter_quote h
  induction t with
  | nil => rfl
  | cons c rest ih =>
      rw [double_cons, openQuote_append]
      by_cases hc : c = quote
      · rw [if_pos hc, hc]
        show openQuote (protectAfter (protectAfter (some quote) quote) quote) _ = _
        rw [hclose, hopen, ih]
      · rw [if_neg hc]
        show openQuote (protectAfter (some quote) c) _ = _
        simp only [protectAfter, if_neg hc]
        exact ih

theorem opensComment_quote {quote : Char} (h : isProtectingQuote quote = true) (c : Char) :
    opensComment quote c = false ∧ opensComment c quote = false := by
  have hne : ∀ mark, isProtectingQuote mark = false → quote ≠ mark := by
    rintro mark hmark rfl
    rw [h] at hmark
    cases hmark
  have hhyphen : quote ≠ '-' := hne '-' (by decide)
  exact ⟨opensComment_of_ne_left ⟨hhyphen, hne '/' (by decide)⟩ c,
    opensComment_of_ne_right ⟨hhyphen, hne '*' (by decide)⟩ c⟩

theorem commentFree_double {quote : Char} (h : isProtectingQuote quote = true) (t : Text) :
    CommentFree (some quote) (double quote t) := by
  obtain ⟨hopen, hclose⟩ := protectAfter_quote h
  have hquoted : ∀ {p : Prop}, some quote = none → p := fun hnone =>
    absurd hnone (Option.some_ne_none quote)
  induction t with
  | nil => trivial
  | cons c rest ih =>
      rw [double_cons]
      by_cases hc : c = quote
      · rw [if_pos hc, hc]
        refine ⟨hquoted, fun _ d _ => (opensComment_quote h d).1, ?_⟩
        rw [hclose, hopen]
        exact ih
      · rw [if_neg hc]
        refine ⟨hquoted, ?_⟩
        simp only [protectAfter, if_neg hc]
        exact ih

theorem isUncommented_enclose {quote : Char} (h : isProtectingQuote quote = true) (t : Text) :
    IsUncommented (enclose quote t) := by
  obtain ⟨hopen, hclose⟩ := protectAfter_quote h
  constructor
  · refine ⟨fun _ d _ => (opensComment_quote h d).1, ?_⟩
    rw [hopen]
    have hlast : CommentFree (openQuote (some quote) (double quote t)) [quote] :=
      ⟨fun _ d hd => (Option.not_mem_none d hd).elim, trivial⟩
    refine commentFree_append (commentFree_double h t) hlast ?_
    intro c _ d hd
    obtain rfl : quote = d := Option.some.inj hd
    exact (opensComment_quote h c).2
  · show openQuote (protectAfter none quote) (double quote t ++ [quote]) = none
    rw [openQuote_append, hopen, openQuote_double h]
    exact hclose

end DumpConvert.Sql
