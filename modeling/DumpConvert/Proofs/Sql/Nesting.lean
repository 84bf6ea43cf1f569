import DumpConvert.Proofs.Text.Trimming
import DumpConvert.Sql.ValueList

/-!
# What a scan of literals has open

A scan of a value list has a quote open or none, and it is inside a number of
parentheses (`Nesting`).  The two scanners of a value list read this state in the same
way, and each of them has one mark that ends what it collects: a comma, or a closing
parenthesis, where nothing is open.

The scanners read a doubled quote character in one step.  To close the quote and to open
it again comes to the same state, so here every step reads one character (`split_cons`,
`collect_cons`), and a text that avoids the mark is collected whole (`split_append`,
`collect_append`).
-/

namespace DumpConvert.Sql

def quoteAfter : Option Char → Char → Option Char
  | some quote, c => if c = quote then none else some quote
  | none, c => if isValueQuote c then some c else none

def depthAfter (depth : Nat) (c : Char) : Nat :=
  if c = '(' then depth + 1 else if c = ')' then depth - 1 else depth

theorem ne_of_isValueQuote {quote mark : Char} (h : isValueQuote quote = true)
    (hmark : isValueQuote mark = false) : quote ≠ mark := by
  rintro rfl
  rw [h] at hmark
  exact Bool.noConfusion hmark

theorem ne_parenthesis_of_isValueQuote {c : Char} (h : isValueQuote c = true) :
    c ≠ '(' ∧ c ≠ ')' := by
  exact ⟨ne_of_isValueQuote h (by decide), ne_of_isValueQuote h (by decide)⟩

theorem isValueQuote_of_mem_quoteAfter
    {quote : Option Char} (h : ∀ q ∈ quote, isValueQuote q = true) (c : Char) :
    ∀ q ∈ quoteAfter quote c, isValueQuote q = true := by
  intro q hmem
  cases quote with
  | none =>
      cases hc : isValueQuote c with
      | true =>
          simp only [quoteAfter, hc, if_true, Option.mem_some_iff] at hmem
          rw [← hmem]
          exact hc
      | false =>
          simp [quoteAfter, hc] at hmem
  | some openQuote =>
      by_cases hc : c = openQuote
      · simp [quoteAfter, hc] at hmem
      · simp only [quoteAfter, if_neg hc] at hmem
        exact h q hmem

structure Nesting where
  quote : Option Char
  depth : Nat
  quote_known : ∀ q ∈ quote, isValueQuote q = true
deriving DecidableEq

namespace Nesting

def top : Nesting :=
  ⟨none, 0, by simp⟩

def inQuote (quote : Char) (h : isValueQuote quote = true) : Nesting :=
  ⟨some quote, 0, by simpa using h⟩

def advance (s : Nesting) (c : Char) : Nesting :=
  { quote := quoteAfter s.quote c
    depth := if s.quote.isSome then s.depth else depthAfter s.depth c
    quote_known := isValueQuote_of_mem_quoteAfter s.quote_known c }

def after (s : Nesting) (t : Text) : Nesting :=
  t.foldl advance s

/-- The mark does not stand where nothing is open. -/
def Avoids (mark : Char) : Nesting → Text → Prop
  | _, [] => True
  | s, c :: rest => ¬ (s = top ∧ c = mark) ∧ Avoids mark (s.advance c) rest

instance decidableAvoids (mark : Char) : (s : Nesting) → (t : Text) → Decidable (Avoids mark s t)
  | _, [] => inferInstanceAs (Decidable True)
  | s, c :: rest =>
      have := decidableAvoids mark (s.advance c) rest
      inferInstanceAs (Decidable (¬ (s = top ∧ c = mark) ∧ Avoids mark (s.advance c) rest))

theorem after_append (s : Nesting) (t more : Text) :
    s.after (t ++ more) = (s.after t).after more := by
  exact List.foldl_append

theorem avoids_append {mark : Char} {s : Nesting} {t more : Text} :
    Avoids mark s (t ++ more) ↔ Avoids mark s t ∧ Avoids mark (s.after t) more := by
  induction t generalizing s with
  | nil =>
      simp [Avoids, after]
  | cons c rest ih =>
      rw [List.cons_append, Avoids, Avoids, ih, and_assoc]
      rfl

theorem avoids_of_not_mem {mark : Char} {t : Text} (h : mark ∉ t) (s : Nesting) :
    Avoids mark s t := by
  induction t generalizing s with
  | nil =>
      trivial
  | cons c rest ih =>
      obtain ⟨hc, hrest⟩ := not_or.mp (mt List.mem_cons.mpr h)
      exact ⟨fun hstop => hc hstop.2.symm, ih hrest _⟩

/-- A text shows the mark nowhere where nothing is open, or there is a first such place. -/
theorem avoids_or_exists_cut (mark : Char) (s : Nesting) (t : Text) :
    Avoids mark s t ∨ ∃ front rest, t = front ++ mark :: rest ∧ Avoids mark s front ∧
      s.after front = top := by
  induction t generalizing s with
  | nil => exact .inl trivial
  | cons c more ih =>
      by_cases hcut : s = top ∧ c = mark
      · obtain ⟨rfl, rfl⟩ := hcut
        exact .inr ⟨[], more, rfl, trivial, rfl⟩
      · rcases ih (s.advance c) with havoids | ⟨front, rest, rfl, hfront, hafter⟩
        · exact .inl ⟨hcut, havoids⟩
        · exact .inr ⟨c :: front, rest, rfl, ⟨hcut, hfront⟩, hafter⟩

/-- The text in front of the first mark that stands where nothing is open. -/
def upTo (mark : Char) : Nesting → Text → Text
  | _, [] => []
  | s, c :: rest => if s = top ∧ c = mark then [] else c :: upTo mark (s.advance c) rest

theorem prefix_upTo (mark : Char) (s : Nesting) (t : Text) : upTo mark s t <+: t := by
  induction t generalizing s with
  | nil => exact List.prefix_rfl
  | cons c rest ih =>
      rw [upTo]
      split
      · exact List.nil_prefix
      · exact List.cons_prefix_cons.mpr ⟨rfl, ih (s.advance c)⟩

theorem upTo_cons {mark c : Char} (h : c ≠ mark) (s : Nesting) (rest : Text) :
    upTo mark s (c :: rest) = c :: upTo mark (s.advance c) rest := by
  rw [upTo, if_neg fun hstop => h hstop.2]

/-! ## Characters that open and close nothing -/

/-- The character opens or closes nothing, inside or outside quotes. -/
def isPlain (c : Char) : Bool :=
  !isValueQuote c && !(c == '(') && !(c == ')')

theorem advance_of_isPlain {c : Char} (h : isPlain c = true) (s : Nesting) :
    s.advance c = s := by
  have hparts : (isValueQuote c = false ∧ c ≠ '(') ∧ c ≠ ')' := by
    simpa [isPlain] using h
  obtain ⟨⟨hquote, hleft⟩, hright⟩ := hparts
  rcases s with ⟨_ | q, depth, hknown⟩
  · simp [advance, quoteAfter, depthAfter, hquote, hleft, hright]
  · have hne : c ≠ q := (ne_of_isValueQuote (hknown q rfl) hquote).symm
    simp [advance, quoteAfter, hne]

theorem after_of_isPlain {t : Text} (h : ∀ c ∈ t, isPlain c = true) (s : Nesting) :
    s.after t = s := by
  induction t with
  | nil =>
      rfl
  | cons c rest ih =>
      obtain ⟨hc, hrest⟩ := List.forall_mem_cons.mp h
      show (s.advance c).after rest = s
      rw [advance_of_isPlain hc, ih hrest]

theorem isPlain_of_isBlank {c : Char} (h : Text.isBlank c = true) : isPlain c = true := by
  have hsingle : c ≠ '\'' := Text.ne_of_isBlank h (by decide)
  have hdouble : c ≠ '"' := Text.ne_of_isBlank h (by decide)
  have hleft : c ≠ '(' := Text.ne_of_isBlank h (by decide)
  have hright : c ≠ ')' := Text.ne_of_isBlank h (by decide)
  simp [isPlain, isValueQuote, hsingle, hdouble, hleft, hright]

/-! ## The scan of literals -/

def split (s : Nesting) (piece list : Text) : List Text :=
  splitFrom s.quote s.depth piece list

theorem split_comma (piece rest : Text) :
    top.split piece (',' :: rest) = Text.trim piece.reverse :: top.split [] rest := by
  rfl

theorem split_cons
    {s : Nesting} {c : Char} (h : ¬ (s = top ∧ c = ',')) (piece rest : Text) :
    s.split piece (c :: rest) = (s.advance c).split (c :: piece) rest := by
  rcases s with ⟨_ | q, depth, hknown⟩
  · have hcut : ¬ (c = ',' ∧ depth = 0) := by
      rintro ⟨hc, rfl⟩
      exact h ⟨rfl, hc⟩
    cases hquote : isValueQuote c with
    | true =>
        obtain ⟨hleft, hright⟩ := ne_parenthesis_of_isValueQuote hquote
        simp [split, advance, quoteAfter, depthAfter, splitFrom, hquote, hleft, hright]
    | false =>
        by_cases hleft : c = '('
        · simp [split, advance, quoteAfter, depthAfter, splitFrom, hleft, isValueQuote]
        · by_cases hright : c = ')'
          · simp [split, advance, quoteAfter, depthAfter, splitFrom, hright, isValueQuote]
          · simp only [split, splitFrom, hquote, hleft, hright, hcut, if_false]
            simp [advance, quoteAfter, depthAfter, hquote, hleft, hright]
  · have hq : isValueQuote q = true := hknown q rfl
    by_cases hc : c = q
    · cases rest with
      | nil =>
          simp [split, splitFrom, hc]
      | cons d rest =>
          -- Where the quote character is doubled, the scanner takes both steps at once.
          by_cases hd : d = q
          · simp [split, advance, quoteAfter, splitFrom, hc, hd, hq]
          · simp [split, advance, quoteAfter, splitFrom, hc, hd]
    · cases rest <;> simp [split, advance, quoteAfter, splitFrom, hc]

/-- A text without a comma where nothing is open becomes part of the piece. -/
theorem split_append {s : Nesting} {t : Text} (h : Avoids ',' s t) (piece rest : Text) :
    s.split piece (t ++ rest) = (s.after t).split (t.reverse ++ piece) rest := by
  induction t generalizing s piece with
  | nil =>
      rfl
  | cons c more ih =>
      rw [List.cons_append, split_cons h.1, ih h.2, List.reverse_cons, List.append_assoc]
      rfl

/-- A scan that has read a part of a list goes on from the state after that part. -/
theorem exists_split_append (s : Nesting) (piece front : Text) :
    ∃ done piece', ∀ rest, s.split piece (front ++ rest) =
      done ++ (s.after front).split piece' rest := by
  induction front generalizing s piece with
  | nil => exact ⟨[], piece, fun rest => rfl⟩
  | cons c more ih =>
      by_cases hcut : s = top ∧ c = ','
      · obtain ⟨rfl, rfl⟩ := hcut
        obtain ⟨done, piece', hmore⟩ := ih (top.advance ',') []
        exact ⟨Text.trim piece.reverse :: done, piece', fun rest =>
          congrArg (Text.trim piece.reverse :: ·) (hmore rest)⟩
      · obtain ⟨done, piece', hmore⟩ := ih (s.advance c) (c :: piece)
        exact ⟨done, piece', fun rest => (split_cons hcut piece (more ++ rest)).trans (hmore rest)⟩

/-! ## The scan of groups -/

def collect (s : Nesting) (group values : Text) : List Text :=
  groupsFrom s.quote (s.depth + 1) group values

theorem collect_close (group rest : Text) :
    top.collect group (')' :: rest) = group.reverse :: groupsFrom none 0 [] rest := by
  rfl

theorem collect_cons
    {s : Nesting} {c : Char} (h : ¬ (s = top ∧ c = ')')) (group rest : Text) :
    s.collect group (c :: rest) = (s.advance c).collect (c :: group) rest := by
  rcases s with ⟨_ | q, depth, hknown⟩
  · cases hquote : isValueQuote c with
    | true =>
        obtain ⟨hleft, hright⟩ := ne_parenthesis_of_isValueQuote hquote
        simp [collect, advance, quoteAfter, depthAfter, groupsFrom, hquote, hleft, hright]
    | false =>
        by_cases hleft : c = '('
        · simp [collect, advance, quoteAfter, depthAfter, groupsFrom, hleft, isValueQuote]
        · by_cases hright : c = ')'
          · have hdepth : depth ≠ 0 := by
              rintro rfl
              exact h ⟨rfl, hright⟩
            have hback : depth - 1 + 1 = depth := by omega
            simp [collect, advance, quoteAfter, depthAfter, groupsFrom, hright, isValueQuote,
              hdepth, hback]
          · simp [collect, advance, quoteAfter, depthAfter, groupsFrom, hquote, hleft, hright]
  · have hq : isValueQuote q = true := hknown q rfl
    by_cases hc : c = q
    · cases rest with
      | nil =>
          simp [collect, advance, quoteAfter, groupsFrom, hc]
      | cons d rest =>
          by_cases hd : d = q
          · simp [collect, advance, quoteAfter, groupsFrom, hc, hd, hq]
          · simp [collect, advance, quoteAfter, groupsFrom, hc, hd]
    · cases rest <;> simp [collect, advance, quoteAfter, groupsFrom, hc]

theorem collect_append {s : Nesting} {t : Text} (h : Avoids ')' s t) (group rest : Text) :
    s.collect group (t ++ rest) = (s.after t).collect (t.reverse ++ group) rest := by
  induction t generalizing s group with
  | nil =>
      rfl
  | cons c more ih =>
      rw [List.cons_append, collect_cons h.1, ih h.2, List.reverse_cons, List.append_assoc]
      rfl

end Nesting

end DumpConvert.Sql
