import DumpConvert.Proofs.Sql.Nesting
import DumpConvert.Proofs.Sql.Quoting
import DumpConvert.Proofs.Text.Lines
import DumpConvert.Proofs.Text.Trimming
import DumpConvert.Sql.Identifier

/-!
# Tokens of a value list

The inside of a group closes what it opens (`IsGroup`), and a token is such a text that
is trimmed and shows no comma outside quotes and parentheses (`IsToken`).  Splitting the
inside of a group gives tokens (`isToken_of_mem_splitValues`), every text between quote
characters is one (`isToken_enclose`), and tokens that are joined and split again are the
same tokens (`splitValues_joinValues`).
-/

namespace DumpConvert.Sql

open Nesting

/-- The text closes what it opens, and no closing parenthesis ends it early. -/
structure IsGroup (t : Text) : Prop where
  enclosed : Avoids ')' top t
  balanced : top.after t = top

structure IsToken (t : Text) : Prop extends IsGroup t where
  uncut : Avoids ',' top t
  trimmed : Text.trim t = t

theorem isGroup_append_iff {t more : Text} (h : IsGroup t) :
    IsGroup (t ++ more) ↔ IsGroup more := by
  constructor
  · rintro ⟨henclosed, hbalanced⟩
    rw [avoids_append, h.balanced] at henclosed
    rw [after_append, h.balanced] at hbalanced
    exact ⟨henclosed.2, hbalanced⟩
  · intro hmore
    refine ⟨?_, ?_⟩
    · rw [avoids_append, h.balanced]
      exact ⟨h.enclosed, hmore.enclosed⟩
    · rw [after_append, h.balanced]
      exact hmore.balanced

theorem isGroup_of_isPlain {t : Text} (h : t.all isPlain = true) : IsGroup t := by
  have hplain : ∀ c ∈ t, isPlain c = true := List.all_eq_true.mp h
  refine ⟨avoids_of_not_mem ?_ top, after_of_isPlain hplain top⟩
  intro hmem
  exact absurd (hplain _ hmem) (by decide)

theorem isToken_of_isPlain
    {t : Text} (hplain : t.all isPlain = true) (hcomma : ',' ∉ t) (htrim : Text.trim t = t) :
    IsToken t := by
  exact ⟨isGroup_of_isPlain hplain, avoids_of_not_mem hcomma top, htrim⟩

/-! ## Items -/

/-- The text is one item between commas: it shows no comma where nothing is open. -/
structure IsItem (t : Text) : Prop where
  uncut : Avoids ',' top t
  balanced : top.after t = top

theorem IsToken.isItem {t : Text} (h : IsToken t) : IsItem t := by
  exact ⟨h.uncut, h.balanced⟩

theorem isItem_of_blank {t : Text} (h : ∀ c ∈ t, Text.isBlank c = true) : IsItem t := by
  refine ⟨avoids_of_not_mem (fun hmem => ?_) top,
    after_of_isPlain (fun c hc => isPlain_of_isBlank (h c hc)) top⟩
  exact absurd (h _ hmem) (by decide)

theorem IsItem.append {s t : Text} (hs : IsItem s) (ht : IsItem t) : IsItem (s ++ t) := by
  refine ⟨?_, ?_⟩
  · rw [avoids_append, hs.balanced]
    exact ⟨hs.uncut, ht.uncut⟩
  · rw [after_append, hs.balanced, ht.balanced]

theorem splitValues_append_comma {item : Text} (h : IsItem item) (rest : Text) :
    splitValues (item ++ ',' :: rest) = Text.trim item :: splitValues rest := by
  show top.split [] (item ++ ',' :: rest) = _
  rw [split_append h.uncut, h.balanced, split_comma, List.append_nil, List.reverse_reverse]
  rfl

theorem isItem_of_splitValues {t : Text} (hsingle : splitValues t = [t])
    (hbalanced : top.after t = top) : IsItem t := by
  refine ⟨?_, hbalanced⟩
  rcases avoids_or_exists_cut ',' top t with havoids | ⟨item, rest, rfl, huncut, hclosed⟩
  · exact havoids
  · rw [splitValues_append_comma ⟨huncut, hclosed⟩] at hsingle
    have hlength := length_trim_le item
    rw [(List.cons_eq_cons.mp hsingle).1, List.length_append, List.length_cons] at hlength
    omega

/-! ## Texts between quote characters -/

theorem advance_inQuote {quote : Char} (h : isValueQuote quote = true) :
    top.advance quote = inQuote quote h ∧ (inQuote quote h).advance quote = top := by
  obtain ⟨hleft, hright⟩ := ne_parenthesis_of_isValueQuote h
  constructor
  · simp [advance, top, inQuote, quoteAfter, depthAfter, h, hleft, hright]
  · simp [advance, top, inQuote, quoteAfter]

/-- A doubled quote character closes the quote and opens it again. -/
theorem after_doubled {quote : Char} (h : isValueQuote quote = true) (c : Char) :
    (inQuote quote h).after (if c = quote then [c, c] else [c]) = inQuote quote h := by
  by_cases hc : c = quote
  · rw [if_pos hc, hc]
    show ((inQuote quote h).advance quote).advance quote = inQuote quote h
    rw [(advance_inQuote h).2, (advance_inQuote h).1]
  · rw [if_neg hc]
    show (inQuote quote h).advance c = inQuote quote h
    simp [advance, inQuote, quoteAfter, hc]

theorem after_double {quote : Char} (h : isValueQuote quote = true) (t : Text) :
    (inQuote quote h).after (double quote t) = inQuote quote h := by
  induction t with
  | nil =>
      rfl
  | cons c rest ih =>
      rw [double_cons, after_append, after_doubled, ih]

theorem inQuote_ne_top {quote : Char} (h : isValueQuote quote = true) :
    inQuote quote h ≠ top := by
  intro heq
  exact absurd (congrArg Nesting.quote heq) (by simp [inQuote, top])

/-- Nothing that is no quote character stands outside the quotes. -/
theorem avoids_double
    {quote mark : Char} (h : isValueQuote quote = true) (hmark : isValueQuote mark = false)
    (t : Text) : Avoids mark (inQuote quote h) (double quote t) := by
  have hopen : ∀ c, ¬ (inQuote quote h = top ∧ c = mark) := fun c hstop =>
    inQuote_ne_top h hstop.1
  have hquote : quote ≠ mark := ne_of_isValueQuote h hmark
  induction t with
  | nil =>
      trivial
  | cons c rest ih =>
      rw [double_cons, avoids_append, after_doubled]
      refine ⟨?_, ih⟩
      by_cases hc : c = quote
      · rw [if_pos hc, hc]
        exact ⟨hopen quote, fun hstop => hquote hstop.2, trivial⟩
      · rw [if_neg hc]
        exact ⟨hopen c, trivial⟩

theorem avoids_enclose
    {quote mark : Char} (h : isValueQuote quote = true) (hmark : isValueQuote mark = false)
    (t : Text) : Avoids mark top (enclose quote t) := by
  have hquote : quote ≠ mark := ne_of_isValueQuote h hmark
  show Avoids mark top (quote :: (double quote t ++ [quote]))
  refine ⟨fun hstop => hquote hstop.2, ?_⟩
  rw [(advance_inQuote h).1, avoids_append]
  exact ⟨avoids_double h hmark t, fun hstop => hquote hstop.2, trivial⟩

theorem after_enclose {quote : Char} (h : isValueQuote quote = true) (t : Text) :
    top.after (enclose quote t) = top := by
  show (top.advance quote).after (double quote t ++ [quote]) = top
  rw [(advance_inQuote h).1, after_append, after_double]
  exact (advance_inQuote h).2

theorem isBlank_of_isValueQuote {c : Char} (h : isValueQuote c = true) :
    Text.isBlank c = false := by
  have hcases : c = '\'' ∨ c = '"' := by
    simpa [isValueQuote] using h
  rcases hcases with rfl | rfl <;> decide

theorem trim_enclose {quote : Char} (h : isValueQuote quote = true) (t : Text) :
    Text.trim (enclose quote t) = enclose quote t := by
  have hsolid := isBlank_of_isValueQuote h
  exact Identifier.trim_of_ends (double quote t) hsolid hsolid

theorem isToken_enclose {quote : Char} (h : isValueQuote quote = true) (t : Text) :
    IsToken (enclose quote t) := by
  exact
    { enclosed := avoids_enclose h (by decide) t
      balanced := after_enclose h t
      uncut := avoids_enclose h (by decide) t
      trimmed := trim_enclose h t }

/-! ## Splitting the inside of a group -/

theorem after_trim (s : Nesting) (t : Text) : s.after (Text.trim t) = s.after t := by
  obtain ⟨lead, tail, heq, hlead, htail⟩ := Text.exists_eq_append_trim t
  have hwhole : s.after t = s.after (lead ++ Text.trim t ++ tail) := congrArg s.after heq
  have hstart : s.after lead = s :=
    after_of_isPlain (fun c hc => isPlain_of_isBlank (hlead c hc)) s
  have hend : (s.after (Text.trim t)).after tail = s.after (Text.trim t) :=
    after_of_isPlain (fun c hc => isPlain_of_isBlank (htail c hc)) _
  rw [hwhole, after_append, after_append, hstart, hend]

theorem Nesting.Avoids.trim {mark : Char} {s : Nesting} {t : Text} (h : Avoids mark s t) :
    Avoids mark s (Text.trim t) := by
  obtain ⟨lead, tail, heq, hlead, -⟩ := Text.exists_eq_append_trim t
  have hstay : s.after lead = s :=
    after_of_isPlain (fun c hc => isPlain_of_isBlank (hlead c hc)) s
  rw [heq, avoids_append, avoids_append, hstay] at h
  exact h.1.2

theorem isToken_trim {piece : Text} (hgroup : IsGroup piece) (huncut : Avoids ',' top piece) :
    IsToken (Text.trim piece) := by
  exact
    { enclosed := hgroup.enclosed.trim
      balanced := (after_trim top piece).trans hgroup.balanced
      uncut := huncut.trim
      trimmed := Text.trim_trim piece }

theorem eq_of_mem_split_nil {s : Nesting} {piece token : Text} (h : token ∈ s.split piece []) :
    token = Text.trim piece.reverse := by
  simp only [Nesting.split, splitFrom] at h
  split at h
  · cases h
  · exact List.mem_singleton.mp h

/-- The first token runs to the first comma where nothing is open. -/
theorem head?_split (s : Nesting) (piece list : Text) :
    ∀ first ∈ (s.split piece list).head?,
      first = Text.trim (piece.reverse ++ s.upTo ',' list) := by
  intro first hfirst
  induction list generalizing s piece with
  | nil =>
      rw [upTo, List.append_nil]
      exact eq_of_mem_split_nil (List.mem_of_mem_head? hfirst)
  | cons c rest ih =>
      by_cases hcut : s = top ∧ c = ','
      · obtain ⟨rfl, rfl⟩ := hcut
        rw [split_comma] at hfirst
        rw [upTo, if_pos ⟨rfl, rfl⟩, List.append_nil]
        exact (Option.some.inj hfirst).symm
      · rw [split_cons hcut] at hfirst
        rw [ih _ _ hfirst, upTo, if_neg hcut, List.reverse_cons, List.append_assoc]
        rfl

/-- Every step of the scan keeps what is read so far a prefix of one token. -/
theorem isToken_of_mem_split
    {piece list : Text} (huncut : Avoids ',' top piece.reverse)
    (hgroup : IsGroup (piece.reverse ++ list)) :
    ∀ token ∈ (top.after piece.reverse).split piece list, IsToken token := by
  -- The state is the one that the piece leads to, so a cut is a place where the piece is closed.
  induction list generalizing piece with
  | nil =>
      intro token hmem
      rw [List.append_nil] at hgroup
      rw [eq_of_mem_split_nil hmem]
      exact isToken_trim hgroup huncut
  | cons c rest ih =>
      by_cases hcut : top.after piece.reverse = top ∧ c = ','
      · obtain ⟨htop, rfl⟩ := hcut
        have henclosed : Avoids ')' top piece.reverse := (avoids_append.mp hgroup.enclosed).1
        have hpiece : IsGroup piece.reverse := ⟨henclosed, htop⟩
        have hcomma : IsGroup [','] := isGroup_of_isPlain rfl
        have hrest : IsGroup rest :=
          (isGroup_append_iff hcomma).mp ((isGroup_append_iff hpiece).mp hgroup)
        intro token hmem
        rw [htop, split_comma] at hmem
        rcases List.mem_cons.mp hmem with rfl | hlater
        · exact isToken_trim hpiece huncut
        · exact @ih [] trivial hrest token hlater
      · have hgrown : top.after (c :: piece).reverse = (top.after piece.reverse).advance c := by
          rw [List.reverse_cons, after_append]
          rfl
        rw [split_cons hcut, ← hgrown]
        refine ih ?_ ?_
        · rw [List.reverse_cons, avoids_append]
          exact ⟨huncut, hcut, trivial⟩
        · rw [List.reverse_cons, List.append_assoc]
          exact hgroup

theorem isToken_of_mem_splitValues {list token : Text} (hgroup : IsGroup list)
    (h : token ∈ splitValues list) : IsToken token := by
  exact @isToken_of_mem_split [] list trivial hgroup token h

theorem mem_of_mem_split
    {s : Nesting} {piece list token : Text} {c : Char} (hmem : token ∈ s.split piece list)
    (hc : c ∈ token) : c ∈ piece.reverse ++ list := by
  induction list generalizing s piece with
  | nil =>
      rw [eq_of_mem_split_nil hmem] at hc
      exact List.mem_append_left [] (Text.mem_of_mem_trim hc)
  | cons d rest ih =>
      by_cases hcut : s = top ∧ d = ','
      · obtain ⟨rfl, rfl⟩ := hcut
        rw [split_comma] at hmem
        rcases List.mem_cons.mp hmem with rfl | hlater
        · exact List.mem_append_left _ (Text.mem_of_mem_trim hc)
        · have hrest : c ∈ rest := ih hlater
          exact List.mem_append_right _ (List.mem_cons_of_mem _ hrest)
      · rw [split_cons hcut] at hmem
        have hgrown := ih hmem
        rw [List.reverse_cons, List.append_assoc] at hgrown
        exact hgrown

theorem mem_of_mem_splitValues {list token : Text} {c : Char} (hmem : token ∈ splitValues list)
    (hc : c ∈ token) : c ∈ list := by
  exact @mem_of_mem_split top [] list token c hmem hc

/-! ## Joining tokens and splitting them again -/

theorem isGroup_joinWith {separator : Text} (hseparator : IsGroup separator) {tokens : List Text}
    (h : ∀ t ∈ tokens, IsGroup t) : IsGroup (Text.joinWith separator tokens) := by
  induction tokens with
  | nil =>
      exact isGroup_of_isPlain rfl
  | cons token rest ih =>
      obtain ⟨htoken, hrest⟩ := List.forall_mem_cons.mp h
      cases rest with
      | nil =>
          rw [Text.joinWith_singleton]
          exact htoken
      | cons next later =>
          rw [Text.joinWith_cons_of_ne_nil _ _ (List.cons_ne_nil next later),
            List.append_assoc, isGroup_append_iff htoken, isGroup_append_iff hseparator]
          exact ih hrest

theorem isGroup_joinValues {tokens : List Text} (h : ∀ t ∈ tokens, IsToken t) :
    IsGroup (joinValues tokens) := by
  exact isGroup_joinWith (isGroup_of_isPlain rfl) fun t ht => (h t ht).toIsGroup

/-- Items, of which the last one may leave something open. -/
inductive IsItemList : List Text → Prop where
  | nil : IsItemList []
  | last {t : Text} (huncut : Avoids ',' top t) : IsItemList [t]
  | cons {t : Text} {rest : List Text} (hitem : IsItem t) (hrest : IsItemList rest) :
      IsItemList (t :: rest)

theorem isItemList_of_forall {items : List Text} (h : ∀ t ∈ items, IsItem t) :
    IsItemList items := by
  induction items with
  | nil => exact .nil
  | cons item rest ih =>
      obtain ⟨hitem, hrest⟩ := List.forall_mem_cons.mp h
      exact .cons hitem (ih hrest)

/-- A list of literals does not show an empty token at its end. -/
def dropEmptyLast (tokens : List Text) : List Text :=
  if tokens.getLast? = some [] then tokens.dropLast else tokens

theorem dropEmptyLast_cons {rest : List Text} (h : rest ≠ []) (token : Text) :
    dropEmptyLast (token :: rest) = token :: dropEmptyLast rest := by
  obtain ⟨next, later, rfl⟩ := List.exists_cons_of_ne_nil h
  unfold dropEmptyLast
  rw [List.getLast?_cons_cons]
  split
  · exact List.dropLast_cons_cons
  · rfl

theorem split_last {s : Nesting} {piece : Text} :
    s.split piece [] = dropEmptyLast [Text.trim piece.reverse] := by
  simp only [Nesting.split, splitFrom, dropEmptyLast, List.isEmpty_iff, List.getLast?_singleton,
    Option.some.injEq, List.dropLast_singleton]

theorem split_ne_nil {s : Nesting} {piece list : Text} {c : Char} (hmem : c ∈ piece ++ list)
    (hc : Text.isBlank c = false) : s.split piece list ≠ [] := by
  induction list generalizing s piece with
  | nil =>
      have hsolid : Text.trim piece.reverse ≠ [] := by
        rw [List.append_nil, ← List.mem_reverse] at hmem
        rw [ne_eq, Text.trim_eq_nil_iff, Text.isBlankText_of_mem hmem hc]
        exact Bool.false_ne_true
      simp [split_last, dropEmptyLast, hsolid]
  | cons d rest ih =>
      by_cases hcut : s = top ∧ d = ','
      · obtain ⟨rfl, rfl⟩ := hcut
        rw [split_comma]
        exact List.cons_ne_nil _ _
      · rw [split_cons hcut]
        refine ih ?_
        simpa [or_left_comm, or_assoc] using hmem

theorem splitValues_of_avoids {t : Text} (h : Avoids ',' top t) :
    splitValues t = dropEmptyLast [Text.trim t] := by
  have hsplit := split_append h [] []
  rw [List.append_nil, List.append_nil, split_last, List.reverse_reverse] at hsplit
  exact hsplit

/-- Blanks in front of an item and after the last one are lost. -/
theorem split_joinWith
    {items : List Text} {lead gap tail : Text} (h : IsItemList items)
    (hlead : ∀ c ∈ lead, Text.isBlank c = true) (hgap : ∀ c ∈ gap, Text.isBlank c = true)
    (htail : ∀ c ∈ tail, Text.isBlank c = true) :
    top.split lead (Text.joinWith (',' :: gap) items ++ tail) =
      dropEmptyLast (items.map Text.trim) := by
  have hblank : ∀ {lead : Text}, (∀ c ∈ lead, Text.isBlank c = true) →
      ∀ c ∈ lead.reverse, Text.isBlank c = true := fun hlead c hc =>
    hlead c (List.mem_reverse.mp hc)
  -- The blanks after the last item change neither what is open nor what is left of the item.
  have hend : ∀ (s : Nesting) (piece : Text),
      s.split piece tail = dropEmptyLast [Text.trim piece.reverse] := by
    intro s piece
    have hcomma : ',' ∉ tail := fun hmem => absurd (htail _ hmem) (by decide)
    have hwhole := split_append (avoids_of_not_mem hcomma s) piece []
    rw [List.append_nil] at hwhole
    rw [hwhole, split_last, List.reverse_append, List.reverse_reverse,
      Text.trim_append_of_blank_right htail]
  have hlast : ∀ {t lead : Text}, Avoids ',' top t → (∀ c ∈ lead, Text.isBlank c = true) →
      top.split lead (t ++ tail) = dropEmptyLast [Text.trim t] := by
    intro t lead huncut hlead
    rw [split_append huncut, hend, List.reverse_append, List.reverse_reverse,
      Text.trim_append_of_blank_left (hblank hlead)]
  induction h generalizing lead with
  | nil =>
      have hnil : Text.trim lead.reverse = [] := by
        rw [Text.trim_eq_nil_iff]
        exact List.all_eq_true.mpr (hblank hlead)
      rw [Text.joinWith_nil, List.nil_append, hend, hnil]
      rfl
  | last huncut =>
      rw [Text.joinWith_singleton]
      exact hlast huncut hlead
  | @cons item rest hitem hrest ih =>
      cases rest with
      | nil =>
          rw [Text.joinWith_singleton]
          exact hlast hitem.uncut hlead
      | cons next later =>
          have hread : Text.trim (item.reverse ++ lead).reverse = Text.trim item := by
            rw [List.reverse_append, List.reverse_reverse,
              Text.trim_append_of_blank_left (hblank hlead)]
          rw [Text.joinWith_cons_of_ne_nil _ _ (List.cons_ne_nil next later), List.append_assoc,
            List.append_assoc, split_append hitem.uncut, hitem.balanced, List.cons_append,
            split_comma, hread]
          -- The blanks after the comma lead the next item, and trimming takes them away.
          rw [split_append (isItem_of_blank hgap).uncut, (isItem_of_blank hgap).balanced,
            List.append_nil, ih (hblank hgap)]
          have hne : (next :: later).map Text.trim ≠ [] := List.cons_ne_nil _ _
          exact (dropEmptyLast_cons hne (Text.trim item)).symm

theorem splitValues_joinWith
    {gap : Text} (hgap : ∀ c ∈ gap, Text.isBlank c = true) {tokens : List Text}
    (h : ∀ t ∈ tokens, IsToken t) (hlast : tokens.getLast? ≠ some []) :
    splitValues (Text.joinWith (',' :: gap) tokens) = tokens := by
  have hitems : IsItemList tokens := isItemList_of_forall fun t ht => (h t ht).isItem
  have htrim : tokens.map Text.trim = tokens :=
    (List.map_congr_left fun t ht => (h t ht).trimmed).trans (List.map_id tokens)
  have hsplit := split_joinWith hitems (List.forall_mem_nil _) hgap (List.forall_mem_nil _)
  rw [List.append_nil, htrim, dropEmptyLast, if_neg hlast] at hsplit
  exact hsplit

theorem splitValues_joinValues
    {tokens : List Text} (h : ∀ t ∈ tokens, IsToken t) (hlast : tokens.getLast? ≠ some []) :
    splitValues (joinValues tokens) = tokens := by
  exact splitValues_joinWith (List.forall_mem_singleton.mpr (by decide)) h hlast

end DumpConvert.Sql
