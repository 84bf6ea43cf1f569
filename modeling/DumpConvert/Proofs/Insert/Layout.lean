import DumpConvert.Insert
import DumpConvert.Proofs.Sql.Keyword

/-!
# The layout of an insertion

A text whose parts are found is cut into a header, a table name, an optional column list
and the part from the first parenthesis after `VALUES` to the last one (`Layout`), and the
parts of every text of that shape are found (`exists_of_parts?`, `parts?_text`).

A bare name that stands right before `VALUES` is read together with the keyword at first.
If the text can be read on from there, that reading counts.
-/

namespace DumpConvert.Insert

open Sql

/-! ## Layouts -/

/-- What may stand after the groups: blanks, and at most one semicolon among them. -/
inductive IsEnding : Text → Prop where
  | bare {gap : Text} (hgap : ∀ c ∈ gap, Text.isBlank c = true) : IsEnding gap
  | semicolon {gap tail : Text} (hgap : ∀ c ∈ gap, Text.isBlank c = true)
      (htail : ∀ c ∈ tail, Text.isBlank c = true) : IsEnding (gap ++ ';' :: tail)

structure Tail where
  nameGap : Text
  columns : Option Text
  columnsGap : Text
  valuesWord : Text
  valuesGap : Text
  groups : Text
  ending : Text

namespace Tail

def listText : Option Text → Text
  | none => []
  | some inner => '(' :: inner ++ [')']

def valuesText (tail : Tail) : Text :=
  tail.valuesGap ++ (tail.groups ++ tail.ending)

def text (tail : Tail) : Text :=
  tail.nameGap ++ (listText tail.columns ++
    (tail.columnsGap ++ (tail.valuesWord ++ tail.valuesText)))

structure WellFormed (tail : Tail) : Prop where
  nameGap : ∀ c ∈ tail.nameGap, Text.isBlank c = true
  columns : ∀ inner ∈ tail.columns, ∀ c ∈ inner, isParenthesis c = false
  columnsGap : ∀ c ∈ tail.columnsGap, Text.isBlank c = true
  valuesWord : IsKeyword "values".toList tail.valuesWord
  valuesGap : ∀ c ∈ tail.valuesGap, Text.isBlank c = true
  groups : ∃ inner, tail.groups = '(' :: inner ++ [')']
  ending : IsEnding tail.ending

/-- Nothing stands between the name and the keyword. -/
def IsGlued (tail : Tail) : Prop :=
  tail.nameGap = [] ∧ tail.columns = none ∧ tail.columnsGap = []

end Tail

structure Layout where
  lead : Text
  insertWord : Text
  insertGap : Text
  intoWord : Text
  intoGap : Text
  name : Text
  tail : Tail

namespace Layout

def text (layout : Layout) : Text :=
  layout.lead ++ (layout.insertWord ++ (layout.insertGap ++
    (layout.intoWord ++ (layout.intoGap ++ (layout.name ++ layout.tail.text)))))

structure WellFormed (layout : Layout) : Prop where
  lead : ∀ c ∈ layout.lead, Text.isBlank c = true
  insertWord : IsKeyword "insert".toList layout.insertWord
  insertGap : IsGap layout.insertGap
  intoWord : IsKeyword "into".toList layout.intoWord
  intoGap : IsGap layout.intoGap
  name : Identifier.IsQuotedName layout.name ∨ Identifier.IsBareName layout.name
  tail : layout.tail.WellFormed

end Layout

/-! ## The groups -/

theorem isClosing_iff {t : Text} : isClosing t = true ↔ IsEnding t := by
  constructor
  · intro h
    unfold isClosing at h
    have hwhole := Text.takeWhile_append_trimStart t
    have hgap : ∀ c ∈ t.takeWhile Text.isBlank, Text.isBlank c = true := fun c hc =>
      List.mem_takeWhile_imp hc
    split at h
    · rename_i hstart
      rw [hstart, List.append_nil] at hwhole
      rw [← hwhole]
      exact .bare hgap
    · rename_i c rest hstart
      obtain ⟨hc, hrest⟩ := Bool.and_eq_true_iff.mp h
      rw [hstart, eq_of_beq hc] at hwhole
      rw [← hwhole]
      exact .semicolon hgap (List.all_eq_true.mp hrest)
  · intro h
    cases h with
    | bare hgap =>
        have hstart : Text.trimStart t = [] := by
          rw [← List.append_nil t]
          exact Text.dropWhile_append hgap (by simp)
        rw [isClosing, hstart]
    | @semicolon gap tail hgap htail =>
        have hstart : Text.trimStart (gap ++ ';' :: tail) = ';' :: tail :=
          Text.trimStart_append_cons hgap (by decide) tail
        rw [isClosing, hstart]
        exact List.all_eq_true.mpr htail

theorem IsEnding.not_mem {t : Text} (h : IsEnding t) {c : Char}
    (hc : Text.isBlank c = false) (hmark : c ≠ ';') : c ∉ t := by
  cases h with
  | bare hgap => exact Text.not_mem_of_blank hgap hc
  | semicolon hgap htail =>
      have hfront := Text.not_mem_of_blank hgap hc
      have hback := Text.not_mem_of_blank htail hc
      simp [hfront, hback, hmark]

/-- What is left of an ending without some of its characters is one. -/
theorem IsEnding.sublist {s t : Text} (h : IsEnding t) (hs : s.Sublist t) : IsEnding s := by
  have hblank : ∀ {s t : Text}, s.Sublist t → (∀ c ∈ t, Text.isBlank c = true) →
      ∀ c ∈ s, Text.isBlank c = true := fun hs ht c hc => ht c (hs.mem hc)
  cases h with
  | bare hgap => exact .bare (hblank hs hgap)
  | @semicolon gap tail hgap htail =>
      obtain ⟨front, back, rfl, hfront, hback⟩ := List.sublist_append_iff.mp hs
      rcases List.sublist_cons_iff.mp hback with hnone | ⟨rest, rfl, hrest⟩
      · refine .bare fun c hc => ?_
        exact (List.mem_append.mp hc).elim (hblank hfront hgap c) (hblank hnone htail c)
      · exact .semicolon (hblank hfront hgap) (hblank hrest htail)

theorem groupsPart?_valuesText {tail : Tail} (h : tail.WellFormed) :
    groupsPart? tail.valuesText = some tail.groups := by
  obtain ⟨inner, hgroups⟩ := h.groups
  have hread : tail.valuesText = tail.valuesGap ++ '(' :: (inner ++ ')' :: tail.ending) := by
    rw [Tail.valuesText, hgroups]
    simp
  have hclosing : isClosing tail.ending = true := isClosing_iff.mpr h.ending
  have hlast : ')' ∉ tail.ending := h.ending.not_mem (by decide) (by decide)
  rw [hread, groupsPart?, Text.trimStart_append_cons h.valuesGap (by decide)]
  simp only [Text.splitAtLast?_append hlast inner, hclosing, if_true, hgroups]

theorem exists_of_groupsPart? {t groups : Text} (h : groupsPart? t = some groups) :
    ∃ gap ending, (∀ c ∈ gap, Text.isBlank c = true) ∧ IsEnding ending ∧
      (∃ inner, groups = '(' :: inner ++ [')']) ∧ t = gap ++ (groups ++ ending) := by
  unfold groupsPart? at h
  split at h
  · rename_i rest hstart
    split at h
    · rename_i inner ending hlast
      split at h
      · rename_i hclosing
        obtain rfl := Option.some.inj h
        refine ⟨t.takeWhile Text.isBlank, ending, fun c hc => List.mem_takeWhile_imp hc,
          isClosing_iff.mp hclosing, ⟨inner, rfl⟩, ?_⟩
        have hwhole := Text.takeWhile_append_trimStart t
        rw [hstart, (Text.splitAtLast?_eq_some_iff.mp hlast).1] at hwhole
        refine hwhole.symm.trans ?_
        simp
      · cases h
    · cases h
  · cases h

/-! ## The column list -/

/-- A column list is read up to its closing parenthesis. -/
theorem columnList?_append {inner : Text} (h : ∀ c ∈ inner, isParenthesis c = false)
    (after : Text) : columnList? ('(' :: inner ++ ')' :: after) = some (inner, after) := by
  have hflat : ∀ c ∈ inner, (!isParenthesis c) = true := by
    intro c hc
    rw [h c hc]
    rfl
  have hstop : ∀ c ∈ (')' :: after).head?, (!isParenthesis c) = false :=
    Text.forall_mem_head?_cons (by decide) after
  rw [List.cons_append, columnList?, List.span_eq_takeWhile_dropWhile,
    Text.takeWhile_append hflat hstop, Text.dropWhile_append hflat hstop]
  rfl

theorem of_columnList? {t inner after : Text} (h : columnList? t = some (inner, after)) :
    (∀ c ∈ inner, isParenthesis c = false) ∧ t = '(' :: inner ++ ')' :: after := by
  unfold columnList? at h
  split at h
  · rename_i rest
    rw [List.span_eq_takeWhile_dropWhile] at h
    split at h
    · rename_i found more hspan
      cases h
      obtain ⟨htaken, hleft⟩ := Prod.mk.inj hspan
      have hwhole : inner ++ ')' :: after = rest := by
        rw [← htaken, ← hleft]
        exact List.takeWhile_append_dropWhile
      refine ⟨fun c hc => ?_, by rw [List.cons_append, hwhole]⟩
      rw [← htaken] at hc
      simpa using List.mem_takeWhile_imp hc
    · cases h
  · cases h

theorem columnList?_of_isNameStart {c : Char} (h : isNameStart c = true) (rest : Text) :
    columnList? (c :: rest) = none := by
  unfold columnList?
  split
  · rename_i hopen
    rw [(List.cons_eq_cons.mp hopen).1] at h
    exact absurd h (by decide)
  · rfl

/-! ## What follows the name -/

theorem valuesWord_eq_cons {tail : Tail} (h : tail.WellFormed) :
    ∃ c more, tail.valuesWord = c :: more ∧ isNameStart c = true := by
  obtain ⟨c, more, hword, hstart, -⟩ := h.valuesWord.exists_eq_cons (by decide)
  exact ⟨c, more, hword, hstart⟩

theorem keyword?_trimStart {tail : Tail} (h : tail.WellFormed) {gap : Text}
    (hgap : ∀ c ∈ gap, Text.isBlank c = true) :
    keyword? "values".toList
      (Text.trimStart (gap ++ (tail.valuesWord ++ tail.valuesText))) = some tail.valuesText := by
  obtain ⟨c, more, hword, hstart⟩ := valuesWord_eq_cons h
  have htrim : Text.trimStart (gap ++ (tail.valuesWord ++ tail.valuesText)) =
      tail.valuesWord ++ tail.valuesText := by
    rw [hword]
    exact Text.trimStart_append_cons hgap (isBlank_of_isNameStart hstart) _
  rw [htrim, keyword?_append h.valuesWord]

theorem afterTable?_text {tail : Tail} (h : tail.WellFormed) :
    afterTable? tail.text = some (tail.columns, tail.groups) := by
  cases hcolumns : tail.columns with
  | none =>
      obtain ⟨c, more, hword, hstart⟩ := valuesWord_eq_cons h
      have hread : Text.trimStart tail.text = tail.valuesWord ++ tail.valuesText := by
        have hgaps : ∀ c ∈ tail.nameGap ++ tail.columnsGap, Text.isBlank c = true := by
          intro d hd
          exact (List.mem_append.mp hd).elim (h.nameGap d) (h.columnsGap d)
        have hregroup : tail.text = (tail.nameGap ++ tail.columnsGap) ++
            (tail.valuesWord ++ tail.valuesText) := by
          rw [Tail.text, hcolumns]
          simp [Tail.listText]
        rw [hregroup, hword]
        exact Text.trimStart_append_cons hgaps (isBlank_of_isNameStart hstart) _
      have hnone : columnList? (tail.valuesWord ++ tail.valuesText) = none := by
        rw [hword]
        exact columnList?_of_isNameStart hstart _
      have hvalues := keyword?_trimStart h (List.forall_mem_nil _)
      rw [List.nil_append] at hvalues
      simp only [afterTable?, hread, hnone, hvalues, groupsPart?_valuesText h, Option.map_some]
  | some inner =>
      have hread : Text.trimStart tail.text = '(' :: inner ++
          ')' :: (tail.columnsGap ++ (tail.valuesWord ++ tail.valuesText)) := by
        have hregroup : tail.text = tail.nameGap ++ '(' :: (inner ++
            ')' :: (tail.columnsGap ++ (tail.valuesWord ++ tail.valuesText))) := by
          rw [Tail.text, hcolumns]
          simp [Tail.listText]
        rw [hregroup]
        exact Text.trimStart_append_cons h.nameGap (by decide) _
      simp only [afterTable?, hread, columnList?_append (h.columns inner hcolumns),
        keyword?_trimStart h h.columnsGap, groupsPart?_valuesText h, Option.map_some]

theorem exists_of_afterTable? {t groups : Text} {columns : Option Text}
    (h : afterTable? t = some (columns, groups)) :
    ∃ tail : Tail, tail.WellFormed ∧ tail.text = t ∧ tail.columns = columns ∧
      tail.groups = groups := by
  have hlead := Text.takeWhile_append_trimStart t
  have hblank : ∀ s : Text, ∀ c ∈ s.takeWhile Text.isBlank, Text.isBlank c = true :=
    fun s c hc => List.mem_takeWhile_imp hc
  -- The rest of a text, from the place where the keyword is looked for, in three parts.
  have hrest : ∀ {rest after : Text}, keyword? "values".toList (Text.trimStart rest) = some after →
      groupsPart? after = some groups → ∃ word gap ending, IsKeyword "values".toList word ∧
        (∀ c ∈ gap, Text.isBlank c = true) ∧ IsEnding ending ∧
        (∃ inner, groups = '(' :: inner ++ [')']) ∧
        rest = rest.takeWhile Text.isBlank ++ (word ++ (gap ++ (groups ++ ending))) := by
    intro rest after hword hgroups
    obtain ⟨word, hkeyword, hafter⟩ := exists_of_keyword? hword
    obtain ⟨gap, ending, hgap, hending, hinner, rfl⟩ := exists_of_groupsPart? hgroups
    refine ⟨word, gap, ending, hkeyword, hgap, hending, hinner, ?_⟩
    rw [← hafter, Text.takeWhile_append_trimStart]
  simp only [afterTable?] at h
  cases hlist : columnList? (Text.trimStart t) with
  | none =>
      rw [hlist] at h
      dsimp only at h
      split at h
      · rename_i after hword
        obtain ⟨found, hgroups, hpair⟩ := Option.map_eq_some_iff.mp h
        obtain ⟨rfl, rfl⟩ := Prod.mk.inj hpair
        obtain ⟨word, gap, ending, hkeyword, hgap, hending, hinner, heq⟩ := hrest hword hgroups
        refine ⟨⟨t.takeWhile Text.isBlank, none, (Text.trimStart t).takeWhile Text.isBlank, word,
          gap, found, ending⟩, ⟨hblank t, by simp, hblank _, hkeyword, hgap, hinner, hending⟩, ?_,
          rfl, rfl⟩
        exact (congrArg (t.takeWhile Text.isBlank ++ ·) heq.symm).trans hlead
      · cases h
  | some pair =>
      obtain ⟨inner, rest⟩ := pair
      obtain ⟨hflat, hstart⟩ := of_columnList? hlist
      rw [hlist] at h
      dsimp only at h
      split at h
      · rename_i after hword
        obtain ⟨found, hgroups, hpair⟩ := Option.map_eq_some_iff.mp h
        obtain ⟨rfl, rfl⟩ := Prod.mk.inj hpair
        obtain ⟨word, gap, ending, hkeyword, hgap, hending, hinner, heq⟩ := hrest hword hgroups
        refine ⟨⟨t.takeWhile Text.isBlank, some inner, rest.takeWhile Text.isBlank, word, gap,
          found, ending⟩, ⟨hblank t, ?_, hblank _, hkeyword, hgap, hinner, hending⟩, ?_, rfl, rfl⟩
        · intro list hmem
          rw [← Option.some.inj hmem]
          exact hflat
        · rw [hstart, heq] at hlead
          refine Eq.trans ?_ hlead
          simp [Tail.text, Tail.listText, Tail.valuesText]
      · cases h

/-! ## What a bare name takes -/

theorem valuesText_eq_append {tail : Tail} (h : tail.WellFormed) :
    ∃ rest, tail.valuesText = tail.valuesGap ++ '(' :: rest := by
  obtain ⟨inner, hgroups⟩ := h.groups
  refine ⟨inner ++ [')'] ++ tail.ending, ?_⟩
  rw [Tail.valuesText, hgroups]
  simp

theorem head?_append_cons {gap : Text} (hgap : ∀ c ∈ gap, Text.isBlank c = true) {c : Char}
    (hc : Identifier.continuesName c = false) (rest : Text) :
    ∀ d ∈ (gap ++ c :: rest).head?, Identifier.continuesName d = false := by
  cases gap with
  | nil => exact Text.forall_mem_head?_cons hc rest
  | cons b blanks =>
      exact Text.forall_mem_head?_cons (continuesName_of_isBlank (hgap b List.mem_cons_self)) _

theorem head?_valuesText {tail : Tail} (h : tail.WellFormed) :
    ∀ c ∈ tail.valuesText.head?, Identifier.continuesName c = false := by
  obtain ⟨rest, hread⟩ := valuesText_eq_append h
  rw [hread]
  exact head?_append_cons h.valuesGap (by decide +kernel) rest

/-- The tail begins with a blank or a parenthesis, unless the keyword stands right in front. -/
theorem head?_text {tail : Tail} (h : tail.WellFormed) :
    ∀ c ∈ tail.text.head?,
      Text.isBlank c = true ∨ c = '(' ∨ tail.IsGlued ∧ isNameStart c = true := by
  intro c hc
  rw [Tail.text] at hc
  cases hname : tail.nameGap with
  | cons b blanks =>
      rw [hname] at hc
      rw [← Option.some.inj hc]
      exact .inl (h.nameGap b (by rw [hname]; exact List.mem_cons_self))
  | nil =>
      cases hcolumns : tail.columns with
      | some inner =>
          rw [hname, hcolumns] at hc
          exact .inr (.inl (Option.some.inj hc).symm)
      | none =>
          cases hlist : tail.columnsGap with
          | cons b blanks =>
              rw [hname, hcolumns, hlist] at hc
              rw [← Option.some.inj hc]
              exact .inl (h.columnsGap b (by rw [hlist]; exact List.mem_cons_self))
          | nil =>
              obtain ⟨first, more, hword, hstart⟩ := valuesWord_eq_cons h
              rw [hname, hcolumns, hlist, hword] at hc
              rw [← Option.some.inj hc]
              exact .inr (.inr ⟨⟨hname, hcolumns, hlist⟩, hstart⟩)

theorem head?_text_ne_quote {tail : Tail} (h : tail.WellFormed) : tail.text.head? ≠ some '"' := by
  intro hquote
  rcases head?_text h '"' hquote with hblank | hopen | ⟨-, hstart⟩
  · exact absurd hblank (by decide)
  · exact absurd hopen (by decide)
  · exact absurd hstart (by decide)

theorem continuesName_head?_text {tail : Tail} (h : tail.WellFormed) (hglued : ¬ tail.IsGlued) :
    ∀ c ∈ tail.text.head?, Identifier.continuesName c = false := by
  intro c hc
  rcases head?_text h c hc with hblank | rfl | ⟨hstuck, -⟩
  · exact continuesName_of_isBlank hblank
  · decide +kernel
  · exact absurd hstuck hglued

theorem continuesName_of_mem_valuesWord {word : Text} (h : IsKeyword "values".toList word) :
    ∀ c ∈ word, Identifier.continuesName c = true := by
  intro c hc
  have hletters : ∀ w ∈ "values".toList, w.isLower = true :=
    List.all_eq_true.mp (by decide)
  have hmem : foldCase c ∈ "values".toList := by
    rw [← h]
    exact List.mem_map.mpr ⟨c, hc, rfl⟩
  apply continuesName_of_isNameStart
  rw [isNameStart, hletters _ hmem]
  rfl

theorem isBareName_append {name word : Text} (hname : Identifier.IsBareName name)
    (hword : IsKeyword "values".toList word) : Identifier.IsBareName (name ++ word) := by
  obtain ⟨hstart, hmore⟩ := hname
  refine .run hstart fun c hc => ?_
  exact (List.mem_append.mp hc).elim (hmore c) (continuesName_of_mem_valuesWord hword c)

theorem gluedName?_eq_some_iff {run name : Text} :
    gluedName? run = some name ↔
      name ≠ [] ∧ ∃ word, IsKeyword "values".toList word ∧ run = name ++ word := by
  constructor
  · intro h
    unfold gluedName? at h
    dsimp only at h
    split at h
    · cases h
    · rename_i hne
      split at h
      · rename_i hword
        obtain rfl := Option.some.inj h
        obtain ⟨word, hkeyword, hdrop⟩ := exists_of_keyword? hword
        rw [List.append_nil] at hdrop
        refine ⟨fun hnil => hne (List.isEmpty_iff.mpr hnil), word, hkeyword, ?_⟩
        rw [← hdrop, List.take_append_drop]
      · cases h
  · rintro ⟨hne, word, hword, rfl⟩
    have hsix : word.length = 6 := hword.length_eq
    have hlength : (name ++ word).length - 6 = name.length := by
      rw [List.length_append]
      omega
    have hread := keyword?_append hword []
    rw [List.append_nil] at hread
    rw [gluedName?, hlength, List.take_left, List.drop_left, hread]
    simp [hne]

/-- After the keyword, a text is read as a tail only if it begins with a column list. -/
theorem columns_of_afterTable?_valuesText {tail : Tail} (h : tail.WellFormed)
    {columns : Option Text} {groups : Text}
    (hafter : afterTable? tail.valuesText = some (columns, groups)) :
    ∃ inner, columns = some inner := by
  obtain ⟨rest, hread⟩ := valuesText_eq_append h
  have hstart : Text.trimStart tail.valuesText = '(' :: rest := by
    rw [hread]
    exact Text.trimStart_append_cons h.valuesGap (by decide) rest
  have hword : keyword? "values".toList (Text.trimStart ('(' :: rest)) = none := rfl
  simp only [afterTable?, hstart] at hafter
  cases hlist : columnList? ('(' :: rest) with
  | none =>
      rw [hlist] at hafter
      dsimp only at hafter
      rw [hword] at hafter
      cases hafter
  | some pair =>
      rw [hlist] at hafter
      dsimp only at hafter
      split at hafter
      · obtain ⟨found, -, hpair⟩ := Option.map_eq_some_iff.mp hafter
        exact ⟨pair.1, (Prod.mk.inj hpair).1.symm⟩
      · cases hafter

/-! ## Whole texts -/

theorem exists_name_eq_cons {name : Text}
    (h : Identifier.IsQuotedName name ∨ Identifier.IsBareName name) :
    ∃ c more, name = c :: more ∧ Text.isBlank c = false := by
  rcases h with hquoted | hbare
  · cases hquoted with
    | @doubled inner _ => exact ⟨'"', double '"' inner ++ ['"'], rfl, by decide⟩
    | @backtick inner _ _ => exact ⟨'\x60', inner ++ ['\x60'], rfl, by decide⟩
    | @bracket inner _ _ => exact ⟨'[', inner ++ [']'], rfl, by decide⟩
  · obtain ⟨hstart, -⟩ := hbare
    exact ⟨_, _, rfl, isBlank_of_isNameStart hstart⟩

theorem keywords?_text {layout : Layout} (h : layout.WellFormed) :
    keywords? ["insert".toList, "into".toList] (Text.trimStart layout.text) =
      some (layout.name ++ layout.tail.text) := by
  obtain ⟨first, insertMore, hinsert, hinsertStart, -⟩ := h.insertWord.exists_eq_cons (by decide)
  obtain ⟨second, intoMore, hinto, hintoStart, -⟩ := h.intoWord.exists_eq_cons (by decide)
  obtain ⟨third, nameMore, hname, hnameStart⟩ := exists_name_eq_cons h.name
  have htrim : Text.trimStart layout.text = layout.insertWord ++ (layout.insertGap ++
      (layout.intoWord ++ (layout.intoGap ++ (layout.name ++ layout.tail.text)))) := by
    rw [Layout.text, hinsert]
    exact Text.trimStart_append_cons h.lead (isBlank_of_isNameStart hinsertStart) _
  have hintoHead : ∀ c ∈ (layout.intoWord ++ (layout.intoGap ++
      (layout.name ++ layout.tail.text))).head?, Text.isBlank c = false := by
    rw [hinto]
    exact Text.forall_mem_head?_cons (isBlank_of_isNameStart hintoStart) _
  have hnameHead : ∀ c ∈ (layout.name ++ layout.tail.text).head?, Text.isBlank c = false := by
    rw [hname]
    exact Text.forall_mem_head?_cons hnameStart _
  rw [htrim, keywords?_cons h.insertWord h.insertGap hintoHead,
    keywords?_cons h.intoWord h.intoGap hnameHead]
  rfl

/--
A text of the shape is read with its own parts, unless a bare name has taken the keyword
behind it and the text can be read on with a column list.
-/
theorem parts?_text {layout : Layout} (h : layout.WellFormed) :
    parts? layout.text = some (layout.name, layout.tail.columns, layout.tail.groups) ∨
      layout.tail.IsGlued ∧ ∃ name inner groups,
        parts? layout.text = some (name, some inner, groups) := by
  rcases h.name with hquoted | hbare
  · left
    simp only [parts?, keywords?_text h,
      Identifier.scanName?_quoted hquoted (head?_text_ne_quote h.tail),
      Identifier.Written.rest, Identifier.Written.name, afterTable?_text h.tail]
  · by_cases hglued : layout.tail.IsGlued
    · obtain ⟨hname, hcolumns, hlist⟩ := hglued
      have htail : layout.name ++ layout.tail.text =
          (layout.name ++ layout.tail.valuesWord) ++ layout.tail.valuesText := by
        rw [Tail.text, hname, hcolumns, hlist]
        simp [Tail.listText]
      have hscan := Identifier.scanName?_bare (isBareName_append hbare h.tail.valuesWord)
        (head?_valuesText h.tail)
      cases hafter : afterTable? layout.tail.valuesText with
      | some found =>
          obtain ⟨columns, groups⟩ := found
          obtain ⟨inner, rfl⟩ := columns_of_afterTable?_valuesText h.tail hafter
          refine .inr ⟨⟨hname, hcolumns, hlist⟩, layout.name ++ layout.tail.valuesWord, inner,
            groups, ?_⟩
          simp only [parts?, keywords?_text h, htail, hscan, Identifier.Written.rest,
            Identifier.Written.name, hafter]
      | none =>
          have hne : layout.name ≠ [] := by
            obtain ⟨c, more, heq, -⟩ := exists_name_eq_cons h.name
            rw [heq]
            exact List.cons_ne_nil c more
          have hglue : gluedName? (layout.name ++ layout.tail.valuesWord) = some layout.name :=
            gluedName?_eq_some_iff.mpr ⟨hne, _, h.tail.valuesWord, rfl⟩
          left
          simp only [parts?, keywords?_text h, htail, hscan, Identifier.Written.rest, hafter,
            hglue, groupsPart?_valuesText h.tail, hcolumns]
    · left
      simp only [parts?, keywords?_text h,
        Identifier.scanName?_bare hbare (continuesName_head?_text h.tail hglued),
        Identifier.Written.rest, Identifier.Written.name, afterTable?_text h.tail]

/-- A header that is read gives the front of a layout. -/
theorem exists_layout {t name : Text} {tail : Tail}
    (h : keywords? ["insert".toList, "into".toList] (Text.trimStart t) = some (name ++ tail.text))
    (hname : Identifier.IsQuotedName name ∨ Identifier.IsBareName name) (htail : tail.WellFormed) :
    ∃ layout : Layout, layout.WellFormed ∧ layout.text = t ∧ layout.name = name ∧
      layout.tail = tail := by
  obtain ⟨insertWord, insertGap, later, hinsert, hinsertGap, hstart, hinto⟩ :=
    exists_of_keywords? h
  obtain ⟨intoWord, intoGap, named, hintoWord, hintoGap, rfl, hnamed⟩ := exists_of_keywords? hinto
  obtain rfl := Option.some.inj hnamed
  refine ⟨⟨t.takeWhile Text.isBlank, insertWord, insertGap, intoWord, intoGap, name, tail⟩,
    ⟨fun c hc => List.mem_takeWhile_imp hc, hinsert, hinsertGap, hintoWord, hintoGap, hname, htail⟩,
    ?_, rfl, rfl⟩
  have hlead := Text.takeWhile_append_trimStart t
  rw [hstart] at hlead
  exact hlead

theorem exists_of_parts? {t name groups : Text} {columns : Option Text}
    (h : parts? t = some (name, columns, groups)) :
    ∃ layout : Layout, layout.WellFormed ∧ layout.text = t ∧ layout.name = name ∧
      layout.tail.columns = columns ∧ layout.tail.groups = groups := by
  unfold parts? at h
  split at h
  · cases h
  · rename_i rest hwords
    split at h
    · cases h
    · rename_i written hscan
      obtain ⟨hname, rfl⟩ := Identifier.of_scanName? hscan
      split at h
      · rename_i found groups' hafter
        obtain ⟨tail, htail, htext, hcolumns, hgroups⟩ := exists_of_afterTable? hafter
        cases h
        have hkind : Identifier.IsQuotedName written.name ∨ Identifier.IsBareName written.name := by
          cases written with
          | bare run after => exact .inr hname
          | quoted name after => exact .inl hname
        rw [← htext] at hwords
        obtain ⟨layout, hlayout, hread, hsame, rfl⟩ := exists_layout hwords hkind htail
        exact ⟨layout, hlayout, hread, hsame, hcolumns, hgroups⟩
      · split at h
        · cases h
        · rename_i run after hbare
          split at h
          · rename_i glued groups' hglued hgroups
            cases h
            obtain ⟨hne, word, hword, rfl⟩ := gluedName?_eq_some_iff.mp hglued
            obtain ⟨gap, ending, hgap, hending, hinner, rfl⟩ := exists_of_groupsPart? hgroups
            have htail : Tail.WellFormed ⟨[], none, [], word, gap, groups, ending⟩ :=
              ⟨by simp, by simp, by simp, hword, hgap, hinner, hending⟩
            have hregroup : (name ++ word) ++ (gap ++ (groups ++ ending)) =
                name ++ Tail.text ⟨[], none, [], word, gap, groups, ending⟩ :=
              List.append_assoc _ _ _
            rw [Identifier.Written.name, Identifier.Written.rest, hregroup] at hwords
            obtain ⟨layout, hlayout, hread, hsame, heq⟩ :=
              exists_layout hwords (.inr (hname.of_append hne)) htail
            exact ⟨layout, hlayout, hread, hsame, by rw [heq], by rw [heq]⟩
          · cases h

end DumpConvert.Insert
