import DumpConvert.Proofs.Script.Independence
import DumpConvert.Proofs.Statement.Kind

/-!
# Where a script is closed

The line that ends a closing block is written nowhere else: a table definition and an
insertion are written with other words, and a line that equals it closes the dump
(`closingLine_not_mem`).  So every closing block among the lines of a script is the block
of a statement that closes the dump, in the place of that statement, or it is the one at the
end of a script without such a statement (`closingAt_of_eq`); and each of these is there
(`eq_of_closingAt`).

A dump may hold several such statements, or statements after one.  Its script is closed
once, and nothing is written after that, exactly if all that follows a closing statement is
left out of the script (`closedOnce_iff`).
-/

namespace DumpConvert

/-! ## Cutting at a line -/

/-- Where a line stands behind a list that does not hold it, that list comes first. -/
theorem exists_of_append_eq {lines rest before after : List Text} {line : Text}
    (hline : line ∉ lines) (h : lines ++ rest = before ++ line :: after) :
    ∃ more, before = lines ++ more ∧ rest = more ++ line :: after := by
  rcases List.append_eq_append_iff.mp h with ⟨more, hbefore, hrest⟩ | ⟨more, hlines, hrest⟩
  · exact ⟨more, hbefore, hrest⟩
  · cases more with
    | nil =>
        refine ⟨[], ?_, ?_⟩
        · rw [hlines, List.append_nil, List.append_nil]
        · exact hrest.symm
    | cons first more =>
        have hfirst : line = first := (List.cons_eq_cons.mp hrest).1
        rw [hlines, ← hfirst] at hline
        exact absurd (List.mem_append_right before List.mem_cons_self) hline

/-- A line that is the last one of a list and stands nowhere else in it is found at the end. -/
theorem eq_of_append_singleton_eq {lines before after : List Text} {line : Text}
    (hline : line ∉ lines) (h : lines ++ [line] = before ++ line :: after) :
    before = lines ∧ after = [] := by
  obtain ⟨more, rfl, hrest⟩ := exists_of_append_eq hline h
  obtain ⟨rfl, hafter⟩ | ⟨-, hnil⟩ := List.append_eq_singleton_iff.mp hrest.symm
  · exact ⟨List.append_nil _, (List.cons_eq_cons.mp hafter).2⟩
  · cases hnil

theorem pairwise_iff_split {α : Type} {R : α → α → Prop} {l : List α} :
    l.Pairwise R ↔ ∀ earlier a later, l = earlier ++ a :: later → ∀ b ∈ later, R a b := by
  constructor
  · rintro h earlier a later rfl
    exact (List.pairwise_cons.mp (List.pairwise_append.mp h).2.1).1
  · intro h
    induction l with
    | nil => exact .nil
    | cons a rest ih =>
        refine .cons (h [] a rest rfl) (ih fun earlier b later hsplit => ?_)
        exact h (a :: earlier) b later (congrArg (a :: ·) hsplit)

namespace Block

/-! ## The last line of a closing block -/

/-- The last line of every closing block. -/
def closingLine : Text :=
  "COMMIT;".toList

def beforeClosingLine (profile : Profile) : List Text :=
  (closingLines profile).dropLast

theorem closingLines_eq (profile : Profile) :
    closingLines profile = beforeClosingLine profile ++ [closingLine] := by
  have hlast : (closingLines profile).getLast? = some closingLine := by
    rw [closingLines, List.getLast?_append]
    rfl
  obtain ⟨front, hfront⟩ := List.getLast?_eq_some_iff.mp hlast
  rw [beforeClosingLine, hfront, List.dropLast_concat]

theorem closingLine_not_mem_beforeClosingLine {profile : Profile}
    (h : closingLine ∉ profile.indexes) : closingLine ∉ beforeClosingLine profile := by
  rw [beforeClosingLine, closingLines, List.dropLast_append_of_ne_nil (List.cons_ne_nil _ _),
    List.mem_append, List.mem_append]
  rintro ((hstart | hindex) | hend)
  · exact absurd hstart (by decide)
  · exact h hindex
  · exact absurd hend (by decide)

theorem closingLine_not_mem_indexes : closingLine ∉ Profile.builtIn.indexes := by
  -- Strings are compared as they are written; their characters would have to be decoded first.
  show "COMMIT;".toList ∉ Profile.texts _
  simp only [Profile.texts, List.map_cons, List.map_nil, List.mem_cons, List.not_mem_nil,
    String.toList_inj]
  simp

theorem ne_closingLine_of_ofLine {t : Text} (h : StatementKind.ofLine t ≠ .other) :
    closingLine ≠ t := by
  rintro rfl
  exact h (by decide)

theorem ne_closingLine_render (profile : Profile) (table : CreateTable) :
    closingLine ≠ table.render profile := by
  obtain ⟨rest, hrender⟩ : ∃ rest, table.render profile = 'C' :: 'R' :: rest := ⟨_, rfl⟩
  rw [hrender]
  rintro ⟨⟩

theorem closingLine_not_mem_ofCreateTable (profile : Profile) {text : Text}
    (h : StatementKind.ofLine text ≠ .other) :
    closingLine ∉ (ofCreateTable profile text).lines := by
  unfold ofCreateTable
  split
  · rename_i table htable
    intro hmem
    rcases List.mem_cons.mp hmem with hrender | hmem
    · exact ne_closingLine_render profile table hrender
    · exact absurd (List.mem_singleton.mp hmem) (by decide)
  · intro hmem
    exact ne_closingLine_of_ofLine h (List.mem_singleton.mp hmem)

theorem closingLine_not_mem_ofInsert (profile : Profile) (registry : Option Registry)
    {text : Text} (h : StatementKind.ofLine text ≠ .other) :
    closingLine ∉ (ofInsert profile registry text).lines := by
  unfold ofInsert
  split
  · intro hmem
    exact ne_closingLine_of_ofLine h (List.mem_singleton.mp hmem)
  · rename_i insert hinsert
    intro hmem
    obtain ⟨rest, hrender⟩ :
        ∃ rest, insert.render (insert.convertRows profile (registry.bind (·.get? insert.table))
          (profile.mentionsBoolean (Text.lower text))) = 'I' :: rest := ⟨_, rfl⟩
    have hwritten := List.mem_singleton.mp hmem
    rw [hrender] at hwritten
    cases hwritten

theorem closingLine_not_mem_ofOther {profile : Profile}
    (hcommit : profile.isCommit closingLine = true) {text : Text}
    (h : (!profile.isDirective text && profile.isCommit text) = false) :
    closingLine ∉ (ofOther profile text).lines := by
  intro hmem
  cases hdropped : profile.isDirective text with
  | true =>
      rw [ofOther_of_isDirective hdropped] at hmem
      cases hmem
  | false =>
      have hopen : profile.isCommit text = false := by
        rw [hdropped] at h
        exact h
      rw [ofOther_of_passed hdropped hopen] at hmem
      rw [← List.mem_singleton.mp hmem, hcommit] at hopen
      cases hopen

/-- A statement that does not close the dump writes no such line. -/
theorem closingLine_not_mem {profile : Profile} (hcommit : profile.isCommit closingLine = true)
    {statement : Statement} (hkind : StatementKind.ofLine statement.text = statement.kind)
    (hopen : statement.closesDump profile = false) (registry : Option Registry) :
    closingLine ∉ (ofStatement profile registry statement).lines := by
  unfold ofStatement
  cases hcase : statement.kind with
  | createTable =>
      exact closingLine_not_mem_ofCreateTable profile (by rw [hkind, hcase]; decide)
  | insert =>
      have htext : StatementKind.ofLine statement.text ≠ .other := by
        rw [hkind, hcase]
        decide
      dsimp only
      split
      · exact closingLine_not_mem_ofInsert profile registry htext
      · intro hmem
        exact ne_closingLine_of_ofLine htext (List.mem_singleton.mp hmem)
  | other =>
      refine closingLine_not_mem_ofOther hcommit ?_
      rw [Statement.closesDump, hcase] at hopen
      exact hopen

/-! ## Statements without a line -/

theorem lines_ofCreateTable_ne_nil (profile : Profile) (text : Text) :
    (ofCreateTable profile text).lines ≠ [] := by
  unfold ofCreateTable
  split <;> exact List.cons_ne_nil _ _

theorem lines_ofInsert_ne_nil (profile : Profile) (registry : Option Registry) (text : Text) :
    (ofInsert profile registry text).lines ≠ [] := by
  unfold ofInsert
  split <;> exact List.cons_ne_nil _ _

theorem lines_ofOther_ne_nil {profile : Profile} {text : Text}
    (h : profile.isDirective text = false) : (ofOther profile text).lines ≠ [] := by
  cases hcommit : profile.isCommit text with
  | true =>
      rw [ofOther_of_isCommit h hcommit]
      exact List.cons_ne_nil _ _
  | false =>
      rw [ofOther_of_passed h hcommit]
      exact List.cons_ne_nil _ _

theorem lines_eq_nil_iff (profile : Profile) (registry : Option Registry)
    (statement : Statement) :
    (ofStatement profile registry statement).lines = [] ↔
      statement.isDropped profile = true := by
  constructor
  · intro hnil
    unfold ofStatement at hnil
    cases hkind : statement.kind with
    | createTable =>
        rw [hkind] at hnil
        exact absurd hnil (lines_ofCreateTable_ne_nil profile statement.text)
    | insert =>
        rw [hkind] at hnil
        dsimp only at hnil
        split at hnil
        · exact absurd hnil (lines_ofInsert_ne_nil profile registry statement.text)
        · cases hnil
    | other =>
        rw [hkind] at hnil
        cases hdropped : profile.isDirective statement.text with
        | true => simp [Statement.isDropped, hkind, hdropped]
        | false => exact absurd hnil (lines_ofOther_ne_nil hdropped)
  · exact fun h => lines_of_isDropped h registry

end Block

namespace Conversion

/-! ## Closing blocks -/

/-- The lines that are written for statements, with a closing block behind them if none closes. -/
def linesWith (profile : Profile) (generated : Moment) (written : Statement → List Text)
    (statements : List Statement) : List Text :=
  headingLines generated ++ statements.flatMap written ++
    if statements.any (Statement.closesDump profile) then [] else Block.closingLines profile

/--
A closing block of a script, with the lines before it and the lines after it: the block of a
statement that closes the dump, or the block behind all statements if there is none.
-/
inductive ClosingAt (profile : Profile) (generated : Moment) (written : Statement → List Text)
    (statements : List Statement) : List Text → List Text → Prop where
  | inPlace {earlier later : List Statement} {statement : Statement}
      (hsplit : statements = earlier ++ statement :: later)
      (hcloses : statement.closesDump profile = true) :
      ClosingAt profile generated written statements
        (headingLines generated ++ earlier.flatMap written) (later.flatMap written)
  | atEnd (hopen : ∀ statement ∈ statements, statement.closesDump profile = false) :
      ClosingAt profile generated written statements
        (headingLines generated ++ statements.flatMap written) []

/--
Statements that close the dump write a closing block, no others write its last line, and
those that are left out write nothing.
-/
structure WritesBlocks (profile : Profile) (written : Statement → List Text)
    (statements : List Statement) : Prop where
  closing : ∀ statement ∈ statements, statement.closesDump profile = true →
    written statement = Block.closingLines profile
  only_closing : ∀ statement ∈ statements, statement.closesDump profile = false →
    Block.closingLine ∉ written statement
  nil_iff : ∀ statement ∈ statements,
    written statement = [] ↔ statement.isDropped profile = true

theorem writesBlocks_blockAmong {profile : Profile}
    (hcommit : profile.isCommit Block.closingLine = true) (mode : Mode)
    {statements : List Statement}
    (hkinds : ∀ statement ∈ statements, StatementKind.ofLine statement.text = statement.kind) :
    WritesBlocks profile (fun statement => (blockAmong profile mode statements statement).lines)
      statements := by
  exact
    { closing := fun statement _ hcloses => Block.lines_of_closesDump hcloses _
      only_closing := fun statement hmem hopen =>
        Block.closingLine_not_mem hcommit (hkinds statement hmem) hopen _
      nil_iff := fun statement _ => Block.lines_eq_nil_iff profile _ statement }

variable {profile : Profile} {generated : Moment} {written : Statement → List Text}
  {statements : List Statement}

/-- One statement: the closing line that is found ends its block, or stands behind it. -/
theorem exists_of_written_append_eq (hwritten : WritesBlocks profile written statements)
    (hbefore : Block.closingLine ∉ Block.beforeClosingLine profile) {statement : Statement}
    (hmem : statement ∈ statements) {rest before after : List Text}
    (h : written statement ++ rest = before ++ Block.closingLine :: after) :
    (statement.closesDump profile = true ∧ before = Block.beforeClosingLine profile ∧
      after = rest) ∨
    ∃ more, before = written statement ++ more ∧ rest = more ++ Block.closingLine :: after := by
  cases hcloses : statement.closesDump profile with
  | false => exact .inr (exists_of_append_eq (hwritten.only_closing statement hmem hcloses) h)
  | true =>
      have hblock := hwritten.closing statement hmem hcloses
      rw [Block.closingLines_eq] at hblock
      rw [hblock, List.append_assoc, List.singleton_append] at h
      obtain ⟨more, rfl, hrest⟩ := exists_of_append_eq hbefore h
      cases more with
      | nil =>
          refine .inl ⟨rfl, List.append_nil _, ?_⟩
          exact (List.cons_eq_cons.mp hrest).2.symm
      | cons line more =>
          obtain ⟨hline, hbehind⟩ := List.cons_eq_cons.mp hrest
          refine .inr ⟨more, ?_, hbehind⟩
          rw [hblock, ← hline, List.append_assoc, List.singleton_append]

/--
All statements: the closing line that is found ends the block of one that closes the dump, or
stands behind all of them.
-/
theorem exists_of_flatMap_append_eq (hwritten : WritesBlocks profile written statements)
    (hbefore : Block.closingLine ∉ Block.beforeClosingLine profile) {rest before after : List Text}
    (h : statements.flatMap written ++ rest = before ++ Block.closingLine :: after) :
    (∃ earlier statement later, statements = earlier ++ statement :: later ∧
      statement.closesDump profile = true ∧
      before = earlier.flatMap written ++ Block.beforeClosingLine profile ∧
      after = later.flatMap written ++ rest) ∨
    ∃ more, before = statements.flatMap written ++ more ∧
      rest = more ++ Block.closingLine :: after := by
  induction statements generalizing before with
  | nil => exact .inr ⟨before, rfl, h⟩
  | cons statement later ih =>
      have hlater : WritesBlocks profile written later :=
        { closing := fun other hmem => hwritten.closing other (List.mem_cons_of_mem _ hmem)
          only_closing := fun other hmem =>
            hwritten.only_closing other (List.mem_cons_of_mem _ hmem)
          nil_iff := fun other hmem => hwritten.nil_iff other (List.mem_cons_of_mem _ hmem) }
      rw [List.flatMap_cons, List.append_assoc] at h
      rcases exists_of_written_append_eq hwritten hbefore List.mem_cons_self h with
        ⟨hcloses, hhere, hbehind⟩ | ⟨more, rfl, hmore⟩
      · exact .inl ⟨[], statement, later, rfl, hcloses, hhere, hbehind⟩
      · rcases ih hlater hmore with
          ⟨earlier, other, last, rfl, hcloses, rfl, hafter⟩ | ⟨front, rfl, hrest⟩
        · refine .inl ⟨statement :: earlier, other, last, rfl, hcloses, ?_, hafter⟩
          rw [List.flatMap_cons, List.append_assoc]
        · refine .inr ⟨front, ?_, hrest⟩
          rw [List.flatMap_cons, List.append_assoc]

theorem closingLine_not_mem_headingLines (generated : Moment) :
    Block.closingLine ∉ headingLines generated := by
  have hdate : Block.closingLine ≠ "-- Generated on: ".toList ++ generated.text := by
    obtain ⟨rest, hrest⟩ : ∃ rest, "-- Generated on: ".toList ++ generated.text = '-' :: rest :=
      ⟨_, rfl⟩
    rw [hrest]
    rintro ⟨⟩
  simp only [headingLines, List.mem_cons, List.not_mem_nil, hdate, or_false, false_or]
  decide

theorem any_closesDump_of_split {earlier later : List Statement} {statement : Statement}
    (h : statement.closesDump profile = true) :
    (earlier ++ statement :: later).any (Statement.closesDump profile) = true := by
  simp [h]

/-- A closing block among the lines is the block of a closing statement, or the last one. -/
theorem closingAt_of_eq (hwritten : WritesBlocks profile written statements)
    (hbefore : Block.closingLine ∉ Block.beforeClosingLine profile) {before after : List Text}
    (h : linesWith profile generated written statements =
      before ++ Block.closingLines profile ++ after) :
    ClosingAt profile generated written statements before after := by
  rw [linesWith, Block.closingLines_eq, List.append_assoc, List.append_assoc, List.append_assoc,
    List.singleton_append, ← List.append_assoc before] at h
  obtain ⟨front, hfront, hrest⟩ :=
    exists_of_append_eq (closingLine_not_mem_headingLines generated) h
  rcases exists_of_flatMap_append_eq hwritten hbefore hrest with
    ⟨earlier, statement, later, rfl, hcloses, rfl, rfl⟩ | ⟨last, rfl, htail⟩
  · rw [← List.append_assoc] at hfront
    rw [List.append_cancel_right hfront, if_pos (any_closesDump_of_split hcloses),
      List.append_nil]
    exact .inPlace rfl hcloses
  · by_cases hany : statements.any (Statement.closesDump profile) = true
    · rw [if_pos hany] at htail
      exact absurd htail.symm (List.append_ne_nil_of_right_ne_nil _ (List.cons_ne_nil _ _))
    · have hopen : ∀ statement ∈ statements, statement.closesDump profile = false := by
        simpa using hany
      rw [if_neg hany] at htail
      obtain ⟨rfl, rfl⟩ := eq_of_append_singleton_eq hbefore htail
      rw [← List.append_assoc] at hfront
      rw [List.append_cancel_right hfront]
      exact .atEnd hopen

theorem eq_of_closingAt (hwritten : WritesBlocks profile written statements)
    {before after : List Text}
    (h : ClosingAt profile generated written statements before after) :
    linesWith profile generated written statements =
      before ++ Block.closingLines profile ++ after := by
  cases h with
  | @inPlace earlier later statement hsplit hcloses =>
      subst hsplit
      have hblock : written statement = Block.closingLines profile :=
        hwritten.closing statement (List.mem_append_right _ List.mem_cons_self) hcloses
      rw [linesWith, if_pos (any_closesDump_of_split hcloses), List.append_nil,
        List.flatMap_append, List.flatMap_cons, hblock]
      simp only [List.append_assoc]
  | atEnd hopen =>
      have hany : ¬ statements.any (Statement.closesDump profile) = true := by
        simpa using hopen
      rw [linesWith, if_neg hany, List.append_nil]

/-! ## Scripts that are closed once -/

structure ClosedOnce (profile : Profile) (lines : List Text) : Prop where
  closed : Block.closingLines profile <:+ lines
  nothing_behind : ∀ before after,
    lines = before ++ Block.closingLines profile ++ after → after = []

theorem flatMap_eq_nil_iff_of_writesBlocks (hwritten : WritesBlocks profile written statements)
    {part : List Statement} (hpart : ∀ statement ∈ part, statement ∈ statements) :
    part.flatMap written = [] ↔ ∀ statement ∈ part, statement.isDropped profile = true := by
  rw [List.flatMap_eq_nil_iff]
  exact forall₂_congr fun statement hmem => hwritten.nil_iff statement (hpart statement hmem)

theorem closedOnce_iff (hwritten : WritesBlocks profile written statements)
    (hbefore : Block.closingLine ∉ Block.beforeClosingLine profile) :
    ClosedOnce profile (linesWith profile generated written statements) ↔
      statements.Pairwise fun s t =>
        s.closesDump profile = true → t.isDropped profile = true := by
  have hbehind : ∀ {earlier later : List Statement} {statement : Statement},
      statements = earlier ++ statement :: later →
        (later.flatMap written = [] ↔ ∀ t ∈ later, t.isDropped profile = true) := by
    rintro earlier later statement rfl
    refine flatMap_eq_nil_iff_of_writesBlocks hwritten fun t ht => ?_
    exact List.mem_append_right _ (List.mem_cons_of_mem _ ht)
  rw [pairwise_iff_split]
  constructor
  · intro h earlier statement later hsplit t ht hcloses
    have hplace : linesWith profile generated written statements = _ :=
      eq_of_closingAt hwritten (.inPlace hsplit hcloses)
    exact (hbehind hsplit).mp (h.nothing_behind _ _ hplace) t ht
  · intro h
    refine ⟨?_, fun before after heq => ?_⟩
    · by_cases hany : ∃ statement ∈ statements, statement.closesDump profile = true
      · obtain ⟨statement, hmem, hcloses⟩ := hany
        obtain ⟨earlier, later, hsplit⟩ := List.append_of_mem hmem
        have hnil : later.flatMap written = [] :=
          (hbehind hsplit).mpr fun t ht => h earlier statement later hsplit t ht hcloses
        rw [eq_of_closingAt hwritten (.inPlace hsplit hcloses), hnil, List.append_nil]
        exact List.suffix_append _ _
      · have hopen : ∀ statement ∈ statements, statement.closesDump profile = false := by
          simpa using hany
        rw [eq_of_closingAt hwritten (.atEnd hopen), List.append_nil]
        exact List.suffix_append _ _
    · cases closingAt_of_eq hwritten hbefore heq with
      | inPlace hsplit hcloses =>
          exact (hbehind hsplit).mpr fun t ht => h _ _ _ hsplit t ht hcloses
      | atEnd hopen => rfl

/-! ## Scripts of dumps -/

def linesOf (profile : Profile) (mode : Mode) (generated : Moment) (dump : Text) : List Text :=
  let statements := splitStatements profile.commitStatements dump
  scriptLines profile generated (blocks profile (registryFor mode statements) statements)

theorem linesOf_eq_linesWith (profile : Profile) (mode : Mode) (generated : Moment)
    (dump : Text) :
    let statements := splitStatements profile.commitStatements dump
    linesOf profile mode generated dump = linesWith profile generated
      (fun statement => (blockAmong profile mode statements statement).lines) statements := by
  exact scriptLines_blocks profile generated _ _

theorem writesBlocks_builtIn (mode : Mode) (dump : Text) :
    let statements := splitStatements Profile.builtIn.commitStatements dump
    WritesBlocks .builtIn (fun statement => (blockAmong .builtIn mode statements statement).lines)
      statements := by
  exact writesBlocks_blockAmong (by decide) mode fun _ hmem =>
    ofLine_text_of_mem_splitStatements hmem

theorem closedOnce_linesOf_iff (mode : Mode) (generated : Moment) (dump : Text) :
    ClosedOnce .builtIn (linesOf .builtIn mode generated dump) ↔
      (splitStatements Profile.builtIn.commitStatements dump).Pairwise fun s t =>
        s.closesDump .builtIn = true → t.isDropped .builtIn = true := by
  rw [linesOf_eq_linesWith]
  exact closedOnce_iff (writesBlocks_builtIn mode dump)
    (Block.closingLine_not_mem_beforeClosingLine Block.closingLine_not_mem_indexes)

/-- What stands behind a closing line is written behind its closing block. -/
theorem not_closedOnce_insertBehind :
    ¬ ClosedOnce .builtIn (linesOf .builtIn .heuristic (Moment.ofMillis 0)
      "COMMIT;\nINSERT INTO t VALUES(1);\nCOMMIT;".toList) := by
  have hsplit : splitStatements Profile.builtIn.commitStatements
      "COMMIT;\nINSERT INTO t VALUES(1);\nCOMMIT;".toList =
        [⟨.other, "COMMIT;".toList, 1, .complete⟩,
          ⟨.insert, "INSERT INTO t VALUES(1);".toList, 1, .complete⟩,
          ⟨.other, "COMMIT;".toList, 1, .complete⟩] := by
    decide +kernel
  rw [closedOnce_linesOf_iff, hsplit]
  decide +kernel

/--
The closing blocks of a script are those of the statements that close the dump, in their
places, or one at the end if there is no such statement.  The script is closed once, at its
end, exactly if nothing but lines that are left out follows a statement that closes the dump.
-/
theorem closingAt_iff_and_closedOnce_iff (mode : Mode) (generated : Moment) (dump : Text) :
    let statements := splitStatements Profile.builtIn.commitStatements dump
    let lines := linesOf .builtIn mode generated dump
    (convertDump .builtIn mode generated dump).script = scriptText lines ∧
    (∀ before after, lines = before ++ Block.closingLines .builtIn ++ after ↔
      ClosingAt .builtIn generated
        (fun statement => (blockAmong .builtIn mode statements statement).lines)
        statements before after) ∧
    (ClosedOnce .builtIn lines ↔ statements.Pairwise fun s t =>
      s.closesDump .builtIn = true → t.isDropped .builtIn = true) := by
  intro statements lines
  have hbefore : Block.closingLine ∉ Block.beforeClosingLine .builtIn :=
    Block.closingLine_not_mem_beforeClosingLine Block.closingLine_not_mem_indexes
  have hwritten := writesBlocks_builtIn mode dump
  have hlines : lines = linesWith .builtIn generated
      (fun statement => (blockAmong .builtIn mode statements statement).lines) statements :=
    linesOf_eq_linesWith .builtIn mode generated dump
  refine ⟨rfl, fun before after => ?_, closedOnce_linesOf_iff mode generated dump⟩
  rw [hlines]
  exact ⟨closingAt_of_eq hwritten hbefore, eq_of_closingAt hwritten⟩

/-- A directive may follow the line that closes the dump. -/
theorem closedOnce_directiveBehind :
    (splitStatements Profile.builtIn.commitStatements
      "INSERT INTO t VALUES(1);\nCOMMIT;\nPRAGMA x;".toList).Pairwise
        (fun s t => s.closesDump .builtIn = true → t.isDropped .builtIn = true) ∧
    ClosedOnce .builtIn (linesOf .builtIn .schema (Moment.ofMillis 0)
      "INSERT INTO t VALUES(1);\nCOMMIT;\nPRAGMA x;".toList) := by
  have hsplit : splitStatements Profile.builtIn.commitStatements
      "INSERT INTO t VALUES(1);\nCOMMIT;\nPRAGMA x;".toList =
        [⟨.insert, "INSERT INTO t VALUES(1);".toList, 1, .complete⟩,
          ⟨.other, "COMMIT;".toList, 1, .complete⟩,
          ⟨.other, "PRAGMA x;".toList, 1, .complete⟩] := by
    decide +kernel
  have hdropped : (splitStatements Profile.builtIn.commitStatements
      "INSERT INTO t VALUES(1);\nCOMMIT;\nPRAGMA x;".toList).Pairwise
        (fun s t => s.closesDump .builtIn = true → t.isDropped .builtIn = true) := by
    rw [hsplit]
    decide +kernel
  obtain ⟨-, -, hclosed⟩ := closingAt_iff_and_closedOnce_iff .schema (Moment.ofMillis 0)
    "INSERT INTO t VALUES(1);\nCOMMIT;\nPRAGMA x;".toList
  exact ⟨hdropped, hclosed.mpr hdropped⟩

end Conversion

end DumpConvert
