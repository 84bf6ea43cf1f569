import DumpConvert.Proofs.Statement.Step

/-!
# The lines of a dump, statement by statement

Splitting a dump loses no line.  The lines are cut into consecutive blocks, one for each
statement, and blank lines are all that is left after the last block.  A block begins
with the blank lines that were passed over; the lines after those are the body of its
statement, which decide the kind, the text and the ending of the statement.

What has been read since the last statement determines the state of the scan
(`Pending`).  One line keeps that description or completes a block, and a fold over the
lines turns this into the partition of the whole dump.
-/

namespace DumpConvert

/-! ## Taking lines into a statement -/

namespace Draft

def pushAll (draft : Draft) (lines : List Text) : Draft :=
  lines.foldl (fun grown line => (grown.push line).1) draft

/-- For each line in turn, whether the statement is complete with it. -/
def completions : Draft → List Text → List Bool
  | _, [] => []
  | draft, line :: rest => (draft.push line).2 :: completions (draft.push line).1 rest

theorem pushAll_append (draft : Draft) (xs ys : List Text) :
    draft.pushAll (xs ++ ys) = (draft.pushAll xs).pushAll ys := by
  simp [pushAll, List.foldl_append]

theorem completions_append (draft : Draft) (xs ys : List Text) :
    draft.completions (xs ++ ys) = draft.completions xs ++ (draft.pushAll xs).completions ys := by
  induction xs generalizing draft with
  | nil =>
      rfl
  | cons line rest ih =>
      rw [List.cons_append, completions, completions, ih, List.cons_append]
      rfl

theorem kind_pushAll (draft : Draft) (lines : List Text) :
    (draft.pushAll lines).kind = draft.kind := by
  induction lines generalizing draft with
  | nil =>
      rfl
  | cons line rest ih =>
      exact (ih (draft.push line).1).trans (kind_push draft line)

theorem linesReversed_pushAll (draft : Draft) (lines : List Text) :
    (draft.pushAll lines).linesReversed = lines.reverse ++ draft.linesReversed := by
  induction lines generalizing draft with
  | nil =>
      rfl
  | cons line rest ih =>
      have hrest := ih (draft.push line).1
      rw [linesReversed_push] at hrest
      rw [List.reverse_cons, List.append_assoc]
      exact hrest

/-- The text of a statement made of these lines. -/
theorem text_pushAll_start (kind : StatementKind) (lines : List Text) :
    ((start kind).pushAll lines).text = Text.trim (Text.joinWith ['\n'] lines) := by
  unfold text
  rw [linesReversed_pushAll]
  simp [start]

end Draft

/-! ## Blocks of lines -/

/-- The lines that one statement accounts for: blank ones passed over, then its body. -/
structure StatementBlock where
  skipped : List Text
  first : Text
  more : List Text

namespace StatementBlock

def body (block : StatementBlock) : List Text :=
  block.first :: block.more

def lines (block : StatementBlock) : List Text :=
  block.skipped ++ block.body

def kind (block : StatementBlock) : StatementKind :=
  StatementKind.ofLine (Text.trim block.first)

def draft (block : StatementBlock) : Draft :=
  (Draft.start block.kind).pushAll block.body

def grow (block : StatementBlock) (line : Text) : StatementBlock :=
  { block with more := block.more ++ [line] }

@[simp] theorem kind_grow (block : StatementBlock) (line : Text) :
    (block.grow line).kind = block.kind := by
  rfl

theorem body_grow (block : StatementBlock) (line : Text) :
    (block.grow line).body = block.body ++ [line] := by
  rfl

theorem lines_grow (block : StatementBlock) (line : Text) :
    (block.grow line).lines = block.lines ++ [line] := by
  unfold lines
  rw [body_grow, List.append_assoc]
  rfl

theorem draft_grow (block : StatementBlock) (line : Text) :
    (block.grow line).draft = (block.draft.push line).1 := by
  unfold draft
  rw [kind_grow, body_grow, Draft.pushAll_append]
  rfl

end StatementBlock

/-- The lines after a statement are ones that its ending allows. -/
def Ending.Allows (terminators : List Text) (after : List Text) : Ending → Prop
  | .complete => True
  | .cutOff next =>
      startsStatement terminators next = true ∧
        ∃ line rest, after = line :: rest ∧ next = Text.trim line
  | .endOfDump => after = []

/--
A block gives a statement whose text takes several lines.

No line of the body starts another statement, and the statement is not complete before
the last one; whether it is complete then is what `isTerminated` records.
-/
structure StatementBlock.Collects
    (terminators : List Text) (block : StatementBlock) (after : List Text)
    (statement : Statement) : Prop where
  more_inside : ∀ line ∈ block.more, startsStatement terminators (Text.trim line) = false
  completions_body :
    (Draft.start block.kind).completions block.body =
      List.replicate block.more.length false ++ [statement.isTerminated]
  ending_allows : statement.ending.Allows terminators after

structure StatementBlock.Yields
    (terminators : List Text) (block : StatementBlock) (after : List Text)
    (statement : Statement) : Prop where
  skipped_blank : ∀ line ∈ block.skipped, Text.isBlankText line = true
  first_solid : Text.isBlankText block.first = false
  lineCount_eq : statement.lineCount = block.lines.length
  kind_eq : statement.kind = block.kind
  text_eq : statement.text = Text.trim (Text.joinWith ['\n'] block.body)
  of_other : statement.kind = .other → block.more = [] ∧ statement.isTerminated = true
  of_collected : statement.kind ≠ .other → block.Collects terminators after statement

/-- Blocks in order, with lines left over after them, give these statements. -/
def YieldAll (terminators : List Text) :
    List StatementBlock → List Text → List Statement → Prop
  | [], _, [] => True
  | block :: blocks, rest, statement :: statements =>
      block.Yields terminators (blocks.flatMap StatementBlock.lines ++ rest) statement ∧
        YieldAll terminators blocks rest statements
  | _, _, _ => False

theorem length_of_yieldAll
    {terminators : List Text} {rest : List Text} {blocks : List StatementBlock}
    {statements : List Statement} (h : YieldAll terminators blocks rest statements) :
    blocks.length = statements.length := by
  induction blocks generalizing statements with
  | nil =>
      cases statements with
      | nil => rfl
      | cons statement later => exact h.elim
  | cons block blocks ih =>
      cases statements with
      | nil => exact h.elim
      | cons statement later => exact congrArg Nat.succ (ih h.2)

theorem totalLines_of_yieldAll
    {terminators : List Text} {rest : List Text} {blocks : List StatementBlock}
    {statements : List Statement} (h : YieldAll terminators blocks rest statements) :
    Statement.totalLines statements = (blocks.flatMap StatementBlock.lines).length := by
  induction blocks generalizing statements with
  | nil =>
      cases statements with
      | nil => rfl
      | cons statement later => exact h.elim
  | cons block blocks ih =>
      cases statements with
      | nil => exact h.elim
      | cons statement later =>
          rw [Statement.totalLines, h.1.lineCount_eq, ih h.2, List.flatMap_cons,
            List.length_append]

/-- The lines are the blocks of these statements and blank lines after them. -/
def Partitions (terminators : List Text) (lines : List Text) (statements : List Statement) :
    Prop :=
  ∃ blocks rest, lines = blocks.flatMap StatementBlock.lines ++ rest ∧
    (∀ line ∈ rest, Text.isBlankText line = true) ∧ YieldAll terminators blocks rest statements

namespace Partitions

variable {terminators : List Text}

theorem nil {rest : List Text} (h : ∀ line ∈ rest, Text.isBlankText line = true) :
    Partitions terminators rest [] := by
  exact ⟨[], rest, rfl, h, trivial⟩

theorem cons
    {block : StatementBlock} {later : List Text} {statement : Statement}
    {statements : List Statement}
    (hblock : block.Yields terminators later statement)
    (hlater : Partitions terminators later statements) :
    Partitions terminators (block.lines ++ later) (statement :: statements) := by
  obtain ⟨blocks, rest, rfl, hblank, hall⟩ := hlater
  refine ⟨block :: blocks, rest, ?_, hblank, hblock, hall⟩
  rw [List.flatMap_cons, List.append_assoc]

end Partitions

/-! ## Blocks that are being read -/

/--
The block is what an open statement has taken in, and `complete` tells whether the last
line of the block completed it.
-/
structure StatementBlock.Gathers
    (terminators : List Text) (block : StatementBlock) (complete : Bool) : Prop where
  skipped_blank : ∀ line ∈ block.skipped, Text.isBlankText line = true
  first_solid : Text.isBlankText block.first = false
  kind_ne : block.kind ≠ .other
  more_inside : ∀ line ∈ block.more, startsStatement terminators (Text.trim line) = false
  completions_body :
    (Draft.start block.kind).completions block.body =
      List.replicate block.more.length false ++ [complete]

namespace StatementBlock

variable {terminators : List Text}

/-- The first line of a statement that can take up several lines. -/
theorem gathers_first
    {skipped : List Text} {line : Text}
    (hskipped : ∀ line ∈ skipped, Text.isBlankText line = true)
    (hsolid : Text.isBlankText line = false)
    (hkind : StatementKind.ofLine (Text.trim line) ≠ .other) :
    Gathers terminators ⟨skipped, line, []⟩
      ((Draft.start (StatementKind.ofLine (Text.trim line))).push line).2 where
  skipped_blank := hskipped
  first_solid := hsolid
  kind_ne := hkind
  more_inside := by simp
  completions_body := rfl

theorem Gathers.grow
    {block : StatementBlock} {line : Text} (h : block.Gathers terminators false)
    (hinside : startsStatement terminators (Text.trim line) = false) :
    (block.grow line).Gathers terminators (block.draft.push line).2 where
  skipped_blank := h.skipped_blank
  first_solid := h.first_solid
  kind_ne := h.kind_ne
  more_inside := by
    intro other hmem
    rcases List.mem_append.mp hmem with hold | hnew
    · exact h.more_inside other hold
    · rw [List.mem_singleton.mp hnew]
      exact hinside
  completions_body := by
    have hlength : (block.grow line).more.length = block.more.length + 1 := by
      simp [StatementBlock.grow]
    rw [kind_grow, body_grow, Draft.completions_append, h.completions_body, hlength,
      List.replicate_succ']
    rfl

/-- Finishing a block that was read gives its statement. -/
theorem Gathers.yields_finish
    {block : StatementBlock} {ending : Ending} {after : List Text}
    (h : block.Gathers terminators (ending == .complete))
    (hallows : ending.Allows terminators after) :
    block.Yields terminators after (block.draft.finish block.lines.length ending) where
  skipped_blank := h.skipped_blank
  first_solid := h.first_solid
  lineCount_eq := rfl
  kind_eq := Draft.kind_pushAll _ _
  text_eq := Draft.text_pushAll_start _ _
  of_other := by
    intro hother
    have hkind : block.kind = .other := (Draft.kind_pushAll _ _).symm.trans hother
    exact absurd hkind h.kind_ne
  of_collected := fun _ => ⟨h.more_inside, h.completions_body, hallows⟩

theorem yields_line
    {skipped : List Text} {line : Text} {after : List Text}
    (hskipped : ∀ line ∈ skipped, Text.isBlankText line = true)
    (hsolid : Text.isBlankText line = false)
    (hkind : StatementKind.ofLine (Text.trim line) = .other) :
    Yields terminators ⟨skipped, line, []⟩ after
      ⟨.other, Text.trim line, skipped.length + 1, .complete⟩ where
  skipped_blank := hskipped
  first_solid := hsolid
  lineCount_eq := by simp [lines, body]
  kind_eq := hkind.symm
  text_eq := by simp [body, Text.joinWith]
  of_other := fun _ => ⟨rfl, rfl⟩
  of_collected := fun hne => absurd rfl hne

end StatementBlock

namespace SplitState

variable {terminators : List Text}

/-- The lines read since the last statement, and the state that they lead to. -/
inductive Pending (terminators : List Text) : SplitState → List Text → Prop where
  | idle (done : List Statement) {skipped : List Text}
      (hblank : ∀ line ∈ skipped, Text.isBlankText line = true) :
      Pending terminators ⟨done, none, skipped.length⟩ skipped
  | collecting (done : List Statement) {block : StatementBlock}
      (hgathers : block.Gathers terminators false) :
      Pending terminators ⟨done, some block.draft, block.lines.length⟩ block.lines

/--
What one more line makes of the lines read since the last statement: they are still
pending, or they are a block, whatever lines come after them.
-/
def Advances (terminators : List Text) (done : List Statement) (read : List Text)
    (state : SplitState) : Prop :=
  (Pending terminators state read ∧ state.doneReversed = done) ∨
    ∃ (block : StatementBlock) (statement : Statement),
      read = block.lines ∧ state = ⟨statement :: done, none, 0⟩ ∧
        ∀ after, block.Yields terminators after statement

/-- Once a line is taken into its block, the block is complete or it is still open. -/
theorem advances_of_gathers
    {block : StatementBlock} {complete : Bool} (done : List Statement)
    (h : block.Gathers terminators complete) :
    Advances terminators done block.lines
      (if complete then ⟨block.draft.finish block.lines.length .complete :: done, none, 0⟩
        else ⟨done, some block.draft, block.lines.length⟩) := by
  cases complete with
  | true =>
      exact .inr ⟨block, _, rfl, rfl, fun _ => h.yields_finish trivial⟩
  | false =>
      exact .inl ⟨.collecting done h, rfl⟩

theorem advances_idle
    (done : List Statement) {skipped : List Text} (line : Text)
    (hskipped : ∀ line ∈ skipped, Text.isBlankText line = true) :
    Advances terminators done (skipped ++ [line])
      (step terminators ⟨done, none, skipped.length⟩ line) := by
  have hlength : skipped.length + 1 = (skipped ++ [line]).length := by simp
  rw [step_none, hlength]
  cases hblank : Text.isBlankText line with
  | true =>
      rw [openLine_of_blank done _ hblank]
      refine .inl ⟨.idle done ?_, rfl⟩
      intro other hmem
      rcases List.mem_append.mp hmem with hold | hnew
      · exact hskipped other hold
      · rw [List.mem_singleton.mp hnew]
        exact hblank
  | false =>
      by_cases hother : StatementKind.ofLine (Text.trim line) = .other
      · rw [openLine_of_other done _ hblank hother, ← hlength]
        exact .inr ⟨⟨skipped, line, []⟩, _, rfl, rfl, fun _ =>
          StatementBlock.yields_line hskipped hblank hother⟩
      · rw [openLine_of_ne_other done _ hblank hother, pushLine_eq]
        exact advances_of_gathers done
          (StatementBlock.gathers_first hskipped hblank hother)

theorem advances_inside
    (done : List Statement) {block : StatementBlock} {line : Text}
    (h : block.Gathers terminators false)
    (hinside : startsStatement terminators (Text.trim line) = false) :
    Advances terminators done (block.lines ++ [line])
      (step terminators ⟨done, some block.draft, block.lines.length⟩ line) := by
  have hlength : block.lines.length + 1 = (block.grow line).lines.length := by
    simp [StatementBlock.lines_grow]
  rw [step_of_inside done _ _ hinside, pushLine_eq, hlength, ← StatementBlock.draft_grow,
    ← StatementBlock.lines_grow]
  exact advances_of_gathers done (h.grow hinside)

/-! ## The whole dump -/

/-- From this state on, the remaining lines add statements that partition what is unread. -/
def Completes (terminators : List Text) (done : List Statement) (read remaining : List Text)
    (state : SplitState) : Prop :=
  ∃ statements, (remaining.foldl (step terminators) state).finish = done.reverse ++ statements ∧
    Partitions terminators (read ++ remaining) statements

theorem completes_of_advances
    {done : List Statement} {read remaining : List Text} {state : SplitState}
    (ih : ∀ {state : SplitState} {read : List Text}, Pending terminators state read →
      Completes terminators state.doneReversed read remaining state)
    (h : Advances terminators done read state) :
    Completes terminators done read remaining state := by
  rcases h with ⟨hpending, hdone⟩ | ⟨block, statement, hread, hstate, hyields⟩
  · rw [← hdone]
    exact ih hpending
  · have hidle : Pending terminators state [] := by
      rw [hstate]
      exact @Pending.idle terminators _ [] (by simp)
    obtain ⟨statements, hfinish, hparts⟩ := ih hidle
    refine ⟨statement :: statements, ?_, ?_⟩
    · rw [hfinish, hstate]
      simp
    · rw [hread]
      exact Partitions.cons (hyields _) hparts

theorem completes_of_pending
    {state : SplitState} {read : List Text} (remaining : List Text)
    (h : Pending terminators state read) :
    Completes terminators state.doneReversed read remaining state := by
  induction remaining generalizing state read with
  | nil =>
      cases h with
      | idle done hblank =>
          refine ⟨[], by simp [finish], ?_⟩
          rw [List.append_nil]
          exact Partitions.nil hblank
      | @collecting done block hgathers =>
          refine ⟨[block.draft.finish block.lines.length .endOfDump], by simp [finish], ?_⟩
          exact Partitions.cons (hgathers.yields_finish rfl) (Partitions.nil (by simp))
  | cons line rest ih =>
      -- The idle case comes first, because a cut statement leads back to it.
      have hidle : ∀ (done : List Statement) (skipped : List Text),
          (∀ line ∈ skipped, Text.isBlankText line = true) →
          Completes terminators done (skipped ++ [line]) rest
            (step terminators ⟨done, none, skipped.length⟩ line) := fun done skipped hblank =>
        completes_of_advances (fun hpending => ih hpending) (advances_idle done line hblank)
      cases h with
      | idle done hblank =>
          obtain ⟨statements, hfinish, hparts⟩ := hidle done _ hblank
          refine ⟨statements, hfinish, ?_⟩
          rw [List.append_cons]
          exact hparts
      | @collecting done block hgathers =>
          cases hstarts : startsStatement terminators (Text.trim line) with
          | false =>
              obtain ⟨statements, hfinish, hparts⟩ :=
                completes_of_advances (fun hpending => ih hpending)
                  (advances_inside done hgathers hstarts)
              refine ⟨statements, hfinish, ?_⟩
              rw [List.append_cons]
              exact hparts
          | true =>
              let cut := block.draft.finish block.lines.length (.cutOff (Text.trim line))
              have hcut : block.Yields terminators (line :: rest) cut :=
                StatementBlock.Gathers.yields_finish hgathers ⟨hstarts, line, rest, rfl, rfl⟩
              obtain ⟨statements, hfinish, hparts⟩ := hidle (cut :: done) [] (by simp)
              refine ⟨cut :: statements, ?_, Partitions.cons hcut hparts⟩
              rw [List.foldl_cons, step_of_startsStatement _ _ _ hstarts]
              rw [List.length_nil] at hfinish
              rw [hfinish]
              simp

end SplitState

/--
The lines of a dump are the blocks of its statements, in order, and blank lines after
the last block; so the statements count every line but those.
-/
theorem splitStatements_partition (terminators : List Text) (dump : Text) :
    ∃ blocks rest,
      Text.lines dump = blocks.flatMap StatementBlock.lines ++ rest ∧
      (∀ line ∈ rest, Text.isBlankText line = true) ∧
      YieldAll terminators blocks rest (splitStatements terminators dump) ∧
      blocks.length = (splitStatements terminators dump).length ∧
      Statement.totalLines (splitStatements terminators dump) + rest.length =
        (Text.lines dump).length := by
  have hstart : SplitState.Pending terminators .start [] :=
    @SplitState.Pending.idle terminators [] [] (by simp)
  obtain ⟨statements, hfinish, blocks, rest, hlines, hblank, hyield⟩ :=
    SplitState.completes_of_pending (Text.lines dump) hstart
  have hsplit : splitStatements terminators dump = statements := hfinish
  rw [List.nil_append] at hlines
  rw [hsplit]
  refine ⟨blocks, rest, hlines, hblank, hyield, length_of_yieldAll hyield, ?_⟩
  rw [totalLines_of_yieldAll hyield, hlines, List.length_append]

end DumpConvert
