import DumpConvert.Proofs.Statement.Partition
import DumpConvert.Proofs.Text.Lines

/-!
# The kind of a statement

A statement is of the kind that its first line is of.  Blanks separate words, so the words
of joined lines are the words of the lines (`words_joinWith`), and the two words that tell
the kind stand on the first line.  So the text of a statement tells its kind
(`ofLine_text_of_mem_splitStatements`), and no table definition or insertion has the text
of a line of another kind.
-/

namespace DumpConvert

namespace Text

/-! ## Words -/

theorem words_append_of_isBlank {c : Char} (h : isBlank c = true) (s t : Text) :
    words (s ++ c :: t) = words s ++ words t := by
  rw [words, pieces_append_of_separates h, List.filter_append]
  rfl

theorem words_cons_of_isBlank {c : Char} (h : isBlank c = true) (t : Text) :
    words (c :: t) = words t := by
  exact words_append_of_isBlank h [] t

theorem words_append_of_blank_left {lead : Text} (h : ∀ c ∈ lead, isBlank c = true) (t : Text) :
    words (lead ++ t) = words t := by
  induction lead with
  | nil => rfl
  | cons c rest ih =>
      obtain ⟨hc, hrest⟩ := List.forall_mem_cons.mp h
      rw [List.cons_append, words_cons_of_isBlank hc, ih hrest]

theorem words_append_of_blank_right {tail : Text} (h : ∀ c ∈ tail, isBlank c = true) (t : Text) :
    words (t ++ tail) = words t := by
  cases tail with
  | nil => rw [List.append_nil]
  | cons c rest =>
      obtain ⟨hc, hrest⟩ := List.forall_mem_cons.mp h
      have hnone : words rest = [] := by
        have hlead := words_append_of_blank_left hrest []
        rwa [List.append_nil] at hlead
      rw [words_append_of_isBlank hc, hnone, List.append_nil]

theorem words_trim (t : Text) : words (trim t) = words t := by
  obtain ⟨lead, tail, heq, hlead, htail⟩ := exists_eq_append_trim t
  have hwhole : words t = words (lead ++ trim t ++ tail) := congrArg words heq
  rw [hwhole, words_append_of_blank_right htail, words_append_of_blank_left hlead]

theorem words_joinWith {separator : Char} (h : isBlank separator = true) (ts : List Text) :
    words (joinWith [separator] ts) = ts.flatMap words := by
  induction ts with
  | nil => rfl
  | cons t rest ih =>
      cases rest with
      | nil => rw [joinWith_singleton, List.flatMap_cons, List.flatMap_nil, List.append_nil]
      | cons next later =>
          rw [joinWith_cons_of_ne_nil _ _ (List.cons_ne_nil next later), List.append_assoc,
            List.singleton_append, words_append_of_isBlank h, ih]
          rfl

end Text

namespace StatementKind

/-! ## The words that tell the kind -/

theorem startsWithWords_congr {s t : Text} {expected : List Text}
    (h : (Text.words s).take expected.length = (Text.words t).take expected.length) :
    startsWithWords expected s = startsWithWords expected t := by
  rw [startsWithWords, startsWithWords, h]

/-- Two words decide. -/
theorem ofLine_congr {s t : Text} (h : (Text.words s).take 2 = (Text.words t).take 2) :
    ofLine s = ofLine t := by
  have htable : startsWithWords ["CREATE".toList, "TABLE".toList] s =
      startsWithWords ["CREATE".toList, "TABLE".toList] t := startsWithWords_congr h
  have hinsert : startsWithWords ["INSERT".toList, "INTO".toList] s =
      startsWithWords ["INSERT".toList, "INTO".toList] t := startsWithWords_congr h
  rw [ofLine, ofLine, htable, hinsert]

theorem length_le_of_startsWithWords {expected : List Text} {t : Text}
    (h : startsWithWords expected t = true) : expected.length ≤ (Text.words t).length := by
  have htaken : ((Text.words t).take expected.length).map Text.asciiUpper = expected :=
    eq_of_beq h
  have hlength := congrArg List.length htaken
  rw [List.length_map, List.length_take] at hlength
  omega

theorem two_le_of_ofLine_ne_other {t : Text} (h : ofLine t ≠ .other) :
    2 ≤ (Text.words t).length := by
  unfold ofLine at h
  split at h
  · rename_i htable
    exact length_le_of_startsWithWords htable
  · split at h
    · rename_i hinsert
      exact length_le_of_startsWithWords hinsert
    · exact absurd rfl h

end StatementKind

/-! ## The text of a statement -/

theorem exists_yields_of_yieldAll {terminators : List Text} {rest : List Text}
    {blocks : List StatementBlock} {statements : List Statement}
    (h : YieldAll terminators blocks rest statements) {statement : Statement}
    (hmem : statement ∈ statements) :
    ∃ (block : StatementBlock) (after : List Text), block.Yields terminators after statement := by
  induction blocks generalizing statements with
  | nil =>
      cases statements with
      | nil => cases hmem
      | cons first later => exact h.elim
  | cons block blocks ih =>
      cases statements with
      | nil => exact h.elim
      | cons first later =>
          rcases List.mem_cons.mp hmem with rfl | hlater
          · exact ⟨block, _, h.1⟩
          · exact ih h.2 hlater

theorem StatementBlock.Yields.ofLine_text {terminators after : List Text} {block : StatementBlock}
    {statement : Statement} (h : block.Yields terminators after statement) :
    StatementKind.ofLine statement.text = statement.kind := by
  have hwords : Text.words statement.text =
      Text.words block.first ++ block.more.flatMap Text.words := by
    rw [h.text_eq, Text.words_trim, Text.words_joinWith (by decide), StatementBlock.body,
      List.flatMap_cons]
  have hfirst : Text.words (Text.trim block.first) = Text.words block.first :=
    Text.words_trim block.first
  rw [h.kind_eq, StatementBlock.kind]
  apply StatementKind.ofLine_congr
  rw [hwords, hfirst]
  -- Either the statement is its first line, or that line holds the two words.
  by_cases hother : statement.kind = .other
  · rw [(h.of_other hother).1, List.flatMap_nil, List.append_nil]
  · rw [h.kind_eq, StatementBlock.kind] at hother
    have htwo := StatementKind.two_le_of_ofLine_ne_other hother
    rw [hfirst] at htwo
    exact List.take_append_of_le_length htwo

theorem ofLine_text_of_mem_splitStatements {terminators : List Text} {dump : Text}
    {statement : Statement} (h : statement ∈ splitStatements terminators dump) :
    StatementKind.ofLine statement.text = statement.kind := by
  have hstart : SplitState.Pending terminators .start [] :=
    @SplitState.Pending.idle terminators [] [] (by simp)
  obtain ⟨statements, hfinish, blocks, rest, -, -, hyield⟩ :=
    SplitState.completes_of_pending (Text.lines dump) hstart
  have hsplit : splitStatements terminators dump = statements := hfinish
  rw [hsplit] at h
  obtain ⟨block, after, hblock⟩ := exists_yields_of_yieldAll hyield h
  exact hblock.ofLine_text

end DumpConvert
