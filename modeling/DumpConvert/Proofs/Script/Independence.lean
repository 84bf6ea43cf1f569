import DumpConvert.Profile.Basic
import DumpConvert.Proofs.Script.Block
import DumpConvert.Script.Conversion

/-!
# Statements do not see their neighbours

The registry is made from the table definitions in their order and from nothing else
(`build_congr`).  So two dumps that hold the same statements in another order, with the
table definitions in the same order, have the same registry (`registryFor_congr`), every
statement contributes the same block to both scripts, and the summaries are equal
(`convertDump_reordered`).  An insertion is written in the same way before the definition
of its table and after it.

A script is its heading, the blocks in the order of the statements, and a closing block
if no statement closed the dump (`isScriptOf_ofStatements`).
-/

namespace DumpConvert

/-! ## Reordered statements -/

def isTableOutline (outline : StatementKind × Text × Bool) : Bool :=
  outline.1 == .createTable

/-- The same statements in another order that keeps the order of the table definitions. -/
structure Reordered (first second : List Statement) : Prop where
  perm : (first.map Statement.outline).Perm (second.map Statement.outline)
  tables : (first.map Statement.outline).filter isTableOutline =
    (second.map Statement.outline).filter isTableOutline

namespace Registry

def schemaOfOutline? (outline : StatementKind × Text × Bool) : Option TableSchema :=
  if isTableOutline outline then (CreateTable.parse? outline.2.1).map CreateTable.schema else none

theorem schemaOf?_eq (statement : Statement) :
    schemaOf? statement = schemaOfOutline? statement.outline := by
  cases hkind : statement.kind <;>
    simp [schemaOf?, schemaOfOutline?, isTableOutline, Statement.outline, hkind]

theorem filterMap_schemaOf? (statements : List Statement) :
    statements.filterMap schemaOf? =
      ((statements.map Statement.outline).filter isTableOutline).filterMap schemaOfOutline? := by
  have houtlines : ∀ outlines : List (StatementKind × Text × Bool),
      (outlines.filter isTableOutline).filterMap schemaOfOutline? =
        outlines.filterMap schemaOfOutline? := by
    intro outlines
    induction outlines with
    | nil => rfl
    | cons outline rest ih =>
        cases htable : isTableOutline outline with
        | true => rw [List.filter_cons_of_pos htable, List.filterMap_cons, List.filterMap_cons, ih]
        | false =>
            have hnone : schemaOfOutline? outline = none := by
              simp [schemaOfOutline?, htable]
            rw [List.filter_cons_of_neg (by simp [htable]), List.filterMap_cons, hnone, ih]
  have hpointwise : schemaOf? = schemaOfOutline? ∘ Statement.outline :=
    funext schemaOf?_eq
  rw [houtlines, List.filterMap_map, hpointwise]

theorem build_congr {first second : List Statement}
    (h : (first.map Statement.outline).filter isTableOutline =
      (second.map Statement.outline).filter isTableOutline) :
    build first = build second := by
  rw [build, build, filterMap_schemaOf?, filterMap_schemaOf?, h]

end Registry

namespace Conversion

theorem registryFor_congr (mode : Mode) {first second : List Statement}
    (h : Reordered first second) : registryFor mode first = registryFor mode second := by
  cases mode with
  | schema => exact congrArg some (Registry.build_congr h.tables)
  | heuristic => rfl

/-- The block that a statement contributes to the script of these statements. -/
def blockAmong (profile : Profile) (mode : Mode) (statements : List Statement)
    (statement : Statement) : Block :=
  Block.ofStatement profile (registryFor mode statements) statement

theorem blockAmong_congr (profile : Profile) (mode : Mode) {first second : List Statement}
    (h : Reordered first second) {s t : Statement} (hst : s.outline = t.outline) :
    blockAmong profile mode first s = blockAmong profile mode second t := by
  rw [blockAmong, blockAmong, registryFor_congr mode h]
  exact Block.ofStatement_congr hst profile _

/-! ## Summaries -/

def countsOfOutline (profile : Profile) (registry : Option Registry)
    (outline : StatementKind × Text × Bool) : Summary :=
  (Block.ofStatement profile registry
    ⟨outline.1, outline.2.1, 0, if outline.2.2 then .complete else .endOfDump⟩).counts

theorem counts_blocks (profile : Profile) (registry : Option Registry)
    (statements : List Statement) :
    (blocks profile registry statements).map (fun part => part.counts) =
      (statements.map Statement.outline).map (countsOfOutline profile registry) := by
  rw [blocks, List.map_map, List.map_map]
  refine List.map_congr_left fun statement _ => congrArg Block.counts ?_
  apply Block.ofStatement_congr
  cases hended : statement.isTerminated <;> simp [Statement.outline, hended] <;> rfl

theorem summaryOf_congr (profile : Profile) (registry : Option Registry)
    {first second : List Statement}
    (h : (first.map Statement.outline).Perm (second.map Statement.outline)) :
    summaryOf registry (blocks profile registry first) =
      summaryOf registry (blocks profile registry second) := by
  have hcounts := h.map (countsOfOutline profile registry)
  rw [summaryOf, summaryOf, counts_blocks, counts_blocks, Summary.sum_perm hcounts]

/-! ## Scripts -/

/-- The script is the heading, one block for each statement, and at most one more block. -/
structure IsScriptOf (profile : Profile) (mode : Mode) (generated : Moment)
    (statements : List Statement) (script : Text) : Prop where
  eq_blocks : script = scriptText (headingLines generated ++
    statements.flatMap (fun statement => (blockAmong profile mode statements statement).lines) ++
    if statements.any (Statement.closesDump profile) then [] else Block.closingLines profile)
  dropped : ∀ statement ∈ statements, statement.isDropped profile = true →
    (blockAmong profile mode statements statement).lines = []
  closing : ∀ statement ∈ statements, statement.closesDump profile = true →
    (blockAmong profile mode statements statement).lines = Block.closingLines profile

theorem isCommitted_blocks (profile : Profile) (registry : Option Registry)
    (statements : List Statement) :
    isCommitted (blocks profile registry statements) =
      statements.any (Statement.closesDump profile) := by
  have hcommits : (fun part : Block => part.commits) ∘ Block.ofStatement profile registry =
      Statement.closesDump profile := funext (Block.commits_ofStatement profile registry)
  rw [isCommitted, blocks, List.any_map, hcommits]

theorem scriptLines_blocks (profile : Profile) (generated : Moment) (registry : Option Registry)
    (statements : List Statement) :
    scriptLines profile generated (blocks profile registry statements) =
      headingLines generated ++
        statements.flatMap (fun statement =>
          (Block.ofStatement profile registry statement).lines) ++
        if statements.any (Statement.closesDump profile) then []
        else Block.closingLines profile := by
  rw [scriptLines, isCommitted_blocks, blocks, List.flatMap_map]

theorem isScriptOf_ofStatements (profile : Profile) (mode : Mode) (generated : Moment)
    (statements : List Statement) :
    IsScriptOf profile mode generated statements
      (ofStatements profile mode generated statements).script := by
  exact
    { eq_blocks := congrArg scriptText
        (scriptLines_blocks profile generated (registryFor mode statements) statements)
      dropped := fun statement _ h => Block.lines_of_isDropped h _
      closing := fun statement _ h => Block.lines_of_closesDump h _ }

end Conversion

/--
Every script is its heading and the blocks of its statements, in order.  If two dumps hold
the same statements, and the table definitions in the same order, then their summaries are
equal and each statement has the same block in both scripts, wherever it stands.
-/
theorem convertDump_reordered (profile : Profile) (mode : Mode) (generated : Moment) :
    (∀ dump, Conversion.IsScriptOf profile mode generated
      (splitStatements profile.commitStatements dump)
      (convertDump profile mode generated dump).script) ∧
    ∀ first second,
      Reordered (splitStatements profile.commitStatements first)
        (splitStatements profile.commitStatements second) →
      (convertDump profile mode generated first).summary =
          (convertDump profile mode generated second).summary ∧
        ∀ s ∈ splitStatements profile.commitStatements first,
          ∀ t ∈ splitStatements profile.commitStatements second,
            s.outline = t.outline →
              Conversion.blockAmong profile mode
                  (splitStatements profile.commitStatements first) s =
                Conversion.blockAmong profile mode
                  (splitStatements profile.commitStatements second) t := by
  refine ⟨fun dump => Conversion.isScriptOf_ofStatements profile mode generated _, ?_⟩
  intro first second h
  have hregistry := Conversion.registryFor_congr mode h
  refine ⟨?_, fun s _ t _ hst => Conversion.blockAmong_congr profile mode h hst⟩
  simp only [convertDump, Conversion.ofStatements]
  rw [hregistry]
  exact Conversion.summaryOf_congr profile _ h.perm

/-- An insertion that stands before the definition of its table. -/
theorem convertDump_reordered_insertFirst :
    let terminators := Profile.builtIn.commitStatements
    let first := "CREATE TABLE t(a BOOLEAN);\nINSERT INTO t VALUES(1);\nCOMMIT;".toList
    let second := "INSERT INTO t VALUES(1);\nCOMMIT;\nCREATE TABLE t(a BOOLEAN);".toList
    Reordered (splitStatements terminators first) (splitStatements terminators second) ∧
      (convertDump .builtIn .schema (Moment.ofMillis 0) first).summary =
          (convertDump .builtIn .schema (Moment.ofMillis 0) second).summary ∧
        ∀ s ∈ splitStatements terminators first, ∀ t ∈ splitStatements terminators second,
          s.outline = t.outline →
            Conversion.blockAmong .builtIn .schema (splitStatements terminators first) s =
              Conversion.blockAmong .builtIn .schema (splitStatements terminators second) t := by
  intro terminators first second
  have h : Reordered (splitStatements terminators first) (splitStatements terminators second) :=
    ⟨by decide +kernel, by decide +kernel⟩
  exact ⟨h, (convertDump_reordered .builtIn .schema (Moment.ofMillis 0)).2 first second h⟩

end DumpConvert
