import DumpConvert.Proofs.Insert.RoundTrip
import DumpConvert.Proofs.Schema.Registry
import DumpConvert.Proofs.Script.Block
import DumpConvert.Script.Conversion

/-!
# What a summary accounts for

Every counter of a summary is determined by the statements that it counts.  A converted
value counts once for what decided about it and at most once for its kind
(`CountsValues`), and the block of a statement counts that statement once
(`balances_ofStatement`).  Both laws add up over concatenation, so the summary of a whole
dump keeps them (`summary_convertDump`).
-/

namespace DumpConvert

/-! ## Flags of a converted value -/

namespace Value

/-- A value that its position made a timestamp is written as one, or as its numeral. -/
theorem isTimestampKind_of_repaired {profile : Profile} {token : Text} {site : Site}
    (h : (convert profile token site).repaired = true) :
    isTimestampKind (convert profile token site).kind = true := by
  unfold convert at h ⊢
  split
  · rename_i hnull
    rw [if_pos hnull] at h
    cases h
  · rename_i hnull
    rw [if_neg hnull] at h
    split
    · rename_i digits hblob
      rw [hblob] at h
      cases h
    · rename_i hblob
      rw [hblob] at h
      dsimp only at h ⊢
      split
      · rename_i rendered hschema
        rw [hschema] at h
        cases h
      · rename_i hschema
        rw [hschema] at h
        unfold withoutSchema at h ⊢
        dsimp only at h ⊢
        split
        · unfold epochOrQuoted
          split <;> rfl
        · rename_i hrepair
          rw [if_neg hrepair] at h
          cases h

/-- Without a column no schema decides. -/
theorem schemaDriven_of_column_eq_none {profile : Profile} {token : Text} {site : Site}
    (h : site.column = none) : (convert profile token site).schemaDriven = false := by
  unfold convert
  rw [h]
  split
  · rfl
  · split
    · rfl
    · simp only [Option.bind_none, withoutSchema]
      split <;> rfl

end Value

/-! ## Counting values -/

/-- The counters account for the values; `registered` tells that tables were registered. -/
structure CountsValues (registered : Bool) (values : List Converted) (counts : Summary) :
    Prop where
  decisions : counts.valuesBySchema + counts.valuesByShape = values.length
  kinds : counts.timestampsConverted + counts.timestampFallbacks + counts.booleansConverted +
    counts.blobsConverted ≤ values.length
  repairs : counts.epochRepairs ≤ counts.timestampsConverted + counts.timestampFallbacks
  fallbacks : counts.schemaFallbacks = if registered then counts.valuesByShape else 0
  schemaless : registered = false → counts.valuesBySchema = 0
  tables : counts.tablesRegistered = 0 ∧ counts.tablesConverted = 0 ∧
    counts.tablesPassedThrough = 0
  inserts : counts.insertsConverted = 0 ∧ counts.insertsPassedThrough = 0 ∧ counts.rows = 0
  others : counts.directivesDropped = 0 ∧ counts.linesPassedThrough = 0

namespace CountsValues

variable {registered : Bool}

theorem zero : CountsValues registered [] .zero := by
  constructor <;> simp [Summary.zero]

theorem append {u v : List Converted} {a b : Summary} (hu : CountsValues registered u a)
    (hv : CountsValues registered v b) : CountsValues registered (u ++ v) (a + b) := by
  have hdecisions := hu.decisions
  have hdecisions' := hv.decisions
  have hkinds := hu.kinds
  have hkinds' := hv.kinds
  have hrepairs := hu.repairs
  have hrepairs' := hv.repairs
  constructor <;> simp only [Summary.add_def, Summary.add, List.length_append]
  · omega
  · omega
  · omega
  · rw [hu.fallbacks, hv.fallbacks]
    split <;> rfl
  · intro hnone
    rw [hu.schemaless hnone, hv.schemaless hnone]
  · simp [hu.tables, hv.tables]
  · simp [hu.inserts, hv.inserts]
  · simp [hu.others, hv.others]

/-- A kind has at most one counter, and a timestamp or its numeral has one of two. -/
theorem exists_ofKind_eq (kind : ValueKind) : ∃ a b c d,
    Summary.ofKind kind =
      { timestampsConverted := a, timestampFallbacks := b, booleansConverted := c
        blobsConverted := d } ∧
    a + b + c + d ≤ 1 ∧ (Value.isTimestampKind kind = true → a + b = 1) := by
  cases kind with
  | timestamp => exact ⟨1, 0, 0, 0, rfl, by decide, fun _ => rfl⟩
  | timestampFallback => exact ⟨0, 1, 0, 0, rfl, by decide, fun _ => rfl⟩
  | boolean => exact ⟨0, 0, 1, 0, rfl, by decide, fun h => by cases h⟩
  | blob => exact ⟨0, 0, 0, 1, rfl, by decide, fun h => by cases h⟩
  | null | json | text | numeric | unchanged =>
      exact ⟨0, 0, 0, 0, rfl, by decide, fun h => by cases h⟩

theorem ofValue {value : Converted}
    (hrepaired : value.repaired = true → Value.isTimestampKind value.kind = true)
    (hdriven : registered = false → value.schemaDriven = false) :
    CountsValues registered [value] (Summary.ofValue registered value) := by
  obtain ⟨a, b, c, d, hkind, hone, htimestamp⟩ := exists_ofKind_eq value.kind
  have hrepair : (if value.repaired = true then 1 else 0) ≤ a + b := by
    split
    · rename_i hset
      exact Nat.le_of_eq (htimestamp (hrepaired hset)).symm
    · exact Nat.zero_le _
  -- Who decided is settled first; the kind and the repair are known by their bounds only.
  cases hdecided : value.schemaDriven with
  | true =>
      cases hregistered : registered with
      | false =>
          rw [hdriven hregistered] at hdecided
          cases hdecided
      | true =>
          constructor <;>
            simp [Summary.ofValue, Summary.ofDecision, Summary.add_def, Summary.add, hkind,
              hdecided, hone, hrepair]
  | false =>
      constructor <;>
        simp [Summary.ofValue, Summary.ofDecision, Summary.add_def, Summary.add, hkind,
          hdecided, hone, hrepair]

/-- Values that keep their flags are accounted for one by one. -/
theorem sum_ofValue {values : List Converted}
    (hrepaired : ∀ value ∈ values,
      value.repaired = true → Value.isTimestampKind value.kind = true)
    (hdriven : ∀ value ∈ values, registered = false → value.schemaDriven = false) :
    CountsValues registered values (Summary.sum (values.map (Summary.ofValue registered))) := by
  induction values with
  | nil => exact zero
  | cons value rest ih =>
      obtain ⟨hvalue, hrest⟩ := List.forall_mem_cons.mp hrepaired
      obtain ⟨hvalue', hrest'⟩ := List.forall_mem_cons.mp hdriven
      rw [List.map_cons, Summary.sum_cons]
      exact (ofValue hvalue hvalue').append (ih hrest hrest')

end CountsValues

namespace Insert

theorem exists_eq_convert_of_mem_convertRows {profile : Profile} {insert : Insert}
    {schema : Option TableSchema} {booleanHint : Bool} {value : Converted}
    (h : value ∈ (insert.convertRows profile schema booleanHint).flatten) :
    ∃ token position,
      value = Value.convert profile token (insert.siteOf schema booleanHint position) := by
  obtain ⟨converted, hconverted, hmem⟩ := List.mem_flatten.mp h
  obtain ⟨row, -, rfl⟩ := List.mem_map.mp hconverted
  rw [convertRowFrom_eq_mapIdx] at hmem
  obtain ⟨position, hposition, rfl⟩ := List.mem_mapIdx.mp hmem
  exact ⟨_, _, rfl⟩

theorem length_flatten_convertRows (profile : Profile) (insert : Insert)
    (schema : Option TableSchema) (booleanHint : Bool) :
    (insert.convertRows profile schema booleanHint).flatten.length =
      insert.rows.flatten.length := by
  unfold convertRows
  induction insert.rows with
  | nil => rfl
  | cons row rest ih =>
      rw [List.map_cons, List.flatten_cons, List.flatten_cons, List.length_append,
        List.length_append, ih, convertRowFrom_eq_mapIdx, List.length_mapIdx]

theorem countsValues_convertRows (profile : Profile) (registry : Option Registry)
    (insert : Insert) (booleanHint : Bool) :
    CountsValues registry.isSome
      (insert.convertRows profile (registry.bind fun tables => tables.get? insert.table)
        booleanHint).flatten
      (Summary.sum ((insert.convertRows profile
        (registry.bind fun tables => tables.get? insert.table) booleanHint).flatten.map
          (Summary.ofValue registry.isSome))) := by
  apply CountsValues.sum_ofValue
  · intro value hmem hrepaired
    obtain ⟨token, position, rfl⟩ := exists_eq_convert_of_mem_convertRows hmem
    exact Value.isTimestampKind_of_repaired hrepaired
  · intro value hmem hnone
    obtain ⟨token, position, rfl⟩ := exists_eq_convert_of_mem_convertRows hmem
    apply Value.schemaDriven_of_column_eq_none
    have hregistry : registry = none := by
      simpa using hnone
    rw [hregistry]
    rfl

end Insert

/-! ## Counting statements -/

namespace Statement

/-- The insertion that a statement is read as; a statement that was cut off is not read. -/
def insertion? (statement : Statement) : Option Insert :=
  if statement.kind = .insert ∧ statement.isTerminated = true then Insert.parse? statement.text
  else none

def rowGroups (statements : List Statement) : List (List Text) :=
  (statements.filterMap insertion?).flatMap Insert.rows

theorem rowGroups_append (first second : List Statement) :
    rowGroups (first ++ second) = rowGroups first ++ rowGroups second := by
  rw [rowGroups, List.filterMap_append, List.flatMap_append]
  rfl

end Statement

open Statement

structure Balances (profile : Profile) (statements : List Statement) (counts : Summary) :
    Prop where
  tables : counts.tablesConverted + counts.tablesPassedThrough =
    statements.countP (fun statement => statement.kind == .createTable)
  tablesRead : counts.tablesConverted = (statements.filterMap Registry.schemaOf?).length
  inserts : counts.insertsConverted + counts.insertsPassedThrough =
    statements.countP (fun statement => statement.kind == .insert)
  insertsRead : counts.insertsConverted = (statements.filterMap insertion?).length
  others : counts.directivesDropped + counts.linesPassedThrough +
      statements.countP (closesDump profile) =
    statements.countP (fun statement => statement.kind == .other)
  rows : counts.rows = (rowGroups statements).length
  values : counts.valuesBySchema + counts.valuesByShape = (rowGroups statements).flatten.length
  kinds : counts.timestampsConverted + counts.timestampFallbacks + counts.booleansConverted +
    counts.blobsConverted ≤ (rowGroups statements).flatten.length
  repairs : counts.epochRepairs ≤ counts.timestampsConverted + counts.timestampFallbacks

structure BlockBalances (profile : Profile) (registered : Bool) (statements : List Statement)
    (counts : Summary) : Prop extends Balances profile statements counts where
  fallbacks : counts.schemaFallbacks = if registered then counts.valuesByShape else 0
  schemaless : registered = false → counts.valuesBySchema = 0
  unregistered : counts.tablesRegistered = 0

namespace BlockBalances

variable {profile : Profile} {registered : Bool}

theorem nil : BlockBalances profile registered [] .zero := by
  constructor
  · constructor <;> simp [Summary.zero, rowGroups]
  all_goals simp [Summary.zero]

theorem append {s t : List Statement} {a b : Summary}
    (hs : BlockBalances profile registered s a) (ht : BlockBalances profile registered t b) :
    BlockBalances profile registered (s ++ t) (a + b) := by
  have hothers := hs.others
  have hothers' := ht.others
  have htables := hs.tables
  have htables' := ht.tables
  have hinserts := hs.inserts
  have hinserts' := ht.inserts
  have hvalues := hs.values
  have hvalues' := ht.values
  have hkinds := hs.kinds
  have hkinds' := ht.kinds
  have hrepairs := hs.repairs
  have hrepairs' := ht.repairs
  refine ⟨?_, ?_, ?_, ?_⟩
  · constructor <;>
      simp only [Summary.add_def, Summary.add, List.countP_append, List.filterMap_append,
        rowGroups_append, List.flatten_append, List.length_append, hs.tablesRead, ht.tablesRead,
        hs.insertsRead, ht.insertsRead, hs.rows, ht.rows] at * <;> omega
  · simp only [Summary.add_def, Summary.add, hs.fallbacks, ht.fallbacks]
    split <;> rfl
  · intro hnone
    simp only [Summary.add_def, Summary.add, hs.schemaless hnone, ht.schemaless hnone]
  · simp only [Summary.add_def, Summary.add, hs.unregistered, ht.unregistered]

end BlockBalances

/-! ## One statement -/

namespace Block

variable {profile : Profile} {registry : Option Registry} {statement : Statement}

/-- A statement that is not read as an insertion has no rows and no values. -/
theorem balances_of_unread {registered : Bool} {a b c d e : Nat}
    (hunread : statement.insertion? = none)
    (htables : a + b = if statement.kind = .createTable then 1 else 0)
    (hread : a = (Registry.schemaOf? statement).toList.length)
    (hinserts : c = if statement.kind = .insert then 1 else 0)
    (hothers : d + e + (if statement.closesDump profile = true then 1 else 0) =
      if statement.kind = .other then 1 else 0) :
    BlockBalances profile registered [statement]
      { tablesConverted := a, tablesPassedThrough := b, insertsPassedThrough := c
        directivesDropped := d, linesPassedThrough := e } := by
  have hgroups : rowGroups [statement] = [] := by
    simp [rowGroups, hunread]
  have hschemas : ([statement].filterMap Registry.schemaOf?).length = a := by
    cases hschema : Registry.schemaOf? statement <;> simp [hread, hschema]
  refine { toBalances := ?_, fallbacks := ?_, schemaless := ?_, unregistered := ?_ }
  · constructor <;>
      simp [List.countP_singleton, hgroups, hschemas, hunread, htables, hinserts, hothers]
  · simp
  · simp
  · simp

theorem balances_of_createTable (h : statement.kind = .createTable) :
    BlockBalances profile registry.isSome [statement]
      (ofStatement profile registry statement).counts := by
  have hunread : statement.insertion? = none := by simp [insertion?, h]
  have hopen : statement.closesDump profile = false := by simp [closesDump, h]
  rw [ofStatement, h]
  dsimp only
  unfold ofCreateTable
  split
  · rename_i table hread
    exact balances_of_unread hunread (by simp [h]) (by simp [Registry.schemaOf?, h, hread])
      (by simp [h]) (by simp [h, hopen])
  · rename_i hread
    exact balances_of_unread hunread (by simp [h]) (by simp [Registry.schemaOf?, h, hread])
      (by simp [h]) (by simp [h, hopen])

theorem balances_of_other (h : statement.kind = .other) :
    BlockBalances profile registry.isSome [statement]
      (ofStatement profile registry statement).counts := by
  have hunread : statement.insertion? = none := by simp [insertion?, h]
  have htable : Registry.schemaOf? statement = none := by simp [Registry.schemaOf?, h]
  rw [ofStatement, h]
  dsimp only
  cases hdropped : profile.isDirective statement.text with
  | true =>
      rw [ofOther_of_isDirective hdropped]
      exact balances_of_unread hunread (by simp [h]) (by simp [htable]) (by simp [h])
        (by simp [closesDump, h, hdropped])
  | false =>
      cases hcommit : profile.isCommit statement.text with
      | true =>
          rw [ofOther_of_isCommit hdropped hcommit]
          exact balances_of_unread hunread (by simp [h]) (by simp [htable]) (by simp [h])
            (by simp [closesDump, h, hdropped, hcommit])
      | false =>
          rw [ofOther_of_passed hdropped hcommit]
          exact balances_of_unread hunread (by simp [h]) (by simp [htable]) (by simp [h])
            (by simp [closesDump, h, hcommit])

/-- The counters of an insertion that is read are those of its values, and its rows. -/
theorem balances_of_read {registered : Bool} {insert : Insert} {rows : List (List Converted)}
    (hread : statement.insertion? = some insert) (hkind : statement.kind = .insert)
    (hrows : rows.length = insert.rows.length)
    (hvalues : rows.flatten.length = insert.rows.flatten.length)
    (hcounts : CountsValues registered rows.flatten
      (Summary.sum (rows.flatten.map (Summary.ofValue registered)))) :
    BlockBalances profile registered [statement] (Summary.ofRows registered rows) := by
  have hgroups : rowGroups [statement] = insert.rows := by
    simp [rowGroups, hread]
  have htable : Registry.schemaOf? statement = none := by
    simp [Registry.schemaOf?, hkind]
  have hopen : statement.closesDump profile = false := by
    simp [closesDump, hkind]
  obtain ⟨hregistered, hconverted, hpassed⟩ := hcounts.tables
  obtain ⟨hinserts, hunread, hrowless⟩ := hcounts.inserts
  obtain ⟨hdropped, hlines⟩ := hcounts.others
  have hdecisions := hcounts.decisions
  have hkinds := hcounts.kinds
  have hrepairs := hcounts.repairs
  rw [hvalues] at hdecisions hkinds
  unfold Summary.ofRows
  generalize Summary.sum (rows.flatten.map (Summary.ofValue registered)) = counts at *
  refine { toBalances := ?_, fallbacks := ?_, schemaless := ?_, unregistered := ?_ }
  · constructor <;>
      simp [Summary.add_def, Summary.add, hgroups, hread, hkind, htable, hopen, hconverted,
        hpassed, hinserts, hunread, hrowless, hdropped, hlines, hrows, hdecisions, hkinds, hrepairs,
        -List.length_flatten]
  · simp [Summary.add_def, Summary.add, hcounts.fallbacks]
  · intro hfalse
    simp [Summary.add_def, Summary.add, hcounts.schemaless hfalse]
  · simp [Summary.add_def, Summary.add, hregistered]

theorem balances_of_insert (h : statement.kind = .insert) :
    BlockBalances profile registry.isSome [statement]
      (ofStatement profile registry statement).counts := by
  have htable : Registry.schemaOf? statement = none := by simp [Registry.schemaOf?, h]
  have hopen : statement.closesDump profile = false := by simp [closesDump, h]
  rw [ofStatement, h]
  dsimp only
  split
  · rename_i hended
    unfold ofInsert
    split
    · rename_i hread
      have hunread : statement.insertion? = none := by simp [insertion?, h, hended, hread]
      exact balances_of_unread hunread (by simp [h]) (by simp [htable]) (by simp [h])
        (by simp [h, hopen])
    · rename_i insert hread
      have hinsertion : statement.insertion? = some insert := by
        simp [insertion?, h, hended, hread]
      exact balances_of_read hinsertion h (List.length_map _)
        (Insert.length_flatten_convertRows profile insert _ _)
        (Insert.countsValues_convertRows profile registry insert _)
  · rename_i hended
    have hunread : statement.insertion? = none := by simp [insertion?, hended]
    exact balances_of_unread hunread (by simp [h]) (by simp [htable]) (by simp [h])
      (by simp [h, hopen])

/-- Every block counts its statement once. -/
theorem balances_ofStatement (profile : Profile) (registry : Option Registry)
    (statement : Statement) :
    BlockBalances profile registry.isSome [statement]
      (ofStatement profile registry statement).counts := by
  cases hkind : statement.kind with
  | createTable => exact balances_of_createTable hkind
  | insert => exact balances_of_insert hkind
  | other => exact balances_of_other hkind

end Block

/-! ## The whole dump -/

namespace Conversion

theorem balances_blocks (profile : Profile) (registry : Option Registry)
    (statements : List Statement) :
    BlockBalances profile registry.isSome statements
      (Summary.sum ((blocks profile registry statements).map (fun part => part.counts))) := by
  induction statements with
  | nil => exact BlockBalances.nil
  | cons statement rest ih =>
      have hfirst := Block.balances_ofStatement profile registry statement
      rw [blocks, List.map_cons, List.map_cons, Summary.sum_cons]
      exact hfirst.append ih

theorem balances_summaryOf (profile : Profile) (registry : Option Registry)
    (statements : List Statement) :
    Balances profile statements (summaryOf registry (blocks profile registry statements)) := by
  have hblocks := (balances_blocks profile registry statements).toBalances
  rw [summaryOf]
  generalize Summary.sum _ = counts at hblocks ⊢
  have htables := hblocks.tables
  have hothers := hblocks.others
  have hinserts := hblocks.inserts
  have hvalues := hblocks.values
  have hkinds := hblocks.kinds
  have hrepairs := hblocks.repairs
  constructor <;>
    simp only [Summary.add_def, Summary.add, hblocks.tablesRead, hblocks.insertsRead,
      hblocks.rows] at * <;> omega

/-- What a registry adds to the counters of the blocks. -/
theorem summaryOf_fields (profile : Profile) (registry : Option Registry)
    (statements : List Statement) :
    let summary := summaryOf registry (blocks profile registry statements)
    summary.tablesRegistered = (registry.map Registry.size).getD 0 ∧
      summary.schemaFallbacks = (if registry.isSome then summary.valuesByShape else 0) ∧
      (registry.isSome = false → summary.valuesBySchema = 0) := by
  intro summary
  have hblocks := balances_blocks profile registry statements
  have hfallbacks := hblocks.fallbacks
  have hschemaless := hblocks.schemaless
  have hunregistered := hblocks.unregistered
  refine ⟨?_, ?_, ?_⟩
  · simp [summary, summaryOf, Summary.add_def, Summary.add, hunregistered]
  · simp [summary, summaryOf, Summary.add_def, Summary.add, hfallbacks]
  · intro hnone
    simp [summary, summaryOf, Summary.add_def, Summary.add, hschemaless hnone]

end Conversion

/--
The summary of a conversion accounts for the statements of the dump.  With the schema mode
it tells how many tables there are by name, and which values no schema decided; with the
heuristic mode no schema decides and no table is registered.
-/
theorem summary_convertDump (profile : Profile) (mode : Mode) (generated : Moment)
    (dump : Text) :
    let statements := splitStatements profile.commitStatements dump
    let summary := (convertDump profile mode generated dump).summary
    Balances profile statements summary ∧
      match mode with
      | .schema =>
          summary.schemaFallbacks = summary.valuesByShape ∧
            summary.tablesRegistered = (Registry.declaredNames statements).dedup.length
      | .heuristic =>
          summary.schemaFallbacks = 0 ∧ summary.valuesBySchema = 0 ∧
            summary.tablesRegistered = 0 := by
  intro statements summary
  refine ⟨Conversion.balances_summaryOf profile _ statements, ?_⟩
  obtain ⟨hregistered, hfallbacks, hschemaless⟩ :=
    Conversion.summaryOf_fields profile (Conversion.registryFor mode statements) statements
  cases mode with
  | schema => exact ⟨hfallbacks, hregistered.trans (Registry.size_build statements)⟩
  | heuristic => exact ⟨hfallbacks, hschemaless rfl, hregistered⟩

end DumpConvert
