import DumpConvert.Proofs.Schema.Column
import DumpConvert.Proofs.Sql.Quoting
import DumpConvert.Proofs.Text.Bytes
import DumpConvert.Proofs.Text.Slicing

/-!
# Byte offsets of a column definition

A column definition can be read by byte offsets: lengths of trimmed texts are subtracted,
closing quotes and blanks are searched for, and slices are taken at the sums
(`ColumnOffsets.read?`).  A slice fails at an offset that is out of order, beyond the end,
or inside a character.

None of these slices fails.  The offsets are those between the parts of the definition, so
reading a column, listing the columns of a table and mapping a definition by offsets come
to what they come to by parts (`offsets_valid`).
-/

namespace DumpConvert

open Text

/-! ## Taking off quotes -/

namespace Sql.Identifier

def hasEnds (left right : Char) (t : Text) : Bool :=
  decide (2 ≤ (bytes t).length) && (bytes t).head? == some (asciiByte left) &&
    (bytes t).getLast? == some (asciiByte right)

/-- Take off one layer of quoting; the inside is sliced between the outer bytes. -/
def unquoteSliced? (written : Text) : Option Text :=
  let t := trim written
  let inside := slice? t 1 (byteLength t - 1)
  if hasEnds '"' '"' t then inside.map (collapse '"')
  else if hasEnds '\x60' '\x60' t then inside.map (collapse '\x60')
  else if hasEnds '[' ']' t then inside
  else some t

theorem hasEnds_iff {left right : Char} (hleft : left.toNat < 128) (hright : right.toNat < 128)
    (t : Text) : hasEnds left right t = true ↔ ∃ body, t = left :: body ++ [right] := by
  have hsize := utf8Size_of_ascii hleft
  have hends : hasEnds left right t = true ↔
      2 ≤ byteLength t ∧ t.head? = some left ∧ t.getLast? = some right := by
    rw [hasEnds, Bool.and_eq_true, Bool.and_eq_true, decide_eq_true_iff, beq_iff_eq, beq_iff_eq,
      length_bytes, head?_bytes_iff hleft, getLast?_bytes_iff hright, and_assoc]
  rw [hends]
  constructor
  · rintro ⟨htwo, hhead, hlast⟩
    obtain ⟨rest, rfl⟩ := List.head?_eq_some_iff.mp hhead
    rcases List.eq_nil_or_concat rest with rfl | ⟨body, last, rfl⟩
    · rw [byteLength_cons, byteLength_nil, hsize] at htwo
      exact absurd htwo (by decide)
    · rw [List.concat_eq_append, ← List.cons_append, List.getLast?_concat] at hlast
      exact ⟨body, by rw [List.concat_eq_append, Option.some.inj hlast]; rfl⟩
  · rintro ⟨body, rfl⟩
    refine ⟨?_, rfl, List.getLast?_concat⟩
    simp only [List.cons_append, byteLength_append, byteLength_cons, byteLength_nil, hsize,
      utf8Size_of_ascii hright]
    omega

/-- What is enclosed is what is sliced between the outer bytes. -/
theorem slice?_of_enclosed {left right : Char} (hleft : left.toNat < 128)
    (hright : right.toNat < 128) (body : Text) :
    slice? (left :: body ++ [right]) 1 (byteLength (left :: body ++ [right]) - 1) =
      some body := by
  have hslice := slice?_append [left] body [right]
  have hstop : byteLength (left :: body ++ [right]) - 1 = byteLength ([left] ++ body) := by
    simp [byteLength_append, utf8Size_of_ascii hright]
  have hstart : byteLength [left] = 1 := by simp [utf8Size_of_ascii hleft]
  rw [hstop, ← hstart]
  exact hslice

theorem enclosed?_cases (left right : Char) (hleft : left.toNat < 128)
    (hright : right.toNat < 128) (t : Text) :
    (hasEnds left right t = true ∧ ∃ body, enclosed? left right t = some body ∧
        slice? t 1 (byteLength t - 1) = some body) ∨
      hasEnds left right t = false ∧ enclosed? left right t = none := by
  cases hbody : enclosed? left right t with
  | some body =>
      obtain rfl := enclosed?_eq_some_iff.mp hbody
      exact .inl ⟨(hasEnds_iff hleft hright _).mpr ⟨body, rfl⟩, body, rfl,
        slice?_of_enclosed hleft hright body⟩
  | none =>
      refine .inr ⟨Bool.eq_false_iff.mpr fun hends => ?_, rfl⟩
      obtain ⟨body, ht⟩ := (hasEnds_iff hleft hright t).mp hends
      rw [enclosed?_eq_some_iff.mpr ht] at hbody
      cases hbody

theorem unquoteSliced?_eq (written : Text) :
    unquoteSliced? written = some (unquote written) := by
  unfold unquoteSliced? unquote
  generalize trim written = t
  dsimp only
  rcases enclosed?_cases '"' '"' (by decide) (by decide) t with
    ⟨hends, body, hbody, hslice⟩ | ⟨hends, hbody⟩
  · rw [if_pos hends, hbody, hslice, Option.map_some]
  rw [if_neg (by simp [hends]), hbody]
  rcases enclosed?_cases '\x60' '\x60' (by decide) (by decide) t with
    ⟨hends, body, hbody, hslice⟩ | ⟨hends, hbody⟩
  · rw [if_pos hends, hbody, hslice, Option.map_some]
  rw [if_neg (by simp [hends]), hbody]
  rcases enclosed?_cases '[' ']' (by decide) (by decide) t with
    ⟨hends, body, hbody, hslice⟩ | ⟨hends, hbody⟩
  · rw [if_pos hends, hbody, hslice, Option.getD_some]
  · rw [if_neg (by simp [hends]), hbody, Option.getD_none]

end Sql.Identifier

/-! ## Reading by offsets -/

structure ColumnOffsets where
  name : Text
  typeStart : Nat
  typeEnd : Nat
deriving Repr, DecidableEq

def ColumnDefinition.offsets (column : ColumnDefinition) : ColumnOffsets :=
  ⟨column.name, column.typeStart, column.typeEnd⟩

namespace ColumnOffsets

open ColumnDefinition

/-- The bytes of the written name in front: up to its closing character, or to a blank. -/
def nameLength? : Text → Option Nat
  | [] => some 0
  | first :: rest =>
      match closing? first with
      | some close =>
          (sliceFrom? (first :: rest) 1).map (fun inside =>
            ((offsetOf? (· == close) inside).map (· + 2)).getD (byteLength (first :: rest)))
      | none => some ((offsetOf? isBlank (first :: rest)).getD (byteLength (first :: rest)))

/-- The offset of the first blank at which no parenthesis is open. -/
def typeLength? (depth : Int) : Text → Option Nat
  | [] => none
  | c :: rest =>
      if isBlank c ∧ depth ≤ 0 then some 0
      else
        let after := if c = '(' then depth + 1 else if c = ')' then depth - 1 else depth
        (typeLength? after rest).map (c.utf8Size + ·)

def nameAt? (definition : Text) : Option (Text × Nat) := do
  let start := byteLength definition - byteLength (trimStart definition)
  let named ← sliceFrom? definition start
  let nameLength ← nameLength? named
  let written ← slice? named 0 nameLength
  pure (written, start + nameLength)

def typeRange? (definition : Text) (nameEnd : Nat) : Option (Nat × Nat) := do
  let behind ← sliceFrom? definition nameEnd
  let typeStart := nameEnd + (byteLength behind - byteLength (trimStart behind))
  let typed ← sliceFrom? definition typeStart
  let typeEnd := ((typeLength? 0 typed).map (typeStart + ·)).getD (byteLength definition)
  pure (typeStart, typeEnd)

/-- Read a column by offsets; where a slice does not exist, there is no answer. -/
def read? (definition : Text) : Option (Option ColumnOffsets) := do
  let (written, nameEnd) ← nameAt? definition
  let name ← Sql.Identifier.unquoteSliced? written
  if name.isEmpty then pure none
  else
    let (typeStart, typeEnd) ← typeRange? definition nameEnd
    pure (some ⟨name, typeStart, typeEnd⟩)

def columnsFrom? (position : Nat) : List Text → Option (List Column)
  | [] => some []
  | definition :: rest =>
      if isConstraint definition then columnsFrom? position rest
      else do
        match ← read? definition with
        | none => columnsFrom? position rest
        | some found =>
            let declaredType ← slice? definition found.typeStart found.typeEnd
            let later ← columnsFrom? (position + 1) rest
            pure (⟨found.name, declaredType, position⟩ :: later)

def schema? (table : CreateTable) : Option TableSchema :=
  (columnsFrom? 0 table.definitions).map (fun columns => ⟨table.tableName, columns⟩)

def cutKeyword? (declared : Text) : Option (Text × Text) :=
  match offsetOf? (· == '(') declared with
  | some offset => splitAtByte? offset declared
  | none => some (declared, [])

/-- Exchange the type keyword of a definition between slices of it. -/
def map? (profile : Profile) (definition : Text) : Option Text :=
  if isConstraint definition then some definition
  else do
    match ← read? definition with
    | none => pure definition
    | some found =>
        if found.typeStart = found.typeEnd then pure definition
        else
          let declared ← slice? definition found.typeStart found.typeEnd
          let (keyword, suffix) ← cutKeyword? declared
          let front ← slice? definition 0 found.typeStart
          let back ← sliceFrom? definition found.typeEnd
          pure (front ++ profile.mapType keyword ++ suffix ++ back)

/-! ## The searches find the seams -/

theorem getD_offsetOf? (p : Char → Bool) (t : Text) :
    (offsetOf? p t).getD (byteLength t) = byteLength (t.takeWhile (fun c => !p c)) := by
  rw [offsetOf?_eq]
  split
  · rename_i hall
    have hwhole : t.takeWhile (fun c => !p c) = t :=
      List.takeWhile_eq_self_iff.mpr (List.all_eq_true.mp hall)
    rw [hwhole, Option.getD_none]
  · rfl

theorem cutAfter_of_not_mem {c : Char} {t : Text} (h : c ∉ t) : cutAfter c t = (t, []) := by
  induction t with
  | nil => rfl
  | cons d rest ih =>
      obtain ⟨hd, hrest⟩ := not_or.mp (mt List.mem_cons.mpr h)
      rw [cutAfter, if_neg (Ne.symm hd), ih hrest]

theorem toNat_lt_of_closing? {left close : Char} (h : closing? left = some close) :
    left.toNat < 128 ∧ close.toNat < 128 := by
  rcases cases_of_closing? h with ⟨rfl, rfl⟩ | ⟨rfl, rfl⟩ | ⟨rfl, rfl⟩ <;> decide

theorem offsetOf?_closing {close : Char} {body : Text} (h : close ∉ body) (after : Text) :
    offsetOf? (· == close) (body ++ close :: after) = some (byteLength body) := by
  have hbody : ∀ c ∈ body, (!(c == close)) = true := by
    intro c hc
    have hne : c ≠ close := fun heq => h (heq ▸ hc)
    simpa using hne
  have htaken : (body ++ close :: after).takeWhile (fun c => !(c == close)) = body := by
    rw [List.takeWhile_append_of_pos hbody]
    simp
  rw [offsetOf?_eq, if_neg (by simp), htaken]

theorem offsetOf?_of_not_mem {close : Char} {t : Text} (h : close ∉ t) :
    offsetOf? (· == close) t = none := by
  have hall : t.all (fun c => !(c == close)) = true := by
    refine List.all_eq_true.mpr fun c hc => ?_
    have hne : c ≠ close := fun heq => h (heq ▸ hc)
    simpa using hne
  rw [offsetOf?_eq, if_pos hall]

theorem nameLength?_eq (t : Text) : nameLength? t = some (byteLength (cutName t).1) := by
  cases t with
  | nil => rfl
  | cons first rest =>
      cases hclosing : closing? first with
      | none =>
          simp only [nameLength?, cutName, hclosing, getD_offsetOf?]
      | some close =>
          obtain ⟨hfirst, hclose⟩ := toNat_lt_of_closing? hclosing
          have hsize := utf8Size_of_ascii hfirst
          have hinside : sliceFrom? (first :: rest) 1 = some rest := by
            have hslice := sliceFrom?_append [first] rest
            rw [byteLength_cons, byteLength_nil, hsize] at hslice
            exact hslice
          simp only [nameLength?, cutName, hclosing, hinside, Option.map_some]
          by_cases hmem : close ∈ rest
          · obtain ⟨body, after, rfl, hbody⟩ := List.eq_append_cons_of_mem hmem
            rw [offsetOf?_closing hbody, cutAfter_append_of_not_mem hbody]
            simp only [Option.map_some, Option.getD_some, byteLength_cons, byteLength_append,
              byteLength_nil, hsize, utf8Size_of_ascii hclose]
            congr 1
            omega
          · rw [offsetOf?_of_not_mem hmem, cutAfter_of_not_mem hmem]
            rfl

theorem getD_typeLength? (depth : Int) (t : Text) :
    (typeLength? depth t).getD (byteLength t) = byteLength (cutType depth t).1 := by
  induction t generalizing depth with
  | nil => rfl
  | cons c rest ih =>
      unfold typeLength? cutType
      split
      · rfl
      · dsimp only
        rw [byteLength_cons, byteLength_cons, ← ih]
        cases typeLength? (if c = '(' then depth + 1 else if c = ')' then depth - 1 else depth)
          rest <;> rfl

/-! ## No slice fails -/

theorem nameAt?_append {lead named : Text} (h : trimStart (lead ++ named) = named) :
    nameAt? (lead ++ named) =
      some ((cutName named).1, byteLength (lead ++ (cutName named).1)) := by
  have hstart : byteLength (lead ++ named) - byteLength named = byteLength lead := by
    rw [byteLength_append, Nat.add_sub_cancel]
  have hwritten := slice?_front (cutName named).1 (cutName named).2
  rw [cutName_append] at hwritten
  simp only [nameAt?, h, hstart, sliceFrom?_append, nameLength?_eq, hwritten,
    Option.bind_eq_bind, Option.bind_some]
  rw [byteLength_append]
  rfl

theorem typeRange?_append (front : Text) {gap typed : Text}
    (h : trimStart (gap ++ typed) = typed) :
    typeRange? (front ++ gap ++ typed) (byteLength front) =
      some (byteLength (front ++ gap), byteLength (front ++ gap ++ (cutType 0 typed).1)) := by
  have hbehind : sliceFrom? (front ++ gap ++ typed) (byteLength front) = some (gap ++ typed) := by
    rw [List.append_assoc]
    exact sliceFrom?_append front (gap ++ typed)
  have hstart : byteLength front + (byteLength (gap ++ typed) - byteLength typed) =
      byteLength (front ++ gap) := by
    rw [byteLength_append, byteLength_append, Nat.add_sub_cancel]
  have hstop : ((typeLength? 0 typed).map (byteLength (front ++ gap) + ·)).getD
      (byteLength (front ++ gap ++ typed)) = byteLength (front ++ gap ++ (cutType 0 typed).1) := by
    rw [byteLength_append _ typed, byteLength_append _ (cutType 0 typed).1, ← getD_typeLength?]
    cases typeLength? 0 typed <;> rfl
  simp only [typeRange?, hbehind, h, hstart, sliceFrom?_append, hstop, Option.bind_eq_bind,
    Option.bind_some]
  rfl

/-- Reading by offsets gives the offsets between the parts. -/
theorem read?_eq (definition : Text) :
    read? definition = some ((parse? definition).map ColumnDefinition.offsets) := by
  have hlead := takeWhile_append_trimStart definition
  have hname := cutName_append (trimStart definition)
  have hgap := takeWhile_append_trimStart (cutName (trimStart definition)).2
  have hnameAt : nameAt? definition = some ((cut definition).writtenName,
      byteLength ((cut definition).lead ++ (cut definition).writtenName)) := by
    conv_lhs => rw [← hlead]
    exact nameAt?_append (congrArg trimStart hlead)
  have hrange : typeRange? definition
      (byteLength ((cut definition).lead ++ (cut definition).writtenName)) =
        some ((cut definition).typeStart, (cut definition).typeEnd) := by
    have hparts : (cut definition).lead ++ (cut definition).writtenName ++
        (cutName (trimStart definition)).2.takeWhile isBlank ++
          trimStart (cutName (trimStart definition)).2 = definition := by
      simp only [cut, List.append_assoc]
      rw [hgap, hname, hlead]
    have hends := typeRange?_append ((cut definition).lead ++ (cut definition).writtenName)
      (congrArg trimStart hgap)
    rw [byteLength_append _ (cutType 0 _).1] at hends
    rw [hparts] at hends
    exact hends
  have hunquoted : Sql.Identifier.unquoteSliced? (cut definition).writtenName =
      some (cut definition).name :=
    Sql.Identifier.unquoteSliced?_eq _
  simp only [read?, hnameAt, hrange, hunquoted, Option.bind_eq_bind, Option.bind_some, parse?]
  split <;> rfl

/-- The slice between the offsets of a column is its type. -/
theorem slice?_source (column : ColumnDefinition) :
    slice? column.source column.typeStart column.typeEnd = some column.declaredType := by
  have hslice := slice?_append column.front column.declaredType column.rest
  rw [byteLength_append] at hslice
  exact hslice

theorem sliceFrom?_source (column : ColumnDefinition) :
    sliceFrom? column.source column.typeEnd = some column.rest := by
  have hslice := sliceFrom?_append (column.front ++ column.declaredType) column.rest
  rw [byteLength_append] at hslice
  exact hslice

/-- The columns that are sliced out of definitions are their columns. -/
theorem columnsFrom?_eq (position : Nat) (definitions : List Text) :
    columnsFrom? position definitions = some (CreateTable.columnsFrom position definitions) := by
  induction definitions generalizing position with
  | nil => rfl
  | cons definition rest ih =>
      unfold columnsFrom? CreateTable.columnsFrom
      split
      · exact ih position
      · rw [read?_eq]
        cases hparse : parse? definition with
        | none => exact ih position
        | some column =>
            have hslice := slice?_source column
            rw [source_of_parse? hparse] at hslice
            have hfound : slice? definition column.offsets.typeStart column.offsets.typeEnd =
                some column.declaredType := hslice
            simp only [Option.map_some, Option.bind_eq_bind, Option.bind_some, hfound, ih]
            rfl

theorem schema?_eq (table : CreateTable) : schema? table = some table.schema := by
  rw [schema?, columnsFrom?_eq]
  rfl

theorem cutKeyword?_eq (column : ColumnDefinition) :
    cutKeyword? column.declaredType = some (column.typeKeyword, column.typeSuffix) := by
  have hseam : column.typeKeyword ++ column.typeSuffix = column.declaredType :=
    List.takeWhile_append_dropWhile
  have hkeyword : '(' ∉ column.typeKeyword := fun hmem => by
    simpa using List.mem_takeWhile_imp hmem
  unfold cutKeyword?
  cases hsuffix : column.typeSuffix with
  | nil =>
      rw [hsuffix, List.append_nil] at hseam
      rw [← hseam, offsetOf?_of_not_mem hkeyword]
  | cons c rest =>
      have hhead : c ∈ (column.declaredType.dropWhile (· ≠ '(')).head? := by
        unfold typeSuffix at hsuffix
        rw [hsuffix]
        rfl
      obtain rfl : c = '(' := by simpa using mem_head?_dropWhile hhead
      rw [hsuffix] at hseam
      rw [← hseam, offsetOf?_closing hkeyword]
      exact splitAtByte?_append column.typeKeyword ('(' :: rest)

/-- Exchanging a type keyword between slices is exchanging it between the parts. -/
theorem map?_eq (profile : Profile) (definition : Text) :
    map? profile definition = some (mapDefinition profile definition) := by
  unfold map? mapDefinition
  split
  · rfl
  · rw [read?_eq]
    cases hparse : parse? definition with
    | none => rfl
    | some column =>
        obtain rfl := source_of_parse? hparse
        have hbounds : column.offsets.typeStart = column.offsets.typeEnd ↔
            column.declaredType.isEmpty = true := by
          rw [List.isEmpty_iff, ← byteLength_eq_zero_iff]
          show column.typeStart = column.typeStart + byteLength column.declaredType ↔ _
          omega
        have hdeclared : slice? column.source column.offsets.typeStart column.offsets.typeEnd =
            some column.declaredType := slice?_source column
        have hfront : slice? column.source 0 column.offsets.typeStart = some column.front := by
          have hslice := slice?_front column.front (column.declaredType ++ column.rest)
          rw [← List.append_assoc] at hslice
          exact hslice
        have hback : sliceFrom? column.source column.offsets.typeEnd = some column.rest :=
          sliceFrom?_source column
        simp only [Option.map_some, Option.bind_eq_bind, Option.bind_some, hbounds, hdeclared,
          cutKeyword?_eq, hfront, hback]
        split
        · rfl
        · rw [source_withTarget, back]
          simp

/-! ## Where the offsets lie -/

/-- The text is a written name as a whole: one that ends, or a quoted one that is never closed. -/
inductive IsWholeName : Text → Text → Prop where
  | ended {name rest : Text} (hname : EndsName name rest) : IsWholeName name rest
  | unclosed {left close : Char} {body : Text} (hclosing : closing? left = some close)
      (hbody : close ∉ body) : IsWholeName (left :: body) []

/-- A blank of the text stands where more parentheses have been opened than closed. -/
def BlanksAreNested (declaredType : Text) : Prop :=
  ∀ before c after, declaredType = before ++ c :: after → isBlank c = true →
    before.count ')' < before.count '('

structure IsValid (definition : Text) (found : ColumnOffsets) : Prop where
  ordered : found.typeStart ≤ found.typeEnd
  inside : found.typeEnd ≤ byteLength definition
  start_boundary : IsBoundary definition found.typeStart
  end_boundary : IsBoundary definition found.typeEnd
  /-- Blanks, a whole name and all blanks behind it stand before the type. -/
  front : ∃ lead name gap behind, definition = lead ++ name ++ gap ++ behind ∧
    byteLength (lead ++ name ++ gap) = found.typeStart ∧
    (∀ c ∈ lead, isBlank c = true) ∧ IsWholeName name (gap ++ behind) ∧
    (∀ c ∈ gap, isBlank c = true) ∧ (∀ c ∈ behind.head?, isBlank c = false) ∧
    found.name = Sql.Identifier.unquote name
  type : ∃ declaredType, slice? definition found.typeStart found.typeEnd = some declaredType ∧
    BlanksAreNested declaredType
  stop : found.typeEnd = byteLength definition ∨
    ∃ c rest, sliceFrom? definition found.typeEnd = some (c :: rest) ∧ isBlank c = true

theorem isWholeName_cutName {t : Text} (hne : t ≠ [])
    (hstart : ∀ c ∈ t.head?, isBlank c = false) : IsWholeName (cutName t).1 (cutName t).2 := by
  by_cases hrest : (cutName t).2 = []
  · obtain ⟨first, more, rfl⟩ := List.exists_cons_of_ne_nil hne
    have hwhole : (cutName (first :: more)).1 = first :: more := by
      have happend := cutName_append (first :: more)
      rw [hrest, List.append_nil] at happend
      exact happend
    cases hclosing : closing? first with
    | none =>
        rw [hrest, hwhole]
        simp only [cutName, hclosing] at hwhole
        refine .ended (.bare hclosing (fun c hc => ?_) fun c hc => (Option.not_mem_none c hc).elim)
        simpa using List.takeWhile_eq_self_iff.mp hwhole c hc
    | some close =>
        by_cases hmem : close ∈ more
        · obtain ⟨body, after, rfl, hbody⟩ := List.eq_append_cons_of_mem hmem
          simp only [cutName, hclosing, cutAfter_append_of_not_mem hbody]
          exact .ended (.quoted after hclosing hbody)
        · rw [hrest, hwhole]
          exact .unclosed hclosing hmem
  · exact .ended (endsName_of_cutName hstart hrest)

/-- The type goes over a blank only where the parentheses before it leave a depth. -/
theorem depth_pos_of_blank {depth : Int} {t before after : Text} {c : Char}
    (h : (cutType depth t).1 = before ++ c :: after) (hc : isBlank c = true) :
    0 < depth + before.count '(' - before.count ')' := by
  -- The first character moves from the counts into the depth at which the rest is cut.
  induction before generalizing depth t with
  | nil =>
      cases t with
      | nil => cases h
      | cons d rest =>
          unfold cutType at h
          split at h
          · cases h
          · rename_i hstop
            obtain ⟨rfl, -⟩ := List.cons.inj h
            simpa [hc] using hstop
  | cons b before ih =>
      cases t with
      | nil => cases h
      | cons d rest =>
          unfold cutType at h
          split at h
          · cases h
          · obtain ⟨rfl, hrest⟩ := List.cons.inj h
            have hpos := ih hrest
            by_cases hopen : d = '('
            · subst hopen
              simp at hpos ⊢
              omega
            · by_cases hclose : d = ')'
              · subst hclose
                simp at hpos ⊢
                omega
              · simpa [hopen, hclose, Ne.symm hopen, Ne.symm hclose] using hpos

theorem blanksAreNested_cut (definition : Text) :
    BlanksAreNested (cut definition).declaredType := by
  intro before c after htype hc
  have hpos : 0 < (0 : Int) + before.count '(' - before.count ')' := depth_pos_of_blank htype hc
  omega

theorem isValid_of_parse? {definition : Text} {column : ColumnDefinition}
    (h : parse? definition = some column) : IsValid definition column.offsets := by
  obtain ⟨hname, rfl⟩ := parse?_eq_some_iff.mp h
  have hsource := source_cut definition
  have hslice := slice?_source (cut definition)
  have hbehind := sliceFrom?_source (cut definition)
  have htyped : (cut definition).declaredType ++ (cut definition).rest =
      trimStart (cutName (trimStart definition)).2 := cutType_append 0 _
  have htrimmed : trimStart definition ≠ [] := by
    intro hnil
    have hcut : (cut definition).name =
        Sql.Identifier.unquote (cutName (trimStart definition)).1 := rfl
    rw [hnil] at hcut
    exact hname hcut
  rw [hsource] at hslice hbehind
  obtain ⟨hordered, hstart, hend⟩ := slice?_isSome_iff.mp (Option.isSome_of_mem hslice)
  refine
    { ordered := hordered
      inside := hend.le_byteLength
      start_boundary := hstart
      end_boundary := hend
      front := ⟨(cut definition).lead, (cut definition).writtenName, (cut definition).gap,
        (cut definition).declaredType ++ (cut definition).rest, ?_, rfl, all_lead definition, ?_,
        all_gap definition, ?_, rfl⟩
      type := ⟨_, hslice, blanksAreNested_cut definition⟩
      stop := ?_ }
  · rw [← List.append_assoc]
    exact hsource.symm
  · rw [gap_append_declaredType]
    exact isWholeName_cutName htrimmed fun c hc => mem_head?_dropWhile hc
  · rw [htyped]
    exact fun c hc => mem_head?_dropWhile hc
  · cases hrest : (cut definition).rest with
    | nil =>
        have hend : byteLength (cut definition).source = (cut definition).typeEnd := by
          rw [ColumnDefinition.source, hrest, List.append_nil, byteLength_append]
          rfl
        rw [hsource] at hend
        exact .inl hend.symm
    | cons c more =>
        have hblank : isBlank c = true := head?_rest_cutType 0 _ c (by
          change c ∈ (cut definition).rest.head?
          rw [hrest]
          rfl)
        rw [hrest] at hbehind
        exact .inr ⟨c, more, hbehind, hblank⟩

/--
The offsets of a column are valid, and no slice fails at them.

Each reading by offsets has an answer, and it is the one that reading by parts has.
-/
theorem offsets_valid (definition : Text) :
    (∀ column, parse? definition = some column → IsValid definition column.offsets) ∧
      read? definition = some ((parse? definition).map ColumnDefinition.offsets) ∧
      (∀ profile, map? profile definition = some (mapDefinition profile definition)) ∧
      ∀ table : CreateTable, schema? table = some table.schema := by
  exact ⟨fun _ h => isValid_of_parse? h, read?_eq definition,
    fun profile => map?_eq profile definition, schema?_eq⟩

/-- A wide blank, a name of wide characters, no blank before the type, and one inside it. -/
theorem offsets_valid_glued :
    IsValid "\u3000\"größe\"dec(10, 2) NOT NULL".toList ⟨"größe".toList, 12, 22⟩ := by
  exact (offsets_valid _).1
    ⟨['\u3000'], "\"größe\"".toList, [], "dec(10, 2)".toList, " NOT NULL".toList⟩
    (by decide +kernel)

end ColumnOffsets

end DumpConvert
