import DumpConvert.Proofs.Schema.QuotedColumn

/-!
# Columns named as the script names them

A column is written with its name between double quotes, those inside it doubled, then a
space, a type and anything else (`NamedColumn`).  The type is a keyword with a suffix in
parentheses or without one, and blanks inside the parentheses do not end it
(`cutType_type`).

The name is read up to the first double quote, doubled or not.  So the column is read back,
registered and mapped under its name exactly if the name holds no double quote
(`isReadBack_iff_not_mem`).
-/

namespace DumpConvert

open Sql ColumnDefinition

/-! ## Balanced parentheses -/

inductive IsBalanced : Text → Prop where
  | nil : IsBalanced []
  | plain {c : Char} {rest : Text} (hleft : c ≠ '(') (hright : c ≠ ')')
      (hrest : IsBalanced rest) : IsBalanced (c :: rest)
  | nested {inner rest : Text} (hinner : IsBalanced inner) (hrest : IsBalanced rest) :
      IsBalanced ('(' :: (inner ++ ')' :: rest))

theorem cutType_left (depth : Int) (t : Text) :
    cutType depth ('(' :: t) = ('(' :: (cutType (depth + 1) t).1, (cutType (depth + 1) t).2) := by
  have hsolid : Text.isBlank '(' = false := by decide
  simp [cutType, hsolid]

theorem cutType_right (depth : Int) (t : Text) :
    cutType depth (')' :: t) = (')' :: (cutType (depth - 1) t).1, (cutType (depth - 1) t).2) := by
  have hsolid : Text.isBlank ')' = false := by decide
  simp [cutType, hsolid]

theorem cutType_plain {c : Char} {depth : Int} (hdepth : 0 < depth) (hleft : c ≠ '(')
    (hright : c ≠ ')') (t : Text) :
    cutType depth (c :: t) = (c :: (cutType depth t).1, (cutType depth t).2) := by
  have hinside : ¬ depth ≤ 0 := by omega
  simp [cutType, hinside, hleft, hright]

/-- Inside parentheses a balanced text belongs to the type, with the blanks in it. -/
theorem cutType_append_of_isBalanced {inner : Text} (h : IsBalanced inner) {depth : Int}
    (hdepth : 0 < depth) (t : Text) :
    cutType depth (inner ++ t) = (inner ++ (cutType depth t).1, (cutType depth t).2) := by
  induction h generalizing depth t with
  | nil => rfl
  | plain hleft hright _ ih =>
      rw [List.cons_append, cutType_plain hdepth hleft hright, ih hdepth]
      rfl
  | @nested inner rest _ _ hinner hrest =>
      have hregroup : '(' :: (inner ++ ')' :: rest) ++ t =
          '(' :: (inner ++ ')' :: (rest ++ t)) := by
        simp
      rw [hregroup, cutType_left, hinner (by omega), cutType_right, Int.add_sub_cancel,
        hrest hdepth]
      simp

inductive IsTypeSuffix : Text → Prop where
  | none : IsTypeSuffix []
  | parenthesized {inner : Text} (hinner : IsBalanced inner) :
      IsTypeSuffix ('(' :: (inner ++ [')']))

theorem IsTypeSuffix.head?_eq {suffix : Text} (h : IsTypeSuffix suffix) :
    ∀ c ∈ suffix.head?, c = '(' := by
  cases h with
  | none => exact fun c hc => (Option.not_mem_none c hc).elim
  | parenthesized _ => exact fun c hc => (Option.some.inj hc).symm

theorem cutType_eq_nil {t : Text} (h : ∀ c ∈ t.head?, Text.isBlank c = true) :
    cutType 0 t = ([], t) := by
  cases t with
  | nil => rfl
  | cons c rest =>
      have hblank : Text.isBlank c = true := h c rfl
      simp [cutType, hblank]

theorem cutType_append_of_isTypeSuffix {suffix rest : Text} (h : IsTypeSuffix suffix)
    (hrest : ∀ c ∈ rest.head?, Text.isBlank c = true) :
    cutType 0 (suffix ++ rest) = (suffix, rest) := by
  cases h with
  | none => exact cutType_eq_nil hrest
  | @parenthesized inner hinner =>
      have hregroup : '(' :: (inner ++ [')']) ++ rest = '(' :: (inner ++ ')' :: rest) := by simp
      rw [hregroup, cutType_left, cutType_append_of_isBalanced hinner (by omega), cutType_right,
        Int.add_sub_cancel, cutType_eq_nil hrest]

/-! ## Columns -/

structure NamedColumn where
  name : Text
  keyword : Text
  suffix : Text
  rest : Text
  name_ne_nil : name ≠ []
  keyword_ne_nil : keyword ≠ []
  keyword_solid : ∀ c ∈ keyword, Text.isBlank c = false ∧ c ≠ '(' ∧ c ≠ ')'
  suffix_balanced : IsTypeSuffix suffix
  rest_apart : ∀ c ∈ rest.head?, Text.isBlank c = true

namespace NamedColumn

variable {column : NamedColumn}

def type (column : NamedColumn) : Text :=
  column.keyword ++ column.suffix

def definition (column : NamedColumn) : Text :=
  Identifier.quote column.name ++ ' ' :: (column.type ++ column.rest)

/--
The definition is read as the column: under its name, with the type in its place in bytes.
A table registers it so, and mapping exchanges the keyword of its type.
-/
structure IsReadBack (column : NamedColumn) : Prop where
  parsed : ∃ found, ColumnDefinition.parse? column.definition = some found ∧
    found.name = column.name ∧ found.declaredType = column.type ∧
    found.typeStart = Text.byteLength (Identifier.quote column.name ++ [' ']) ∧
    found.typeEnd = Text.byteLength (Identifier.quote column.name ++ ' ' :: column.type)
  registered : ∀ position later,
    CreateTable.columnsFrom position (column.definition :: later) =
      ⟨column.name, column.type, position⟩ :: CreateTable.columnsFrom (position + 1) later
  mapped : ∀ profile, mapDefinition profile column.definition =
    Identifier.quote column.name ++
      ' ' :: (profile.mapType column.keyword ++ column.suffix ++ column.rest)

/-! ## The type -/

theorem cutType_type (column : NamedColumn) :
    cutType 0 (column.type ++ column.rest) = (column.type, column.rest) := by
  rw [type, List.append_assoc, cutType_append_of_solid column.keyword_solid,
    cutType_append_of_isTypeSuffix column.suffix_balanced column.rest_apart]

theorem head?_type (column : NamedColumn) :
    ∀ c ∈ (column.type ++ column.rest).head?, Text.isBlank c = false := by
  intro c hc
  rw [type, List.append_assoc, List.head?_append_of_ne_nil _ column.keyword_ne_nil] at hc
  exact (column.keyword_solid c (List.mem_of_head? hc)).1

theorem type_ne_nil (column : NamedColumn) : column.type ≠ [] := by
  exact List.append_ne_nil_of_left_ne_nil column.keyword_ne_nil _

/-- The keyword ends where the suffix begins. -/
theorem keyword_type (column : NamedColumn) :
    column.type.takeWhile (· ≠ '(') = column.keyword ∧
      column.type.dropWhile (· ≠ '(') = column.suffix := by
  have hkeyword : ∀ c ∈ column.keyword, decide (c ≠ '(') = true := fun c hc =>
    decide_eq_true (column.keyword_solid c hc).2.1
  have hsuffix : ∀ c ∈ column.suffix.head?, decide (c ≠ '(') = false := fun c hc => by
    simpa using column.suffix_balanced.head?_eq c hc
  exact ⟨Text.takeWhile_append hkeyword hsuffix, Text.dropWhile_append hkeyword hsuffix⟩

/-! ## Names without double quotes -/

theorem cut_definition (h : '"' ∉ column.name) :
    cut column.definition =
      { lead := []
        writtenName := Identifier.quote column.name
        gap := [' ']
        declaredType := column.type
        rest := column.rest } := by
  have hname : EndsName (Identifier.quote column.name)
      ([' '] ++ (column.type ++ column.rest)) := by
    rw [Identifier.quote, enclose_of_not_mem h]
    exact .quoted _ rfl h
  have hgap : ∀ c ∈ [' '], Text.isBlank c = true := List.forall_mem_singleton.mpr (by decide)
  have hcut := cut_append (List.forall_mem_nil _) hname hgap column.head?_type
  rw [column.cutType_type, List.nil_append, List.append_assoc] at hcut
  exact hcut

theorem parse?_definition (h : '"' ∉ column.name) :
    ColumnDefinition.parse? column.definition = some (cut column.definition) ∧
      (cut column.definition).name = column.name := by
  have hname : (cut column.definition).name = column.name := by
    rw [cut_definition h]
    exact Identifier.unquote_quote column.name
  refine ⟨parse?_eq_some_iff.mpr ⟨?_, rfl⟩, hname⟩
  rw [hname]
  exact column.name_ne_nil

theorem isConstraint_definition (h : '"' ∉ column.name) :
    isConstraint column.definition = false := by
  have hname : EndsName (Identifier.quote column.name) (' ' :: (column.type ++ column.rest)) := by
    rw [Identifier.quote, enclose_of_not_mem h]
    exact .quoted _ rfl h
  have hword := isConstraint_append (List.forall_mem_nil _) hname
  rw [List.nil_append] at hword
  have hfirst : continuesWord '"' = true := by decide
  have hquote : closing? '"' = some '"' := rfl
  rw [definition, hword, Identifier.quote, enclose, List.cons_append,
    List.takeWhile_cons_of_pos hfirst, contains_constraintWords_of_closing? hquote]

theorem isReadBack_of_not_mem (h : '"' ∉ column.name) : column.IsReadBack := by
  obtain ⟨hparse, hname⟩ := parse?_definition h
  have hcolumn := isConstraint_definition h
  refine
    { parsed := ⟨_, hparse, hname, ?_, ?_, ?_⟩
      registered := fun position later => ?_
      mapped := fun profile => ?_ }
  · rw [cut_definition h]
  · rw [cut_definition h]
    rfl
  · rw [cut_definition h, typeEnd, typeStart, ← Text.byteLength_append]
    simp
  · rw [CreateTable.columnsFrom, if_neg (by simp [hcolumn])]
    simp only [hparse, hname]
    rw [cut_definition h]
  · have htype : (cut column.definition).declaredType.isEmpty = false := by
      rw [cut_definition h]
      exact List.isEmpty_eq_false_iff.mpr column.type_ne_nil
    have hkeyword : (cut column.definition).typeKeyword = column.keyword := by
      rw [cut_definition h]
      exact column.keyword_type.1
    have hsuffix : (cut column.definition).typeSuffix = column.suffix := by
      rw [cut_definition h]
      exact column.keyword_type.2
    rw [mapDefinition, if_neg (by simp [hcolumn])]
    simp only [hparse, htype, Bool.false_eq_true, if_false]
    rw [source_withTarget, front, back, hkeyword, hsuffix, cut_definition h]
    simp

/-! ## Names with double quotes -/

/-- The name that is read ends at the first double quote of the name. -/
theorem name_cut_definition {front back : Text} (hname : column.name = front ++ '"' :: back)
    (hfront : '"' ∉ front) : (cut column.definition).name = front := by
  have hdefinition : ∃ more, column.definition = Identifier.quote front ++ '"' :: more := by
    refine ⟨double '"' back ++ '"' :: ' ' :: (column.type ++ column.rest), ?_⟩
    have hdouble : double '"' (front ++ '"' :: back) = front ++ '"' :: '"' :: double '"' back := by
      have hsame := double_of_not_mem hfront
      rw [double] at hsame ⊢
      rw [List.flatMap_append, hsame]
      rfl
    rw [definition, hname, Identifier.quote, enclose, hdouble, Identifier.quote,
      enclose_of_not_mem hfront]
    simp
  obtain ⟨more, hdefinition⟩ := hdefinition
  have hends : EndsName (Identifier.quote front) ([] ++ '"' :: more) := by
    rw [Identifier.quote, enclose_of_not_mem hfront]
    exact .quoted _ rfl hfront
  have hcut := cut_append (List.forall_mem_nil _) hends (List.forall_mem_nil _)
    (Text.forall_mem_head?_cons (by decide) more)
  rw [List.nil_append, List.append_nil, ← hdefinition] at hcut
  rw [hcut]
  exact Identifier.unquote_quote front

/--
A column is read back under its name, with its type in its place, exactly if the name holds
no double quote.
-/
theorem isReadBack_iff_not_mem (column : NamedColumn) : column.IsReadBack ↔ '"' ∉ column.name := by
  refine ⟨fun h hmem => ?_, isReadBack_of_not_mem⟩
  obtain ⟨found, hfound, hname, -⟩ := h.parsed
  obtain ⟨-, rfl⟩ := parse?_eq_some_iff.mp hfound
  obtain ⟨front, back, hsplit, hfront⟩ := List.eq_append_cons_of_mem hmem
  rw [name_cut_definition hsplit hfront, hsplit] at hname
  have hlength := congrArg List.length hname
  rw [List.length_append, List.length_cons] at hlength
  omega

/-- Of a doubled quote the first one ends the name, and the rest is read as a type. -/
theorem not_isReadBack_doubledQuote :
    ∃ column : NamedColumn, column.name = "a\"b".toList ∧ column.keyword = "TEXT".toList ∧
      column.definition = "\"a\"\"b\" TEXT".toList ∧
      (ColumnDefinition.parse? column.definition).map
          (fun found => (found.name, found.declaredType)) =
        some ("a".toList, "\"b\"".toList) ∧
      ¬ column.IsReadBack := by
  let column : NamedColumn :=
    { name := "a\"b".toList
      keyword := "TEXT".toList
      suffix := []
      rest := []
      name_ne_nil := by decide
      keyword_ne_nil := by decide
      keyword_solid := by
        have hsolid : "TEXT".toList.all
            (fun c => decide (Text.isBlank c = false ∧ c ≠ '(' ∧ c ≠ ')')) = true := by decide
        exact fun c hc => of_decide_eq_true (List.all_eq_true.mp hsolid c hc)
      suffix_balanced := .none
      rest_apart := fun c hc => (Option.not_mem_none c hc).elim }
  have hparse : (ColumnDefinition.parse? column.definition).map
      (fun found => (found.name, found.declaredType)) =
        some ("a".toList, "\"b\"".toList) := by decide +kernel
  refine ⟨column, rfl, rfl, by decide, hparse, fun h => ?_⟩
  obtain ⟨found, hfound, hname, -⟩ := h.parsed
  rw [hfound, Option.map_some, hname] at hparse
  exact absurd hparse (by simp [column])

end NamedColumn

end DumpConvert
