import DumpConvert.Proofs.Schema.Registry
import DumpConvert.Proofs.Text.Scanning
import DumpConvert.Schema.Table

/-!
# Exchanging the type of a column

A column definition with a type is a front, the keyword of the type, and a back.  The
front ends where the name and the blanks after it end (`EndsName`), and the back begins
with a blank or a parenthesis (`EndsKeyword`).  So another keyword between them leaves the
name as it is, and it is the first word of that keyword that is read as a type
(`cut_front_append`, `typeKeyword_cut`).
-/

namespace DumpConvert

namespace Dictionary

theorem mem_of_lookup {α : Type} {key : Text} {value : α} {entries : List (Text × α)}
    (h : lookup key entries = some value) : (key, value) ∈ entries := by
  induction entries with
  | nil => cases h
  | cons entry rest ih =>
      unfold lookup at h
      split at h
      · rename_i hkey
        cases h
        rw [← hkey]
        exact List.mem_cons_self
      · exact List.mem_cons_of_mem entry (ih h)

theorem mem_entries_of_get? {α : Type} {dictionary : Dictionary α} {key : Text} {value : α}
    (h : dictionary.get? key = some value) : (key, value) ∈ dictionary.entries := by
  exact mem_of_lookup h

end Dictionary

namespace ColumnDefinition

open Text

/-! ## Where a name ends -/

/-- A written name ends before the text: after its closing character, or before a blank. -/
inductive EndsName : Text → Text → Prop where
  | quoted {left close : Char} {body : Text} (rest : Text)
      (hclosing : closing? left = some close) (hbody : close ∉ body) :
      EndsName (left :: (body ++ [close])) rest
  | bare {first : Char} {body rest : Text} (hclosing : closing? first = none)
      (hsolid : ∀ c ∈ first :: body, isBlank c = false)
      (hrest : ∀ c ∈ rest.head?, isBlank c = true) :
      EndsName (first :: body) rest

theorem cases_of_closing? {left close : Char} (h : closing? left = some close) :
    (left = '[' ∧ close = ']') ∨ (left = '"' ∧ close = '"') ∨
      (left = '\x60' ∧ close = '\x60') := by
  unfold closing? at h
  split at h
  · rename_i hbracket
    cases h
    exact .inl ⟨hbracket, rfl⟩
  · split at h
    · rename_i hquote
      cases h
      rcases hquote with rfl | rfl
      · exact .inr (.inl ⟨rfl, rfl⟩)
      · exact .inr (.inr ⟨rfl, rfl⟩)
    · cases h

theorem cutAfter_append_of_not_mem {c : Char} {body : Text} (h : c ∉ body) (rest : Text) :
    cutAfter c (body ++ c :: rest) = (body ++ [c], rest) := by
  induction body with
  | nil => simp [cutAfter]
  | cons d more ih =>
      obtain ⟨hd, hmore⟩ := not_or.mp (mt List.mem_cons.mpr h)
      rw [List.cons_append, cutAfter, if_neg (Ne.symm hd), ih hmore]
      rfl

theorem exists_of_cutAfter {c : Char} {t : Text} (h : (cutAfter c t).2 ≠ []) :
    ∃ body, (cutAfter c t).1 = body ++ [c] ∧ c ∉ body := by
  induction t with
  | nil => exact absurd rfl h
  | cons d rest ih =>
      unfold cutAfter at h ⊢
      split
      · rename_i hd
        exact ⟨[], by simp [hd], List.not_mem_nil⟩
      · rename_i hd
        rw [if_neg hd] at h
        obtain ⟨body, hbody, hmem⟩ := ih h
        refine ⟨d :: body, by simp [hbody], ?_⟩
        exact fun hc => (List.mem_cons.mp hc).elim (fun heq => hd heq.symm) hmem

theorem cutName_append_of_endsName {name rest : Text} (h : EndsName name rest) :
    cutName (name ++ rest) = (name, rest) := by
  cases h with
  | @quoted left close body _ hclosing hbody =>
      have hregroup : left :: (body ++ [close]) ++ rest = left :: (body ++ close :: rest) := by
        simp
      rw [hregroup]
      simp only [cutName, hclosing, cutAfter_append_of_not_mem hbody]
  | @bare first body _ hclosing hsolid hrest =>
      have htaken : ∀ c ∈ first :: body, (!isBlank c) = true := by
        intro c hc
        rw [hsolid c hc]
        rfl
      have hstop : ∀ c ∈ rest.head?, (!isBlank c) = false := by
        intro c hc
        rw [hrest c hc]
        rfl
      have hspan := takeWhile_append htaken hstop
      have hleft := Text.dropWhile_append htaken hstop
      rw [List.cons_append] at hspan hleft
      rw [List.cons_append, cutName, hclosing]
      simp only [hspan, hleft]

theorem endsName_of_cutName {t : Text} (hstart : ∀ c ∈ t.head?, isBlank c = false)
    (h : (cutName t).2 ≠ []) : EndsName (cutName t).1 (cutName t).2 := by
  cases t with
  | nil => exact absurd rfl h
  | cons c rest =>
      cases hclosing : closing? c with
      | some close =>
          simp only [cutName, hclosing] at h ⊢
          obtain ⟨body, hbody, hmem⟩ := exists_of_cutAfter h
          rw [hbody]
          exact .quoted _ hclosing hmem
      | none =>
          have hsolid : isBlank c = false := hstart c rfl
          simp only [cutName, hclosing]
          have hfirst : (c :: rest).takeWhile (fun d => !isBlank d) =
              c :: rest.takeWhile (fun d => !isBlank d) := by
            simp [hsolid]
          rw [hfirst]
          refine .bare hclosing ?_ ?_
          · rw [← hfirst]
            intro d hd
            simpa using List.mem_takeWhile_imp hd
          · intro d hd
            simpa using mem_head?_dropWhile hd

/-- What follows the blanks after a name may change. -/
theorem EndsName.exchange {name gap more : Text} {c : Char}
    (h : EndsName name (gap ++ c :: more)) (hc : isBlank c = false) (other : Text) :
    EndsName name (gap ++ other) := by
  cases h with
  | quoted _ hclosing hbody => exact .quoted _ hclosing hbody
  | bare hclosing hsolid hrest =>
      refine .bare hclosing hsolid ?_
      cases gap with
      | nil =>
          rw [hrest c rfl] at hc
          cases hc
      | cons b blanks => exact hrest

theorem EndsName.exists_eq_cons {name rest : Text} (h : EndsName name rest) :
    ∃ c more, name = c :: more ∧ isBlank c = false := by
  cases h with
  | @quoted left close body _ hclosing _ =>
      refine ⟨left, body ++ [close], rfl, ?_⟩
      rcases cases_of_closing? hclosing with ⟨rfl, -⟩ | ⟨rfl, -⟩ | ⟨rfl, -⟩ <;> decide
  | @bare first body _ _ hsolid _ => exact ⟨first, body, rfl, hsolid first List.mem_cons_self⟩

/-! ## Where a type keyword ends -/

/-- What stands before the text and holds no parenthesis is a type keyword as a whole. -/
def EndsKeyword (t : Text) : Prop :=
  ∀ c ∈ t.head?, isBlank c = true ∨ c = '('

theorem cutType_append_of_solid {word : Text}
    (h : ∀ c ∈ word, isBlank c = false ∧ c ≠ '(' ∧ c ≠ ')') (depth : Int) (t : Text) :
    cutType depth (word ++ t) = (word ++ (cutType depth t).1, (cutType depth t).2) := by
  induction word with
  | nil => rfl
  | cons c rest ih =>
      obtain ⟨⟨hsolid, hleft, hright⟩, hrest⟩ := List.forall_mem_cons.mp h
      simp [cutType, hsolid, hleft, hright, ih hrest]

theorem head?_rest_cutType (depth : Int) (t : Text) :
    ∀ c ∈ (cutType depth t).2.head?, isBlank c = true := by
  induction t generalizing depth with
  | nil => exact fun c hc => (Option.not_mem_none c hc).elim
  | cons d rest ih =>
      unfold cutType
      split
      · rename_i hstop
        intro c hc
        obtain rfl : d = c := Option.some.inj hc
        exact hstop.1
      · exact ih _

theorem takeWhile_cutType {t : Text} (h : EndsKeyword t) :
    (cutType 0 t).1.takeWhile (· ≠ '(') = [] := by
  cases t with
  | nil => rfl
  | cons c rest =>
      rcases h c rfl with hblank | rfl
      · simp [cutType, hblank]
      · have hsolid : isBlank '(' = false := by decide
        simp [cutType, hsolid]

/-! ## The parts of a definition -/

/-- A definition that is put together is cut at its seams. -/
theorem cut_append {lead name gap t : Text} (hlead : ∀ c ∈ lead, isBlank c = true)
    (hname : EndsName name (gap ++ t)) (hgap : ∀ c ∈ gap, isBlank c = true)
    (ht : ∀ c ∈ t.head?, isBlank c = false) :
    cut (lead ++ name ++ gap ++ t) =
      { lead := lead
        writtenName := name
        gap := gap
        declaredType := (cutType 0 t).1
        rest := (cutType 0 t).2 } := by
  have hsolid : ∀ c ∈ (name ++ (gap ++ t)).head?, isBlank c = false := by
    obtain ⟨first, more, rfl, hfirst⟩ := hname.exists_eq_cons
    exact forall_mem_head?_cons hfirst _
  have hstart : trimStart (lead ++ (name ++ (gap ++ t))) = name ++ (gap ++ t) :=
    Text.dropWhile_append hlead hsolid
  have hafter : trimStart (gap ++ t) = t := Text.dropWhile_append hgap ht
  have hregroup : lead ++ name ++ gap ++ t = lead ++ (name ++ (gap ++ t)) := by
    simp only [List.append_assoc]
  rw [hregroup]
  simp only [cut, hstart, cutName_append_of_endsName hname, hafter,
    takeWhile_append hlead hsolid, takeWhile_append hgap ht]

theorem parse?_eq_some_iff {definition : Text} {column : ColumnDefinition} :
    parse? definition = some column ↔ (cut definition).name ≠ [] ∧ cut definition = column := by
  unfold parse?
  split
  · rename_i hempty
    simp [List.isEmpty_iff.mp hempty]
  · rename_i hname
    have hne : (cut definition).name ≠ [] := fun hnil => hname (List.isEmpty_iff.mpr hnil)
    simp [hne]

def front (column : ColumnDefinition) : Text :=
  column.lead ++ column.writtenName ++ column.gap

def back (column : ColumnDefinition) : Text :=
  column.typeSuffix ++ column.rest

theorem source_eq (column : ColumnDefinition) :
    column.source = column.front ++ (column.typeKeyword ++ column.back) := by
  have htype : column.typeKeyword ++ column.typeSuffix = column.declaredType :=
    List.takeWhile_append_dropWhile
  rw [back, ← List.append_assoc column.typeKeyword, htype, source, front, List.append_assoc]

theorem source_withTarget (profile : Profile) (column : ColumnDefinition) :
    (column.withTarget profile).source =
      column.front ++ (profile.mapType column.typeKeyword ++ column.back) := by
  simp only [source, withTarget, front, back, List.append_assoc]

theorem cut_eq_front_append (definition : Text) :
    definition = (cut definition).front ++
      ((cut definition).typeKeyword ++ (cut definition).back) := by
  rw [← source_eq, source_cut]

theorem endsKeyword_back (definition : Text) : EndsKeyword (cut definition).back := by
  intro c hc
  unfold back at hc
  cases hsuffix : (cut definition).typeSuffix with
  | nil =>
      rw [hsuffix, List.nil_append] at hc
      exact .inl (head?_rest_cutType 0 _ c hc)
  | cons d more =>
      have hparenthesis : d = '(' := by
        have hhead : d ∈ ((cut definition).declaredType.dropWhile (· ≠ '(')).head? := by
          have hdrop := hsuffix
          unfold typeSuffix at hdrop
          rw [hdrop]
          rfl
        simpa using mem_head?_dropWhile hhead
      rw [hsuffix] at hc
      exact .inr ((Option.some.inj hc).symm.trans hparenthesis)

section Typed

variable {definition : Text}

theorem all_lead (definition : Text) : ∀ c ∈ (cut definition).lead, isBlank c = true := by
  exact fun c hc => List.mem_takeWhile_imp hc

theorem all_gap (definition : Text) : ∀ c ∈ (cut definition).gap, isBlank c = true := by
  exact fun c hc => List.mem_takeWhile_imp hc

/-- What stands behind the written name. -/
theorem gap_append_declaredType (definition : Text) :
    (cut definition).gap ++ ((cut definition).declaredType ++ (cut definition).rest) =
      (cutName (trimStart definition)).2 := by
  have htype := cutType_append 0 (trimStart (cutName (trimStart definition)).2)
  have hgap := takeWhile_append_trimStart (cutName (trimStart definition)).2
  simp only [cut]
  rw [htype, hgap]

/-- The type begins with a character that is no blank. -/
theorem exists_declaredType_eq_cons (h : (cut definition).declaredType ≠ []) :
    ∃ c more, (cut definition).declaredType ++ (cut definition).rest = c :: more ∧
      isBlank c = false := by
  obtain ⟨c, more, htype⟩ := List.exists_cons_of_ne_nil h
  refine ⟨c, more ++ (cut definition).rest, by rw [htype]; rfl, ?_⟩
  have happend := cutType_append 0 (trimStart (cutName (trimStart definition)).2)
  have hhead : c ∈ (trimStart (cutName (trimStart definition)).2).head? := by
    rw [← happend]
    have hfirst : (cutType 0 (trimStart (cutName (trimStart definition)).2)).1 = c :: more := htype
    rw [hfirst]
    rfl
  exact mem_head?_dropWhile hhead

/-- The name ends where it ends whatever stands in the place of the type. -/
theorem endsName_cut (h : (cut definition).declaredType ≠ []) (t : Text) :
    EndsName (cut definition).writtenName ((cut definition).gap ++ t) := by
  have hafter := gap_append_declaredType definition
  obtain ⟨c, more, hsolid, hc⟩ := exists_declaredType_eq_cons h
  have hne : (cutName (trimStart definition)).2 ≠ [] := by
    rw [← hafter, hsolid]
    exact List.append_ne_nil_of_right_ne_nil _ (List.cons_ne_nil c more)
  have hends : EndsName (cut definition).writtenName (cutName (trimStart definition)).2 :=
    endsName_of_cutName (fun d hd => mem_head?_dropWhile hd) hne
  rw [← hafter, hsolid] at hends
  exact hends.exchange hc t

/-- Another text in the place of the type leaves what stands before it. -/
theorem cut_front_append (h : (cut definition).declaredType ≠ []) {t : Text}
    (ht : ∀ c ∈ t.head?, isBlank c = false) :
    cut ((cut definition).front ++ t) =
      { cut definition with declaredType := (cutType 0 t).1, rest := (cutType 0 t).2 } := by
  exact cut_append (all_lead definition) (endsName_cut h t) (all_gap definition) ht

theorem typeKeyword_cut_front_append (h : (cut definition).declaredType ≠ []) {word t : Text}
    (hne : word ≠ []) (hword : ∀ c ∈ word, isBlank c = false ∧ c ≠ '(' ∧ c ≠ ')')
    (ht : EndsKeyword t) :
    (cut ((cut definition).front ++ (word ++ t))).typeKeyword = word := by
  obtain ⟨first, more, rfl⟩ := List.exists_cons_of_ne_nil hne
  have hsolid : ∀ c ∈ (first :: more ++ t).head?, isBlank c = false :=
    forall_mem_head?_cons (hword first List.mem_cons_self).1 _
  have hplain : ∀ c ∈ first :: more, decide (c ≠ '(') = true := fun c hc =>
    decide_eq_true (hword c hc).2.1
  rw [cut_front_append h hsolid, typeKeyword, cutType_append_of_solid hword,
    List.takeWhile_append_of_pos hplain, takeWhile_cutType ht, List.append_nil]

end Typed

end ColumnDefinition

/-! ## Constraints -/

open ColumnDefinition Text

theorem contains_constraintWords_of_closing? {left close : Char}
    (h : closing? left = some close) (rest : Text) :
    constraintWords.contains (asciiUpper (left :: rest)) = false := by
  rcases cases_of_closing? h with ⟨rfl, -⟩ | ⟨rfl, -⟩ | ⟨rfl, -⟩ <;> rfl

def continuesWord (c : Char) : Bool :=
  !(isBlank c || c == '(')

/-- A constraint is told by what is written in the place of the name. -/
theorem isConstraint_append {lead name rest : Text} (hlead : ∀ c ∈ lead, isBlank c = true)
    (hname : EndsName name rest) :
    isConstraint (lead ++ (name ++ rest)) =
      constraintWords.contains (asciiUpper (name.takeWhile continuesWord)) := by
  have hstart : trimStart (lead ++ (name ++ rest)) = name ++ rest := by
    obtain ⟨first, more, rfl, hfirst⟩ := hname.exists_eq_cons
    exact trimStart_append_cons hlead hfirst (more ++ rest)
  show constraintWords.contains
    (asciiUpper ((trimStart (lead ++ (name ++ rest))).takeWhile continuesWord)) = _
  rw [hstart]
  cases hname with
  | @quoted left close body _ hclosing _ =>
      have hleft : continuesWord left = true := by
        rcases cases_of_closing? hclosing with ⟨rfl, -⟩ | ⟨rfl, -⟩ | ⟨rfl, -⟩ <;> decide
      rw [List.cons_append, List.takeWhile_cons_of_pos hleft, List.takeWhile_cons_of_pos hleft,
        contains_constraintWords_of_closing? hclosing,
        contains_constraintWords_of_closing? hclosing]
  | bare hclosing hsolid hrest =>
      rw [takeWhile_append_of_stop fun c hc => ?_]
      simp [continuesWord, hrest c hc]

theorem isConstraint_front_append {definition : Text}
    (h : (cut definition).declaredType ≠ []) (t : Text) :
    isConstraint ((cut definition).front ++ t) = isConstraint definition := by
  have hregroup : ∀ t, (cut definition).front ++ t =
      (cut definition).lead ++ ((cut definition).writtenName ++ ((cut definition).gap ++ t)) := by
    intro t
    simp only [front, List.append_assoc]
  have hwhole : definition = (cut definition).front ++
      ((cut definition).declaredType ++ (cut definition).rest) := by
    rw [front, ← List.append_assoc]
    exact (source_cut definition).symm
  have hword : ∀ t, isConstraint ((cut definition).front ++ t) = constraintWords.contains
      (asciiUpper ((cut definition).writtenName.takeWhile continuesWord)) := by
    intro t
    rw [hregroup]
    exact isConstraint_append (all_lead definition) (endsName_cut h t)
  rw [hword, ← hword ((cut definition).declaredType ++ (cut definition).rest), ← hwhole]

/-! ## Mapped definitions -/

/-- A definition is kept, or the keyword of its type is looked up. -/
theorem mapDefinition_eq_or (profile : Profile) (definition : Text) :
    mapDefinition profile definition = definition ∨
      (cut definition).declaredType ≠ [] ∧
        mapDefinition profile definition = (cut definition).front ++
          (profile.mapType (cut definition).typeKeyword ++ (cut definition).back) := by
  unfold mapDefinition
  split
  · exact .inl rfl
  · split
    · exact .inl rfl
    · rename_i column hparse
      rw [(parse?_eq_some_iff.mp hparse).2]
      split
      · exact .inl rfl
      · rename_i htype
        exact .inr ⟨fun hnil => htype (List.isEmpty_iff.mpr hnil), source_withTarget profile column⟩

theorem mapDefinition_of_mapType {profile : Profile} {definition : Text}
    (h : profile.mapType (cut definition).typeKeyword = (cut definition).typeKeyword) :
    mapDefinition profile definition = definition := by
  rcases mapDefinition_eq_or profile definition with hkept | ⟨-, hmapped⟩
  · exact hkept
  · rw [hmapped, h]
    exact (cut_eq_front_append definition).symm

/-- A definition that changes has a target type in the place of its type keyword. -/
theorem mapDefinition_cases (profile : Profile) (definition : Text) :
    mapDefinition profile definition = definition ∨
      ∃ target, (asciiUpper (cut definition).typeKeyword, target) ∈ profile.typeMap.entries ∧
        (cut definition).declaredType ≠ [] ∧
        mapDefinition profile definition =
          (cut definition).front ++ (target ++ (cut definition).back) := by
  rcases mapDefinition_eq_or profile definition with hkept | ⟨htype, hmapped⟩
  · exact .inl hkept
  · cases htarget : profile.typeMap.get? (asciiUpper (cut definition).typeKeyword) with
    | none => exact .inl (mapDefinition_of_mapType (by rw [Profile.mapType, htarget]; rfl))
    | some target =>
        rw [Profile.mapType, htarget] at hmapped
        exact .inr ⟨target, Dictionary.mem_entries_of_get? htarget, htype, hmapped⟩

end DumpConvert
