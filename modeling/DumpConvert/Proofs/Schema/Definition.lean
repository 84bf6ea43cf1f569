import DumpConvert.Proofs.Schema.Column
import DumpConvert.Proofs.Sql.Comment
import DumpConvert.Proofs.Sql.ValueToken

/-!
# Definitions that stand for themselves

A definition stands for itself in the body of a table if it is trimmed, holds no comment
and is one item of the body (`IsDefinition`).  Three scanners read it there, and all three
pass over a type keyword without noticing it, so a definition whose type keyword is
exchanged for a target type stands for itself as well (`IsDefinition.mapDefinition`).  It
keeps its name (`writtenName_mapDefinition`), and it is not exchanged again if the first
word of the target is kept (`mapDefinition_mapDefinition`).
-/

namespace DumpConvert

open Sql

/-! ## Type maps -/

/-- The text holds no quote character, no mark of a list and no beginning of a comment. -/
structure IsUnmarked (t : Text) : Prop where
  unquoted : ∀ c ∈ t, isProtectingQuote c = false
  unlisted : ∀ c ∈ t, c ≠ ',' ∧ c ≠ '(' ∧ c ≠ ')'
  no_line_comment : Text.occursIn ['-', '-'] t = false
  no_block_comment : Text.occursIn ['/', '*'] t = false

namespace IsUnmarked

variable {t : Text}

theorem isPlain (h : IsUnmarked t) : ∀ c ∈ t, Nesting.isPlain c = true := by
  intro c hc
  obtain ⟨-, hleft, hright⟩ := h.unlisted c hc
  have hquote : ((c ≠ '\'') ∧ c ≠ '"') ∧ c ≠ '\x60' := by
    simpa [isProtectingQuote] using h.unquoted c hc
  simp [Nesting.isPlain, isValueQuote, hleft, hright, hquote]

theorem isItem (h : IsUnmarked t) : IsItem t := by
  refine ⟨Nesting.avoids_of_not_mem (fun hmem => ?_) _, Nesting.after_of_isPlain h.isPlain _⟩
  exact (h.unlisted ',' hmem).1 rfl

/-- Upper case changes no mark, so a keyword is plain if its upper-case form is unmarked. -/
theorem of_asciiUpper (h : IsUnmarked (Text.asciiUpper t)) :
    ∀ c ∈ t, isProtectingQuote c = false ∧ Nesting.isPlain c = true := by
  intro c hc
  by_cases hmark : c ∈ ['\'', '"', '\x60', '(', ')']
  · have hcases : c = '\'' ∨ c = '"' ∨ c = '\x60' ∨ c = '(' ∨ c = ')' := by
      simpa using hmark
    have hself : c.toUpper = c := by
      rcases hcases with rfl | rfl | rfl | rfl | rfl <;> rfl
    have hupper : c ∈ Text.asciiUpper t := List.mem_map.mpr ⟨c, hc, hself⟩
    exact ⟨h.unquoted c hupper, h.isPlain c hupper⟩
  · have hne : c ≠ '\'' ∧ c ≠ '"' ∧ c ≠ '\x60' ∧ c ≠ '(' ∧ c ≠ ')' := by
      simpa using hmark
    simp [isProtectingQuote, Nesting.isPlain, isValueQuote, hne]

end IsUnmarked

/-- Type keywords and their targets are unmarked, and every target is a trimmed text. -/
structure Profile.HasPlainTypes (profile : Profile) : Prop where
  keyword : ∀ entry ∈ profile.typeMap.entries, IsUnmarked entry.1
  target : ∀ entry ∈ profile.typeMap.entries, IsUnmarked entry.2
  target_trimmed : ∀ entry ∈ profile.typeMap.entries, Text.trim entry.2 = entry.2
  target_ne_nil : ∀ entry ∈ profile.typeMap.entries, entry.2 ≠ []

theorem isUnmarked_iff (t : Text) :
    IsUnmarked t ↔ t.any isProtectingQuote = false ∧
      (',' ∉ t ∧ '(' ∉ t ∧ ')' ∉ t) ∧
      Text.occursIn ['-', '-'] t = false ∧ Text.occursIn ['/', '*'] t = false := by
  constructor
  · rintro ⟨hquote, hlist, hline, hblock⟩
    refine ⟨?_, ⟨fun h => ?_, fun h => ?_, fun h => ?_⟩, hline, hblock⟩
    · simpa using hquote
    · exact (hlist _ h).1 rfl
    · exact (hlist _ h).2.1 rfl
    · exact (hlist _ h).2.2 rfl
  · rintro ⟨hquote, ⟨hcomma, hleft, hright⟩, hline, hblock⟩
    refine ⟨by simpa using hquote, fun c hc => ⟨?_, ?_, ?_⟩, hline, hblock⟩
    · rintro rfl
      exact hcomma hc
    · rintro rfl
      exact hleft hc
    · rintro rfl
      exact hright hc

instance (t : Text) : Decidable (IsUnmarked t) :=
  decidable_of_iff _ (isUnmarked_iff t).symm

instance (profile : Profile) : Decidable profile.HasPlainTypes :=
  decidable_of_iff
    (∀ entry ∈ profile.typeMap.entries, IsUnmarked entry.1 ∧ IsUnmarked entry.2 ∧
      Text.trim entry.2 = entry.2 ∧ entry.2 ≠ [])
    ⟨fun h => ⟨fun entry hentry => (h entry hentry).1, fun entry hentry => (h entry hentry).2.1,
        fun entry hentry => (h entry hentry).2.2.1, fun entry hentry => (h entry hentry).2.2.2⟩,
      fun h entry hentry => ⟨h.keyword entry hentry, h.target entry hentry,
        h.target_trimmed entry hentry, h.target_ne_nil entry hentry⟩⟩

/-- The first word of a text that begins with no blank. -/
def Text.firstWord (t : Text) : Text :=
  t.takeWhile (fun c => !Text.isBlank c)

/-- The first word of every target is its own target type. -/
def Profile.KeepsTargets (profile : Profile) : Prop :=
  ∀ entry ∈ profile.typeMap.entries,
    profile.mapType (Text.firstWord entry.2) = Text.firstWord entry.2

instance (profile : Profile) : Decidable profile.KeepsTargets :=
  inferInstanceAs (Decidable (∀ entry ∈ profile.typeMap.entries, _))

/-! ## Definitions -/

/-- The definition is trimmed, holds no comment, and is one item of the body of a table. -/
structure IsDefinition (definition : Text) : Prop where
  trimmed : Text.trim definition = definition
  ne_nil : definition ≠ []
  uncommented : stripComments definition = definition
  closed : openQuote none definition = none
  single : splitValues definition = [definition]
  balanced : (Nesting.top.after definition).quote = none ∧
    (Nesting.top.after definition).depth = 0

instance (definition : Text) : Decidable (IsDefinition definition) :=
  decidable_of_iff
    (Text.trim definition = definition ∧ definition ≠ [] ∧
      stripComments definition = definition ∧ openQuote none definition = none ∧
      splitValues definition = [definition] ∧ (Nesting.top.after definition).quote = none ∧
      (Nesting.top.after definition).depth = 0)
    ⟨fun ⟨htrim, hne, hstrip, hclosed, hsingle, hbalanced⟩ =>
        ⟨htrim, hne, hstrip, hclosed, hsingle, hbalanced⟩,
      fun ⟨htrim, hne, hstrip, hclosed, hsingle, hbalanced⟩ =>
        ⟨htrim, hne, hstrip, hclosed, hsingle, hbalanced⟩⟩

namespace IsDefinition

variable {definition : Text}

theorem isItem (h : IsDefinition definition) : IsItem definition := by
  refine isItem_of_splitValues h.single ?_
  obtain ⟨hquote, hdepth⟩ := h.balanced
  cases hafter : Nesting.top.after definition with
  | mk quote depth hknown =>
      rw [hafter] at hquote hdepth
      subst hquote hdepth
      rfl

theorem isUncommented (h : IsDefinition definition) : IsUncommented definition := by
  exact ⟨(stripComments_eq_self_iff definition).mp h.uncommented, h.closed⟩

theorem of_isItem (htrimmed : Text.trim definition = definition) (hne : definition ≠ [])
    (huncommented : IsUncommented definition) (hitem : IsItem definition) :
    IsDefinition definition := by
  refine
    { trimmed := htrimmed
      ne_nil := hne
      uncommented := (stripComments_eq_self_iff definition).mpr huncommented.free
      closed := huncommented.closed
      single := ?_
      balanced := ?_ }
  · rw [splitValues_of_avoids hitem.uncut, htrimmed, dropEmptyLast, if_neg (by simpa using hne)]
  · rw [hitem.balanced]
    exact ⟨rfl, rfl⟩

end IsDefinition

/-! ## Exchanging the type keyword -/

open ColumnDefinition

section Exchange

variable {definition target : Text}

theorem opensComment_front (h : (cut definition).declaredType ≠ []) :
    ∀ c ∈ (cut definition).front.getLast?, ∀ d, opensComment c d = false := by
  intro c hc d
  refine opensComment_of_ne_left ?_ d
  cases hgap : (cut definition).gap with
  | nil =>
      -- Without a blank after it, the name ends with its closing character.
      have hends := endsName_cut h ['x']
      rw [hgap] at hends
      rw [front, hgap, List.append_nil] at hc
      generalize (cut definition).writtenName = name at hends hc
      cases hends with
      | @quoted left close body _ hclosing _ =>
          rw [← List.cons_append, ← List.append_assoc, List.getLast?_concat] at hc
          rw [← Option.some.inj hc]
          rcases cases_of_closing? hclosing with ⟨-, rfl⟩ | ⟨-, rfl⟩ | ⟨-, rfl⟩ <;> decide
      | bare _ _ hrest => exact absurd (hrest 'x' rfl) (by decide)
  | cons b blanks =>
      have hmem : c ∈ (cut definition).gap := by
        rw [front, hgap, List.getLast?_append_of_ne_nil _ (List.cons_ne_nil b blanks)] at hc
        rw [hgap]
        exact List.mem_of_getLast? hc
      have hblank := all_gap definition c hmem
      exact ⟨Text.ne_of_isBlank hblank (by decide), Text.ne_of_isBlank hblank (by decide)⟩

theorem opensComment_back : ∀ d ∈ (cut definition).back.head?, ∀ c, opensComment c d = false := by
  intro d hd c
  refine opensComment_of_ne_right ?_ c
  rcases endsKeyword_back definition d hd with hblank | rfl
  · exact ⟨Text.ne_of_isBlank hblank (by decide), Text.ne_of_isBlank hblank (by decide)⟩
  · decide

theorem front_ne_nil (h : (cut definition).declaredType ≠ []) : (cut definition).front ≠ [] := by
  obtain ⟨c, more, hname, -⟩ := (endsName_cut h []).exists_eq_cons
  rw [front, hname]
  simp

/-- The scanner of comments passes over an unmarked target as over the keyword. -/
theorem isUncommented_exchange (h : (cut definition).declaredType ≠ [])
    (hkeyword : ∀ c ∈ (cut definition).typeKeyword, isProtectingQuote c = false)
    (htarget : IsUnmarked target) (hdefinition : IsUncommented definition) :
    IsUncommented ((cut definition).front ++ (target ++ (cut definition).back)) := by
  have hknown : ∀ q ∈ openQuote none (cut definition).front, isProtectingQuote q = true :=
    isProtectingQuote_of_mem_openQuote (by simp) _
  have hpass : ∀ word : Text, (∀ c ∈ word, isProtectingQuote c = false) →
      openQuote none ((cut definition).front ++ (word ++ (cut definition).back)) =
        openQuote (openQuote none (cut definition).front) (cut definition).back := by
    intro word hword
    rw [openQuote_append, openQuote_append, openQuote_of_unquoted hknown hword]
  have hfree : CommentFree none ((cut definition).front ++
      ((cut definition).typeKeyword ++ (cut definition).back)) := by
    rw [← cut_eq_front_append]
    exact hdefinition.free
  constructor
  · have hback := hfree.right.right
    rw [openQuote_of_unquoted hknown hkeyword] at hback
    have hmiddle : CommentFree (openQuote none (cut definition).front)
        (target ++ (cut definition).back) := by
      refine commentFree_append
        (commentFree_of_not_occursIn htarget.no_line_comment htarget.no_block_comment _) ?_
        fun c _ d hd => opensComment_back d hd c
      rw [openQuote_of_unquoted hknown htarget.unquoted]
      exact hback
    exact commentFree_append hfree.left hmiddle fun c hc d _ => opensComment_front h c hc d
  · rw [hpass target htarget.unquoted, ← hpass _ hkeyword, ← cut_eq_front_append]
    exact hdefinition.closed

theorem isItem_exchange (hkeyword : ∀ c ∈ (cut definition).typeKeyword, Nesting.isPlain c = true)
    (htarget : IsUnmarked target) (hdefinition : IsItem definition) :
    IsItem ((cut definition).front ++ (target ++ (cut definition).back)) := by
  obtain ⟨huncut, hbalanced⟩ := hdefinition
  rw [cut_eq_front_append definition, Nesting.avoids_append, Nesting.avoids_append,
    Nesting.after_of_isPlain hkeyword] at huncut
  rw [cut_eq_front_append definition, Nesting.after_append, Nesting.after_append,
    Nesting.after_of_isPlain hkeyword] at hbalanced
  constructor
  · rw [Nesting.avoids_append, Nesting.avoids_append, Nesting.after_of_isPlain htarget.isPlain]
    refine ⟨huncut.1, Nesting.avoids_of_not_mem (fun hmem => ?_) _, huncut.2.2⟩
    exact (htarget.unlisted ',' hmem).1 rfl
  · rw [Nesting.after_append, Nesting.after_append, Nesting.after_of_isPlain htarget.isPlain]
    exact hbalanced

theorem trim_exchange (h : (cut definition).declaredType ≠ []) (htarget : Text.trim target = target)
    (hne : target ≠ []) (hdefinition : Text.trim definition = definition) :
    Text.trim ((cut definition).front ++ (target ++ (cut definition).back)) =
      (cut definition).front ++ (target ++ (cut definition).back) := by
  have hwhole := cut_eq_front_append definition
  have hfront := front_ne_nil h
  obtain ⟨hfirst, hlast⟩ := (Text.trim_eq_self_iff definition).mp hdefinition
  refine (Text.trim_eq_self_iff _).mpr ⟨fun c hc => hfirst c ?_, fun c hc => ?_⟩
  · rw [List.head?_append_of_ne_nil _ hfront] at hc
    rw [hwhole, List.head?_append_of_ne_nil _ hfront]
    exact hc
  · cases hback : (cut definition).back with
    | nil =>
        rw [hback, List.append_nil, List.getLast?_append_of_ne_nil _ hne] at hc
        exact ((Text.trim_eq_self_iff target).mp htarget).2 c hc
    | cons d more =>
        have hmore : (cut definition).back ≠ [] := by
          rw [hback]
          exact List.cons_ne_nil d more
        refine hlast c ?_
        rw [← List.append_assoc, List.getLast?_append_of_ne_nil _ hmore] at hc
        rw [hwhole, ← List.append_assoc, List.getLast?_append_of_ne_nil _ hmore]
        exact hc

end Exchange

/-! ## Mapped definitions -/

section Mapped

variable {profile : Profile} {definition : Text}

theorem head?_append_target {target : Text} (htarget : Text.trim target = target)
    (hne : target ≠ []) (back : Text) :
    ∀ c ∈ (target ++ back).head?, Text.isBlank c = false := by
  intro c hc
  rw [List.head?_append_of_ne_nil _ hne] at hc
  exact ((Text.trim_eq_self_iff target).mp htarget).1 c hc

/-- A mapped definition stands for itself in the body of a table as well. -/
theorem IsDefinition.mapDefinition (htypes : profile.HasPlainTypes)
    (h : IsDefinition definition) : IsDefinition (mapDefinition profile definition) := by
  rcases mapDefinition_cases profile definition with hkept | ⟨target, hentry, htype, hmapped⟩
  · rw [hkept]
    exact h
  · have hkeyword := (htypes.keyword _ hentry).of_asciiUpper
    have htarget := htypes.target _ hentry
    rw [hmapped]
    refine .of_isItem ?_ ?_ ?_ ?_
    · exact trim_exchange htype (htypes.target_trimmed _ hentry) (htypes.target_ne_nil _ hentry)
        h.trimmed
    · exact List.append_ne_nil_of_left_ne_nil (front_ne_nil htype) _
    · exact isUncommented_exchange htype (fun c hc => (hkeyword c hc).1) htarget h.isUncommented
    · exact isItem_exchange (fun c hc => (hkeyword c hc).2) htarget h.isItem

theorem isConstraint_mapDefinition (profile : Profile) (definition : Text) :
    isConstraint (mapDefinition profile definition) = isConstraint definition := by
  rcases mapDefinition_cases profile definition with hkept | ⟨target, -, htype, hmapped⟩
  · rw [hkept]
  · rw [hmapped, isConstraint_front_append htype]

theorem writtenName_mapDefinition (htypes : profile.HasPlainTypes) (definition : Text) :
    (cut (mapDefinition profile definition)).writtenName = (cut definition).writtenName := by
  rcases mapDefinition_cases profile definition with hkept | ⟨target, hentry, htype, hmapped⟩
  · rw [hkept]
  · rw [hmapped, cut_front_append htype (head?_append_target (htypes.target_trimmed _ hentry)
      (htypes.target_ne_nil _ hentry) _)]

/-- A second mapping changes nothing, since the type that is read is the first word of a target. -/
theorem mapDefinition_mapDefinition (htypes : profile.HasPlainTypes)
    (hkeeps : profile.KeepsTargets) (definition : Text) :
    mapDefinition profile (mapDefinition profile definition) =
      mapDefinition profile definition := by
  rcases mapDefinition_cases profile definition with hkept | ⟨target, hentry, htype, hmapped⟩
  · rw [hkept, hkept]
  · have hsplit : target =
        Text.firstWord target ++ target.dropWhile (fun c => !Text.isBlank c) :=
      List.takeWhile_append_dropWhile.symm
    have hword : ∀ c ∈ Text.firstWord target, Text.isBlank c = false ∧ c ≠ '(' ∧ c ≠ ')' := by
      intro c hc
      have hmem : c ∈ target := (List.takeWhile_sublist _).subset hc
      refine ⟨by simpa using List.mem_takeWhile_imp hc, ?_⟩
      exact ((htypes.target _ hentry).unlisted c hmem).2
    have hne : Text.firstWord target ≠ [] := by
      obtain ⟨c, more, rfl⟩ := List.exists_cons_of_ne_nil (htypes.target_ne_nil _ hentry)
      have hsolid := ((Text.trim_eq_self_iff _).mp (htypes.target_trimmed _ hentry)).1 c rfl
      simp [Text.firstWord, hsolid]
    have hends : EndsKeyword
        (target.dropWhile (fun c => !Text.isBlank c) ++ (cut definition).back) := by
      cases hrest : target.dropWhile (fun c => !Text.isBlank c) with
      | nil => exact endsKeyword_back definition
      | cons d more =>
          have hd : d ∈ (target.dropWhile (fun c => !Text.isBlank c)).head? := by
            rw [hrest]
            rfl
          have hblank : Text.isBlank d = true := by
            simpa using Text.mem_head?_dropWhile hd
          exact Text.forall_mem_head?_cons (.inl hblank) _
    have hread := typeKeyword_cut_front_append htype hne hword hends
    rw [← List.append_assoc (Text.firstWord target), ← hsplit, ← hmapped] at hread
    apply mapDefinition_of_mapType
    rw [hread]
    exact hkeeps _ hentry

/-- Mapping moves no column and renames none. -/
theorem columnsFrom_map (htypes : profile.HasPlainTypes) (position : Nat)
    (definitions : List Text) :
    (CreateTable.columnsFrom position (definitions.map (mapDefinition profile))).map
        (fun column => (column.name, column.position)) =
      (CreateTable.columnsFrom position definitions).map
        (fun column => (column.name, column.position)) := by
  induction definitions generalizing position with
  | nil => rfl
  | cons definition rest ih =>
      have hname : (cut (mapDefinition profile definition)).name = (cut definition).name :=
        congrArg Identifier.unquote (writtenName_mapDefinition htypes definition)
      rw [List.map_cons]
      simp only [CreateTable.columnsFrom, isConstraint_mapDefinition]
      split
      · exact ih position
      · by_cases hempty : (cut definition).name.isEmpty = true
        · simp only [ColumnDefinition.parse?, hname, hempty, if_true]
          exact ih position
        · simp only [ColumnDefinition.parse?, hname, if_neg hempty, List.map_cons, ih]

end Mapped

end DumpConvert
