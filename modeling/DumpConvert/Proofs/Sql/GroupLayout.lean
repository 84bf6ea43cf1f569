import DumpConvert.Proofs.Sql.GroupSequence
import DumpConvert.Proofs.Sql.ReplaceCall

/-!
# The layout of groups

A layout writes groups between parentheses with any text around them that opens no
parenthesis.  Whether a text is a group is told by counting from its own opening
parenthesis: one is open in front of the text, one is open behind it, outside quotes, and
nowhere in it none (`IsEnclosed`).

The scan of groups gives the groups of a layout, and behind them a last one that is never
closed, unless that is blank.  Every text has such a form, so this is all that the scan
does (`splitGroups_eq_iff_layout`).
-/

namespace DumpConvert.Sql

open Nesting

/-! ## Inside the parentheses of a group -/

/-- Behind an opening parenthesis: one is open, and no quote. -/
def opened : Nesting :=
  ⟨none, 1, Nesting.top.quote_known⟩

/-- Wherever the text is cut, the parenthesis in front of it is still open. -/
def StaysOpen (t : Text) : Prop :=
  ∀ front, front <+: t → (opened.after front).depth ≠ 0

/-- The text stays open, and at its end exactly the parenthesis in front of it is open. -/
structure IsEnclosed (t : Text) : Prop where
  staysOpen : StaysOpen t
  ends : opened.after t = opened

theorem deeper_injective {s other : Nesting} (h : s.deeper = other.deeper) : s = other := by
  rcases s with ⟨quote, depth, hknown⟩
  rcases other with ⟨quote', depth', hknown'⟩
  simpa [deeper] using h

theorem forall_prefix_iff_avoids (s : Nesting) (t : Text) :
    (∀ front, front <+: t → (s.deeper.after front).depth ≠ 0) ↔ Avoids ')' s t := by
  induction t generalizing s with
  | nil =>
      refine iff_of_true (fun front hfront => ?_) trivial
      rw [List.prefix_nil.mp hfront]
      exact Nat.succ_ne_zero s.depth
  | cons c rest ih =>
      by_cases hclose : s = top ∧ c = ')'
      · refine iff_of_false (fun hopen => ?_) (fun havoids => havoids.1 hclose)
        obtain ⟨rfl, rfl⟩ := hclose
        exact hopen [')'] (List.prefix_append [')'] rest) (by decide)
      · have hstep : ∀ front, s.deeper.after (c :: front) = (s.advance c).deeper.after front := by
          intro front
          show (s.deeper.advance c).after front = _
          rw [advance_deeper hclose]
        rw [Avoids, ← ih (s.advance c)]
        constructor
        · intro hopen
          refine ⟨hclose, fun front hfront => ?_⟩
          rw [← hstep]
          exact hopen (c :: front) (List.cons_prefix_cons.mpr ⟨rfl, hfront⟩)
        · rintro ⟨-, hopen⟩ front hfront
          rcases List.prefix_cons_iff.mp hfront with rfl | ⟨later, rfl, hlater⟩
          · exact Nat.succ_ne_zero s.depth
          · rw [hstep]
            exact hopen later hlater

theorem staysOpen_iff (t : Text) : StaysOpen t ↔ Avoids ')' top t := by
  exact forall_prefix_iff_avoids top t

theorem isEnclosed_iff (t : Text) : IsEnclosed t ↔ IsGroup t := by
  constructor
  · rintro ⟨hopen, hends⟩
    have havoids := (staysOpen_iff t).mp hopen
    have hdeeper : top.deeper.after t = top.deeper := hends
    rw [after_deeper havoids] at hdeeper
    exact ⟨havoids, deeper_injective hdeeper⟩
  · rintro ⟨havoids, hbalanced⟩
    refine ⟨(staysOpen_iff t).mpr havoids, ?_⟩
    show top.deeper.after t = top.deeper
    rw [after_deeper havoids, hbalanced]

/-! ## Layouts -/

/-- A text in front, then groups, each with a text behind it. -/
def layout (front : Text) (groups : List (Text × Text)) : Text :=
  front ++ groups.flatMap (fun entry => parenthesized entry.1 ++ entry.2)

/-- The groups are enclosed, and no text around them opens a parenthesis. -/
structure IsLayout (front : Text) (groups : List (Text × Text)) : Prop where
  front_stray : '(' ∉ front
  group_enclosed : ∀ entry ∈ groups, IsEnclosed entry.1
  behind_stray : ∀ entry ∈ groups, '(' ∉ entry.2

theorem layout_cons (front group behind : Text) (groups : List (Text × Text)) :
    layout front ((group, behind) :: groups) =
      front ++ (parenthesized group ++ layout behind groups) := by
  simp [layout]

theorem isLayout_cons_iff {front group behind : Text} {groups : List (Text × Text)} :
    IsLayout front ((group, behind) :: groups) ↔
      '(' ∉ front ∧ IsEnclosed group ∧ IsLayout behind groups := by
  constructor
  · rintro ⟨hfront, hgroups, hbehind⟩
    obtain ⟨hgroup, hgroups⟩ := List.forall_mem_cons.mp hgroups
    obtain ⟨hnext, hbehind⟩ := List.forall_mem_cons.mp hbehind
    exact ⟨hfront, hgroup, hnext, hgroups, hbehind⟩
  · rintro ⟨hfront, hgroup, hnext, hgroups, hbehind⟩
    exact ⟨hfront, List.forall_mem_cons.mpr ⟨hgroup, hgroups⟩,
      List.forall_mem_cons.mpr ⟨hnext, hbehind⟩⟩

theorem splitGroups_layout_append {front : Text} {groups : List (Text × Text)}
    (h : IsLayout front groups) (rest : Text) :
    splitGroups (layout front groups ++ rest) = groups.map Prod.fst ++ splitGroups rest := by
  induction groups generalizing front with
  | nil =>
      have hlast : layout front [] = front := List.append_nil front
      rw [hlast, splitGroups_stray h.front_stray, List.map_nil, List.nil_append]
  | cons entry more ih =>
      obtain ⟨group, behind⟩ := entry
      obtain ⟨hfront, hgroup, hmore⟩ := isLayout_cons_iff.mp h
      rw [layout_cons, List.append_assoc, List.append_assoc, splitGroups_stray hfront,
        splitGroups_parenthesized ((isEnclosed_iff group).mp hgroup), ih hmore]
      rfl

/-- Scattered groups are a layout, and possibly a last group that is never closed. -/
theorem ScatteredGroups.exists_layout {values : Text} {groups : List Text}
    (h : ScatteredGroups values groups) :
    ∃ front entries, IsLayout front entries ∧
      (values = layout front entries ∧ groups = entries.map Prod.fst ∨
        ∃ part, StaysOpen part ∧ values = layout front entries ++ '(' :: part ∧
          groups = entries.map Prod.fst ++ if Text.isBlankText part then [] else [part]) := by
  have hempty : ∀ {stray : Text}, '(' ∉ stray → IsLayout stray [] := fun hstray =>
    ⟨hstray, by simp, by simp⟩
  induction h with
  | @none stray hstray =>
      exact ⟨stray, [], hempty hstray, .inl ⟨(List.append_nil stray).symm, rfl⟩⟩
  | @unclosed stray part hstray hpart =>
      refine ⟨stray, [], hempty hstray, .inr ⟨part, (staysOpen_iff part).mpr hpart, ?_, rfl⟩⟩
      simp [layout]
  | @group stray group rest groups hstray hgroup hrest ih =>
      obtain ⟨behind, entries, hlayout, hread⟩ := ih
      refine ⟨stray, (group, behind) :: entries,
        isLayout_cons_iff.mpr ⟨hstray, (isEnclosed_iff group).mpr hgroup, hlayout⟩, ?_⟩
      rcases hread with ⟨rfl, rfl⟩ | ⟨part, hpart, rfl, rfl⟩
      · exact .inl ⟨(layout_cons stray group behind entries).symm, rfl⟩
      · refine .inr ⟨part, hpart, ?_, rfl⟩
        rw [layout_cons]
        simp only [List.append_assoc]

/--
A text gives these groups exactly if it is a layout of them, or a layout of all but a last
one, which is opened and never closed.  The last one is left out where it is blank, while a
group that is closed counts even if it is empty, and every group is given as it stands.
-/
theorem splitGroups_eq_iff_layout (values : Text) (groups : List Text) :
    splitGroups values = groups ↔
      ∃ front entries, IsLayout front entries ∧
        (values = layout front entries ∧ groups = entries.map Prod.fst ∨
          ∃ part, StaysOpen part ∧ values = layout front entries ++ '(' :: part ∧
            groups = entries.map Prod.fst ++ if Text.isBlankText part then [] else [part]) := by
  constructor
  · exact fun h => (scatteredGroups_iff.mpr h).exists_layout
  · rintro ⟨front, entries, hlayout, ⟨rfl, rfl⟩ | ⟨part, hpart, rfl, rfl⟩⟩
    · have hclosed := splitGroups_layout_append hlayout []
      rw [List.append_nil] at hclosed
      rw [hclosed]
      exact List.append_nil _
    · rw [splitGroups_layout_append hlayout, splitGroups_unclosed ((staysOpen_iff part).mp hpart)]

/-- An empty group, a doubled quote and a parenthesis in quotes, and stray quotes between them. -/
example : splitGroups "'a'() \",(1,'it''s (',f(2)) ''( 3".toList =
    [[], "1,'it''s (',f(2)".toList, " 3".toList] := by
  decide +kernel

end DumpConvert.Sql
