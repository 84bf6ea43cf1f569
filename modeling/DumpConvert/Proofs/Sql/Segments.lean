import DumpConvert.Proofs.Sql.ValueToken

/-!
# Where a list is cut

A list of literals is cut at the commas in front of which no quote and no parenthesis is
open (`IsCut`).  What is open in front of a comma is told by the text before it, one
character at a time: a quote character opens a quote or closes the same one, and outside
quotes the parentheses are counted.

The scanner reads a doubled quote character in one step, and it cuts at the same commas:
its tokens are the trimmed segments between them (`splitValues_eq_segments`).
-/

namespace DumpConvert.Sql

open Nesting

/-! ## Places and segments -/

def IsCut (list : Text) (place : Nat) : Prop :=
  list[place]? = some ',' ∧ (top.after (list.take place)).quote = none ∧
    (top.after (list.take place)).depth = 0

instance (list : Text) (place : Nat) : Decidable (IsCut list place) :=
  inferInstanceAs (Decidable (_ ∧ _))

def cuts (list : Text) : List Nat :=
  (List.range list.length).filter (fun place => IsCut list place)

/-- The segments of a list from a start on, between the given places. -/
def segmentsFrom (start : Nat) (list : Text) : List Nat → List Text
  | [] => [list.drop start]
  | place :: later => (list.take place).drop start :: segmentsFrom (place + 1) list later

def segments (list : Text) : List Text :=
  segmentsFrom 0 list (cuts list)

theorem mem_cuts_iff {list : Text} {place : Nat} : place ∈ cuts list ↔ IsCut list place := by
  have hinside : IsCut list place → place < list.length := fun h =>
    (List.getElem?_eq_some_iff.mp h.1).1
  rw [cuts, List.mem_filter, List.mem_range, decide_eq_true_iff]
  exact ⟨And.right, fun h => ⟨hinside h, h⟩⟩

theorem isCut_iff {list : Text} {place : Nat} :
    IsCut list place ↔ list[place]? = some ',' ∧ top.after (list.take place) = top := by
  unfold IsCut
  generalize top.after (list.take place) = scan
  rcases scan with ⟨quote, depth, hknown⟩
  simp only [top, Nesting.mk.injEq]

/-! ## The first segment -/

/-- A text avoids a mark if something is open in front of every occurrence of it. -/
theorem avoids_iff_forall_take {mark : Char} {s : Nesting} {t : Text} :
    Avoids mark s t ↔ ∀ place, t[place]? = some mark → s.after (t.take place) ≠ top := by
  induction t generalizing s with
  | nil => simp [Avoids]
  | cons c rest ih =>
      rw [Avoids, ih]
      constructor
      · rintro ⟨hfirst, hrest⟩ place hmark
        cases place with
        | zero => exact fun htop => hfirst ⟨htop, Option.some.inj hmark⟩
        | succ place => exact hrest place hmark
      · intro h
        exact ⟨fun hmark => h 0 (congrArg some hmark.2) hmark.1, fun place => h (place + 1)⟩

theorem not_isCut_of_avoids {item : Text} (h : Avoids ',' top item) (rest : Text) {place : Nat}
    (hplace : place < item.length) : ¬ IsCut (item ++ rest) place := by
  rw [isCut_iff, List.getElem?_append_left hplace, List.take_append_of_le_length hplace.le]
  exact fun ⟨hcomma, htop⟩ => avoids_iff_forall_take.mp h place hcomma htop

theorem cuts_eq_nil {list : Text} (h : Avoids ',' top list) : cuts list = [] := by
  refine List.eq_nil_iff_forall_not_mem.mpr fun place hplace => ?_
  obtain ⟨hcomma, htop⟩ := isCut_iff.mp (mem_cuts_iff.mp hplace)
  exact avoids_iff_forall_take.mp h place hcomma htop

theorem isCut_append_comma_iff {item : Text} (h : IsItem item) (rest : Text) (place : Nat) :
    IsCut (item ++ ',' :: rest) ((item ++ [',']).length + place) ↔ IsCut rest place := by
  have hclosed : top.after (item ++ [',']) = top := by
    rw [after_append, h.balanced]
    rfl
  have hregroup : item ++ ',' :: rest = (item ++ [',']) ++ rest := by simp
  rw [isCut_iff, isCut_iff, hregroup, List.getElem?_append_right (Nat.le_add_right _ _),
    Nat.add_sub_cancel_left, List.take_length_add_append, after_append, hclosed]

/-- The first cut is behind the first item, and the others are those of the rest. -/
theorem cuts_append_comma {item : Text} (h : IsItem item) (rest : Text) :
    cuts (item ++ ',' :: rest) =
      item.length :: (cuts rest).map ((item ++ [',']).length + ·) := by
  have hlength : (item ++ ',' :: rest).length = (item ++ [',']).length + rest.length := by
    simp [Nat.add_assoc, Nat.add_comm 1]
  have hcomma : IsCut (item ++ ',' :: rest) item.length := by
    rw [isCut_iff, List.take_left, h.balanced]
    simp
  have hfirst : (List.range item.length).filter (fun place => IsCut (item ++ ',' :: rest) place) =
      [] := by
    refine List.filter_eq_nil_iff.mpr fun place hplace => ?_
    simpa using not_isCut_of_avoids h.uncut (',' :: rest) (List.mem_range.mp hplace)
  have hlater : ((List.range rest.length).map ((item ++ [',']).length + ·)).filter
      (fun place => IsCut (item ++ ',' :: rest) place) =
        (cuts rest).map ((item ++ [',']).length + ·) := by
    rw [List.filter_map, cuts]
    refine congrArg _ (List.filter_congr fun place _ => ?_)
    exact decide_eq_decide.mpr (isCut_append_comma_iff h rest place)
  have hsingle : (item ++ [',']).length = item.length + 1 := by simp
  rw [cuts, hlength, List.range_add, List.filter_append, hlater, hsingle, List.range_succ,
    List.filter_append, hfirst, List.nil_append, List.filter_cons_of_pos (by simpa using hcomma),
    List.filter_nil, List.singleton_append]

theorem segmentsFrom_append (front list : Text) (start : Nat) (places : List Nat) :
    segmentsFrom (front.length + start) (front ++ list) (places.map (front.length + ·)) =
      segmentsFrom start list places := by
  induction places generalizing start with
  | nil => rw [List.map_nil, segmentsFrom, segmentsFrom, List.drop_length_add_append]
  | cons place later ih =>
      rw [List.map_cons, segmentsFrom, segmentsFrom, List.take_length_add_append,
        List.drop_length_add_append, Nat.add_assoc, ih]

theorem segments_of_avoids {list : Text} (h : Avoids ',' top list) : segments list = [list] := by
  rw [segments, cuts_eq_nil h, segmentsFrom, List.drop_zero]

theorem segments_append_comma {item : Text} (h : IsItem item) (rest : Text) :
    segments (item ++ ',' :: rest) = item :: segments rest := by
  have hregroup : item ++ ',' :: rest = (item ++ [',']) ++ rest := by simp
  have hsingle : item.length + 1 = (item ++ [',']).length + 0 := by simp
  have hlater := segmentsFrom_append (item ++ [',']) rest 0 (cuts rest)
  rw [segments, cuts_append_comma h, segmentsFrom, List.take_left, List.drop_zero, hsingle,
    hregroup, hlater, segments]

theorem segments_ne_nil (list : Text) : segments list ≠ [] := by
  unfold segments
  cases cuts list with
  | nil => exact List.cons_ne_nil _ _
  | cons place later => exact List.cons_ne_nil _ _

/-! ## The tokens are the segments -/

/-- A list is one last segment, or an item with a comma and a shorter list behind it. -/
theorem induction_on_items {P : Text → Prop} (hlast : ∀ list, Avoids ',' top list → P list)
    (hcons : ∀ item rest, IsItem item → P rest → P (item ++ ',' :: rest)) (list : Text) :
    P list := by
  induction hlength : list.length using Nat.strong_induction_on generalizing list with
  | _ length ih =>
      rcases avoids_or_exists_cut ',' top list with havoids | ⟨item, rest, rfl, huncut, hclosed⟩
      · exact hlast list havoids
      · refine hcons item rest ⟨huncut, hclosed⟩ (ih rest.length ?_ rest rfl)
        rw [← hlength, List.length_append, List.length_cons]
        omega

theorem joinWith_segments (list : Text) : Text.joinWith [','] (segments list) = list := by
  induction list using induction_on_items with
  | hlast list havoids => rw [segments_of_avoids havoids, Text.joinWith_singleton]
  | hcons item rest hitem ih =>
      rw [segments_append_comma hitem, Text.joinWith_cons_of_ne_nil _ _ (segments_ne_nil rest), ih]
      simp

theorem splitValues_eq (list : Text) :
    splitValues list = dropEmptyLast ((segments list).map Text.trim) := by
  induction list using induction_on_items with
  | hlast list havoids =>
      rw [splitValues_of_avoids havoids, segments_of_avoids havoids, List.map_singleton]
  | hcons item rest hitem ih =>
      have hmore : (segments rest).map Text.trim ≠ [] :=
        fun hnil => segments_ne_nil rest (List.map_eq_nil_iff.mp hnil)
      rw [splitValues_append_comma hitem, segments_append_comma hitem, List.map_cons,
        dropEmptyLast_cons hmore, ih]

/--
The tokens of a list are its segments without the blanks around them, an empty one at the
end left out, and the segments with the commas between them are the list.
-/
theorem splitValues_eq_segments (list : Text) :
    splitValues list = dropEmptyLast ((segments list).map Text.trim) ∧
      Text.joinWith [','] (segments list) = list := by
  exact ⟨splitValues_eq list, joinWith_segments list⟩

/-- A doubled apostrophe, a quote of the other kind, and a comma behind a stray parenthesis. -/
example : cuts "'a'',b',\"'\",),(1,2".toList = [7, 11, 13] ∧
    segments "'a'',b',\"'\",),(1,2".toList =
      ["'a'',b'".toList, "\"'\"".toList, ")".toList, "(1,2".toList] := by
  decide

end DumpConvert.Sql
