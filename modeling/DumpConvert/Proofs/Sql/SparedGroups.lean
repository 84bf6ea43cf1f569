import DumpConvert.Proofs.Sql.GroupSequence
import DumpConvert.Proofs.Sql.WholeComment

/-!
# Rows of texts with comments

The scans of a value list know no comments.  So the rows of a text are those of the text
without its comments exactly if every comment stands between two groups and holds no
opening parenthesis (`rows_stripFrom_iff`).

A comment inside a group is read as a part of a token, and the token without the comment
is another one (`rows_ne_of_opensComment`): a text that is stripped shows no comment, so
no second comment can take the place of the first.  For the comments between groups the
opening parentheses are counted.  Each of them opens a group or stands in a token
(`count_eq_openings`), so if the rows are the same then none stood in a comment.
-/

namespace DumpConvert.Sql

open Nesting

/-! ## A comment inside a group -/

/-- No comment opens behind blanks in a text without comments. -/
theorem not_opensComment_of_lead {lead t : Text} {c d : Char} (h : CommentFree none t)
    (hlead : ∀ b ∈ lead, Text.isBlank b = true) (hbegins : lead ++ [c, d] <+: t) :
    opensComment c d = false := by
  obtain ⟨rest, rfl⟩ := hbegins
  have hopens := h.left.right
  rw [openQuote_of_blank (by simp) hlead] at hopens
  exact hopens.1 rfl d rfl

/-- Two texts with a common front are trimmed to the same only if both go on with the mark. -/
theorem exists_lead_of_trim_eq {front s t : Text} {c d : Char} (hc : Text.isBlank c = false)
    (hd : Text.isBlank d = false)
    (h : Text.trim (front ++ c :: d :: s) = Text.trim (front ++ t)) :
    ∃ lead, (∀ b ∈ lead, Text.isBlank b = true) ∧ lead ++ [c, d] <+: t := by
  have hblank : ∀ b ∈ front.takeWhile Text.isBlank, Text.isBlank b = true := fun b hb =>
    List.mem_takeWhile_imp hb
  have hsplit := Text.takeWhile_append_trimStart front
  rw [← hsplit, List.append_assoc, List.append_assoc, Text.trim_append_of_blank_left hblank,
    Text.trim_append_of_blank_left hblank] at h
  cases hfront : Text.trimStart front with
  | nil =>
      rw [hfront, List.nil_append, List.nil_append] at h
      obtain ⟨lead, tail, heq, hlead, -⟩ := Text.exists_eq_append_trim t
      have hmark : [c] ++ [d] <+: Text.trim (c :: d :: s) :=
        Text.prefix_trim (Text.forall_mem_head?_cons hc _) hd ⟨s, rfl⟩
      rw [h] at hmark
      refine ⟨lead, hlead, ?_⟩
      rw [heq, List.append_assoc]
      exact (List.prefix_append_right_inj lead).mpr (hmark.trans (List.prefix_append _ tail))
  | cons b more =>
      have hb : Text.isBlank b = false := by
        have hstop : b ∈ (Text.trimStart front).head? := by
          rw [hfront]
          rfl
        exact Text.mem_head?_dropWhile hstop
      rw [hfront] at h
      have hsolid : ∀ later, ∀ e ∈ (b :: more ++ later).head?, Text.isBlank e = false :=
        fun later => Text.forall_mem_head?_cons hb _
      obtain ⟨tail, heq, -⟩ := Text.exists_eq_trim_append (hsolid t)
      have hmark : b :: more ++ [c] ++ [d] <+: Text.trim (b :: more ++ c :: d :: s) :=
        Text.prefix_trim (hsolid _) hd ⟨s, by simp⟩
      rw [h] at hmark
      have hwhole := hmark.trans (List.prefix_append _ tail)
      rw [← heq, List.append_assoc] at hwhole
      exact ⟨[], List.forall_mem_nil _, (List.prefix_append_right_inj _).mp hwhole⟩

theorem exists_lead_of_splitValues_eq {front s t : Text} {c d : Char}
    (h : opensComment c d = true)
    (heq : splitValues (front ++ c :: d :: s) = splitValues (front ++ t)) :
    ∃ lead, (∀ b ∈ lead, Text.isBlank b = true) ∧ lead ++ [c, d] <+: t := by
  have hmarks : (Text.isBlank c = false ∧ c ≠ ',') ∧ Text.isBlank d = false ∧ d ≠ ',' := by
    rcases cases_of_opensComment h with ⟨rfl, rfl⟩ | ⟨rfl, rfl⟩ <;> decide
  obtain ⟨⟨hc, hcomma⟩, hd, hcomma'⟩ := hmarks
  obtain ⟨done, piece, hread⟩ := exists_split_append top [] front
  have hrest : (top.after front).split piece (c :: d :: s) = (top.after front).split piece t := by
    have hsame : top.split [] (front ++ c :: d :: s) = top.split [] (front ++ t) := heq
    rw [hread, hread] at hsame
    exact List.append_cancel_left hsame
  have hne : (top.after front).split piece (c :: d :: s) ≠ [] :=
    split_ne_nil (by simp) hc
  obtain ⟨token, tokens, htoken⟩ := List.exists_cons_of_ne_nil hne
  have hleft := head?_split (top.after front) piece (c :: d :: s) token (by rw [htoken]; rfl)
  have hright := head?_split (top.after front) piece t token (by rw [← hrest, htoken]; rfl)
  rw [upTo_cons hcomma, upTo_cons hcomma'] at hleft
  obtain ⟨lead, hlead, hbegins⟩ := exists_lead_of_trim_eq hc hd (hleft.symm.trans hright)
  exact ⟨lead, hlead, hbegins.trans (prefix_upTo ',' _ t)⟩

/-- A row that is read with a comment is not the row that is read without it. -/
theorem rows_ne_of_opensComment {c d : Char} (h : opensComment c d = true) {t : Text}
    (ht : CommentFree none t) (scan : Nesting) (group s : Text) :
    ((GroupScan.inside scan).groups group (c :: d :: s)).map splitValues ≠
      ((GroupScan.inside scan).groups group t).map splitValues := by
  intro heq
  have hmarks : Text.isBlank c = false ∧ c ≠ ')' ∧ d ≠ ')' := by
    rcases cases_of_opensComment h with ⟨rfl, rfl⟩ | ⟨rfl, rfl⟩ <;> decide
  obtain ⟨hc, hclose, hclose'⟩ := hmarks
  have hne : (GroupScan.inside scan).groups group (c :: d :: s) ≠ [] :=
    GroupScan.groups_inside_ne_nil (by simp) hc
  obtain ⟨first, more, hfirst⟩ := List.exists_cons_of_ne_nil hne
  rw [hfirst] at heq
  cases hsecond : (GroupScan.inside scan).groups group t with
  | nil =>
      rw [hsecond] at heq
      cases heq
  | cons second later =>
      have hleft := GroupScan.head?_groups_inside scan group (c :: d :: s) first
        (by rw [hfirst]; rfl)
      have hright := GroupScan.head?_groups_inside scan group t second (by rw [hsecond]; rfl)
      rw [hsecond] at heq
      have hrow : splitValues first = splitValues second := (List.cons_eq_cons.mp heq).1
      rw [hleft, hright, upTo_cons hclose, upTo_cons hclose'] at hrow
      obtain ⟨lead, hlead, hbegins⟩ := exists_lead_of_splitValues_eq h hrow
      have hfree := not_opensComment_of_lead ht hlead (hbegins.trans (prefix_upTo ')' scan t))
      rw [h] at hfree
      cases hfree

/-! ## Counting parentheses -/

theorem count_split {mark : Char} (hmark : Text.isBlank mark = false) (hcomma : mark ≠ ',')
    (s : Nesting) (piece list : Text) :
    (s.split piece list).flatten.count mark = piece.count mark + list.count mark := by
  induction list generalizing s piece with
  | nil =>
      have htrim : (Text.trim piece.reverse).count mark = piece.count mark := by
        rw [Text.count_trim hmark, List.count_reverse]
      rw [split_last]
      unfold dropEmptyLast
      split
      · rename_i hlast
        have hempty : Text.trim piece.reverse = [] := by
          simpa using hlast
        rw [hempty] at htrim
        simpa using htrim
      · simpa using htrim
  | cons c rest ih =>
      by_cases hcut : s = top ∧ c = ','
      · obtain ⟨rfl, rfl⟩ := hcut
        rw [split_comma, List.flatten_cons, List.count_append, ih, Text.count_trim hmark,
          List.count_reverse, List.count_cons_of_ne hcomma.symm, List.count_nil, Nat.zero_add]
      · rw [split_cons hcut, ih]
        simp only [List.count_cons]
        omega

theorem count_splitValues {mark : Char} (hmark : Text.isBlank mark = false) (hcomma : mark ≠ ',')
    (list : Text) : (splitValues list).flatten.count mark = list.count mark := by
  have hsplit := count_split hmark hcomma top [] list
  rw [List.count_nil, Nat.zero_add] at hsplit
  exact hsplit

/-- The number of rows and of the opening parentheses in their tokens. -/
def openings (rows : List (List Text)) : Nat :=
  rows.length + rows.flatten.flatten.count '('

theorem openings_cons (row : List Text) (rows : List (List Text)) :
    openings (row :: rows) = 1 + row.flatten.count '(' + openings rows := by
  simp only [openings, List.length_cons, List.flatten_cons, List.flatten_append, List.count_append]
  omega

theorem count_of_scatteredGroups {values : Text} {groups : List Text}
    (h : ScatteredGroups values groups) (hend : ∀ c ∈ values.getLast?, c = ')') :
    values.count '(' = openings (groups.map splitValues) := by
  have hgroup : ∀ group, (splitValues group).flatten.count '(' = group.count '(' :=
    count_splitValues (by decide) (by decide)
  induction h with
  | none hstray =>
      rw [List.count_eq_zero_of_not_mem hstray]
      rfl
  | @unclosed stray part hstray hpart =>
      have hlast : ∃ c ∈ part, Text.isBlank c = false := by
        rw [List.getLast?_append_of_ne_nil _ (List.cons_ne_nil _ _)] at hend
        cases part with
        | nil => exact absurd (hend '(' rfl) (by decide)
        | cons c more =>
            have hlast := List.getLast?_eq_some_getLast (List.cons_ne_nil c more)
            rw [List.getLast?_cons_cons] at hend
            refine ⟨_, List.mem_of_getLast? hlast, ?_⟩
            rw [hend _ hlast]
            decide
      obtain ⟨c, hmem, hc⟩ := hlast
      have hnone : openings [] = 0 := rfl
      rw [Text.isBlankText_of_mem hmem hc, if_neg (by decide), List.count_append,
        List.count_eq_zero_of_not_mem hstray, List.count_cons_self, List.map_singleton,
        openings_cons, hgroup, hnone]
      omega
  | @group stray group rest groups hstray hclosed hrest ih =>
      have hrest : ∀ c ∈ rest.getLast?, c = ')' := by
        intro c hc
        refine hend c ?_
        simp [List.getLast?_append, Option.mem_def.mp hc]
      have hwhole : (parenthesized group).count '(' = 1 + group.count '(' := by
        simp [parenthesized, Nat.add_comm]
      rw [List.count_append, List.count_append, List.count_eq_zero_of_not_mem hstray, hwhole,
        ih hrest, List.map_cons, openings_cons, hgroup]
      omega

theorem count_eq_openings {values : Text} (hend : ∀ c ∈ values.getLast?, c = ')') :
    values.count '(' = openings ((splitGroups values).map splitValues) := by
  exact count_of_scatteredGroups (scatteredGroups_splitGroups values) hend

theorem count_stripFrom_le {mark : Char} (hmark : mark ≠ ' ') (mode : CommentMode) (t : Text) :
    (stripFrom mode t).count mark ≤ t.count mark := by
  have hspace : ∀ rest, (' ' :: rest).count mark = rest.count mark :=
    fun rest => List.count_cons_of_ne hmark.symm
  fun_induction stripFrom mode t <;> simp only [hspace, List.count_cons, List.count_nil] at * <;>
    omega

/-! ## Comments that spare the groups -/

/-- Every comment stands between groups and holds no opening parenthesis. -/
inductive SparesGroups : Option Char → Text → Prop where
  | free {quote : Option Char} {t : Text} (hfree : CommentFree quote t) : SparesGroups quote t
  | comment {quote : Option Char} {front body rest : Text}
      (hfront : CommentFree quote (front ++ body.take 1)) (hcode : openQuote quote front = none)
      (hbetween : GroupScan.between.after front = .between) (hbody : IsComment body rest)
      (hopen : '(' ∉ body) (hrest : SparesGroups none rest) :
      SparesGroups quote (front ++ (body ++ rest))

/-- Behind a front without comments a comment is taken out, and none opens in its place. -/
theorem exists_stripFrom_append_comment {quote : Option Char} {front body rest : Text}
    (hfront : CommentFree quote (front ++ body.take 1)) (hcode : openQuote quote front = none)
    (hbody : IsComment body rest) :
    ∃ gap, '(' ∉ gap ∧ CommentFree none (gap ++ stripFrom .code rest) ∧
      stripFrom (.ofQuote quote) (front ++ (body ++ rest)) =
        front ++ (gap ++ stripFrom .code rest) := by
  obtain ⟨gap, hgap, hstrip⟩ := exists_stripFrom_comment hbody
  refine ⟨gap, ?_, ?_, ?_⟩
  · rcases hgap with rfl | rfl <;> decide
  · rw [← hstrip]
    exact commentFree_stripFrom .code (body ++ rest)
  · have hhead : (body ++ rest).take 1 = body.take 1 := by
      cases hbody <;> rfl
    rw [stripFrom_append (hhead ▸ hfront), hcode, CommentMode.ofQuote, hstrip]

theorem groups_stripFrom_of_sparesGroups {quote : Option Char} {t : Text}
    (h : SparesGroups quote t) (group : Text) :
    GroupScan.between.groups group (stripFrom (.ofQuote quote) t) =
      GroupScan.between.groups group t := by
  induction h generalizing group with
  | free hfree => rw [(stripFrom_eq_self_iff _ _).mpr hfree]
  | @comment quote front body rest hfront hcode hbetween hbody hopen hrest ih =>
      obtain ⟨gap, hgap, -, hstrip⟩ := exists_stripFrom_append_comment hfront hcode hbody
      obtain ⟨done, group', hread⟩ := GroupScan.exists_groups_append .between group front
      rw [hstrip, hread, hread, hbetween, GroupScan.groups_stray hgap, GroupScan.groups_stray hopen]
      exact congrArg (done ++ ·) (ih group')

/-- If the rows are the same and no parenthesis is lost, then every comment spares the groups. -/
theorem sparesGroups_of_rows_eq {quote : Option Char} {t group : Text}
    (hrows : (GroupScan.between.groups group (stripFrom (.ofQuote quote) t)).map splitValues =
      (GroupScan.between.groups group t).map splitValues)
    (hcount : t.count '(' ≤ (stripFrom (.ofQuote quote) t).count '(') : SparesGroups quote t := by
  induction hlength : t.length using Nat.strongRecOn generalizing quote t group with
  | ind length ih =>
      rcases commentFree_or_exists_comment quote t with
        hfree | ⟨front, c, d, inner, rest, rfl, hopens, hbody, hfront, hcode⟩
      · exact .free hfree
      · obtain ⟨gap, hgap, hfree, hstrip⟩ := exists_stripFrom_append_comment hfront hcode hbody
        obtain ⟨done, group', hread⟩ := GroupScan.exists_groups_append .between group front
        rw [hstrip, hread, hread, List.map_append, List.map_append] at hrows
        have hlater := List.append_cancel_left hrows
        cases hscan : GroupScan.between.after front with
        | inside s =>
            rw [hscan] at hlater
            exact absurd hlater.symm (rows_ne_of_opensComment hopens hfree s group' (inner ++ rest))
        | between =>
            have hle := count_stripFrom_le (show '(' ≠ ' ' by decide) .code rest
            rw [hstrip] at hcount
            simp only [List.count_append, List.count_eq_zero_of_not_mem hgap] at hcount
            have hopen : '(' ∉ c :: d :: inner := List.count_eq_zero.mp (by omega)
            have hshorter : rest.length < length := by
              rw [← hlength]
              simp only [List.length_append, List.length_cons]
              omega
            rw [hscan, GroupScan.groups_stray hgap, GroupScan.groups_stray hopen] at hlater
            have hrest : SparesGroups none rest := by
              refine ih rest.length hshorter hlater ?_ rfl
              show rest.count '(' ≤ (stripFrom .code rest).count '('
              omega
            exact .comment hfront hcode hscan hbody hopen hrest

/-- The rows are the same exactly if every comment spares the groups. -/
theorem rows_stripFrom_iff {quote : Option Char} {t : Text}
    (hend : ∀ c ∈ t.getLast?, c = ')')
    (hend' : ∀ c ∈ (stripFrom (.ofQuote quote) t).getLast?, c = ')') :
    (splitGroups (stripFrom (.ofQuote quote) t)).map splitValues =
      (splitGroups t).map splitValues ↔ SparesGroups quote t := by
  constructor
  · intro hrows
    have hcount : t.count '(' = (stripFrom (.ofQuote quote) t).count '(' := by
      rw [count_eq_openings hend, count_eq_openings hend', hrows]
    exact @sparesGroups_of_rows_eq quote t [] hrows hcount.le
  · intro hspares
    exact congrArg (List.map splitValues) (groups_stripFrom_of_sparesGroups hspares [])

end DumpConvert.Sql
