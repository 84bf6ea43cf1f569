import DumpConvert.Proofs.Sql.ValueToken

/-!
# Groups of a value list

A scan of groups is between two groups or inside one (`GroupScan`).  Every step finishes
at most one group and leaves a part of another one (`groups_cons`), and what it finishes
closes what it opens (`Holds.read`).  So if the scan of a text ends between two groups,
the text gives nothing but such groups (`isGroup_of_mem_splitGroups`), and a sequence of
them that is written and scanned again gives the same ones (`splitGroups_joinGroups`).
-/

namespace DumpConvert.Sql

open Nesting

inductive GroupScan where
  | between
  | inside (nesting : Nesting)
deriving DecidableEq

namespace GroupScan

def quote : GroupScan → Option Char
  | between => none
  | inside s => s.quote

def depth : GroupScan → Nat
  | between => 0
  | inside s => s.depth + 1

def advance : GroupScan → Char → GroupScan
  | between, c => if c = '(' then inside top else between
  | inside s, c => if s = top ∧ c = ')' then between else inside (s.advance c)

def after (scan : GroupScan) (t : Text) : GroupScan :=
  t.foldl advance scan

/-- The groups that a character finishes, and what is read of the next one after it. -/
def read (group : Text) : GroupScan → Char → List Text × Text
  | between, _ => ([], group)
  | inside s, c => if s = top ∧ c = ')' then ([group.reverse], []) else ([], c :: group)

def groups (scan : GroupScan) (group values : Text) : List Text :=
  groupsFrom scan.quote scan.depth group values

theorem groups_cons (scan : GroupScan) (group : Text) (c : Char) (rest : Text) :
    scan.groups group (c :: rest) =
      (scan.read group c).1 ++ (scan.advance c).groups (scan.read group c).2 rest := by
  cases scan with
  | between =>
      by_cases hopen : c = '('
      · simp [groups, groupsFrom, quote, depth, read, advance, top, hopen]
      · simp [groups, groupsFrom, quote, depth, read, advance, hopen]
  | inside s =>
      by_cases hclose : s = top ∧ c = ')'
      · obtain ⟨rfl, rfl⟩ := hclose
        rfl
      · rw [read, advance, if_neg hclose, if_neg hclose]
        exact collect_cons hclose group rest

/-- A scan that has read a part of a text goes on from where it stands after that part. -/
theorem exists_groups_append (scan : GroupScan) (group front : Text) :
    ∃ done group', ∀ rest, scan.groups group (front ++ rest) =
      done ++ (scan.after front).groups group' rest := by
  induction front generalizing scan group with
  | nil => exact ⟨[], group, fun rest => rfl⟩
  | cons c more ih =>
      obtain ⟨done, group', hmore⟩ := ih (scan.advance c) (scan.read group c).2
      refine ⟨(scan.read group c).1 ++ done, group', fun rest => ?_⟩
      rw [List.cons_append, groups_cons, hmore, List.append_assoc]
      rfl

/-- Between groups everything but an opening parenthesis is passed over. -/
theorem groups_stray {stray : Text} (h : '(' ∉ stray) (group rest : Text) :
    between.groups group (stray ++ rest) = between.groups group rest := by
  induction stray with
  | nil => rfl
  | cons c more ih =>
      obtain ⟨hc, hmore⟩ := not_or.mp (mt List.mem_cons.mpr h)
      rw [List.cons_append, groups_cons, advance, if_neg (Ne.symm hc), read, ih hmore]
      rfl

/-- The group that is read runs to the first parenthesis where nothing else is open. -/
theorem head?_groups_inside (s : Nesting) (group values : Text) :
    ∀ first ∈ ((inside s).groups group values).head?,
      first = group.reverse ++ s.upTo ')' values := by
  intro first hfirst
  induction values generalizing s group with
  | nil =>
      rw [upTo, List.append_nil]
      simp only [groups, groupsFrom] at hfirst
      split at hfirst
      · exact (Option.some.inj hfirst).symm
      · cases hfirst
  | cons c rest ih =>
      rw [groups_cons] at hfirst
      by_cases hclose : s = top ∧ c = ')'
      · rw [read, if_pos hclose] at hfirst
        rw [upTo, if_pos hclose, List.append_nil]
        exact (Option.some.inj hfirst).symm
      · rw [read, advance, if_neg hclose, if_neg hclose] at hfirst
        rw [ih _ _ hfirst, upTo, if_neg hclose, List.reverse_cons, List.append_assoc]
        rfl

theorem groups_inside_ne_nil {s : Nesting} {group values : Text} {c : Char}
    (hmem : c ∈ group ++ values) (hc : Text.isBlank c = false) :
    (inside s).groups group values ≠ [] := by
  induction values generalizing s group with
  | nil =>
      rw [List.append_nil] at hmem
      simp [groups, groupsFrom, depth, Text.isBlankText_of_mem hmem hc]
  | cons d rest ih =>
      rw [groups_cons]
      by_cases hclose : s = top ∧ d = ')'
      · rw [read, if_pos hclose]
        exact List.cons_ne_nil _ _
      · rw [read, advance, if_neg hclose, if_neg hclose]
        refine ih ?_
        simpa [or_left_comm, or_assoc] using hmem

/-! ## Groups of a scan that ends between two of them -/

/-- What is read of a group shows no parenthesis that closes it. -/
def Holds (group : Text) : GroupScan → Prop
  | between => group = []
  | inside s => Avoids ')' top group.reverse ∧ top.after group.reverse = s

theorem Holds.read {scan : GroupScan} {group : Text} (h : scan.Holds group) (c : Char) :
    (∀ g ∈ (scan.read group c).1, IsGroup g) ∧
      (scan.advance c).Holds (scan.read group c).2 := by
  cases scan with
  | between =>
      refine ⟨fun g hmem => absurd hmem List.not_mem_nil, ?_⟩
      have hnil : group = [] := h
      by_cases hopen : c = '('
      · rw [advance, if_pos hopen, GroupScan.read, hnil]
        exact ⟨trivial, rfl⟩
      · rw [advance, if_neg hopen]
        exact hnil
  | inside s =>
      obtain ⟨havoids, hafter⟩ := h
      by_cases hclose : s = top ∧ c = ')'
      · rw [GroupScan.read, advance, if_pos hclose, if_pos hclose]
        refine ⟨fun g hmem => ?_, rfl⟩
        rw [List.mem_singleton.mp hmem]
        exact ⟨havoids, hafter.trans hclose.1⟩
      · rw [GroupScan.read, advance, if_neg hclose, if_neg hclose]
        refine ⟨fun g hmem => absurd hmem List.not_mem_nil, ?_, ?_⟩
        · rw [List.reverse_cons, avoids_append, hafter]
          exact ⟨havoids, hclose, trivial⟩
        · rw [List.reverse_cons, after_append, hafter]
          rfl

theorem isGroup_of_mem_groups
    {scan : GroupScan} {group values : Text} (hpart : scan.Holds group)
    (hclosed : scan.after values = between) :
    ∀ g ∈ scan.groups group values, IsGroup g := by
  induction values generalizing scan group with
  | nil =>
      have hbetween : scan = between := hclosed
      intro g hmem
      simp [hbetween, groups, groupsFrom, depth] at hmem
  | cons c rest ih =>
      obtain ⟨hfinished, hnext⟩ := hpart.read c
      intro g hmem
      rw [groups_cons] at hmem
      rcases List.mem_append.mp hmem with hnow | hlater
      · exact hfinished g hnow
      · exact ih hnext hclosed g hlater

end GroupScan

/-- The scan of the text ends outside quotes and with no parenthesis open. -/
def ClosesGroups (values : Text) : Prop :=
  (GroupScan.between.after values).quote = none ∧ (GroupScan.between.after values).depth = 0

theorem after_eq_between_of_closesGroups {values : Text} (h : ClosesGroups values) :
    GroupScan.between.after values = .between := by
  obtain ⟨-, hdepth⟩ := h
  cases hscan : GroupScan.between.after values with
  | between => rfl
  | inside s =>
      rw [hscan] at hdepth
      exact absurd hdepth (Nat.succ_ne_zero s.depth)

/-- Every group of such a text closes what it opens. -/
theorem isGroup_of_mem_splitGroups {values group : Text} (h : ClosesGroups values)
    (hmem : group ∈ splitGroups values) : IsGroup group := by
  exact @GroupScan.isGroup_of_mem_groups .between [] values rfl
    (after_eq_between_of_closesGroups h) group hmem

/-! ## Writing groups and scanning them again -/

def parenthesized (group : Text) : Text :=
  '(' :: group ++ [')']

theorem splitGroups_parenthesized {group : Text} (h : IsGroup group) (rest : Text) :
    splitGroups (parenthesized group ++ rest) = group :: splitGroups rest := by
  have hread : parenthesized group ++ rest = '(' :: (group ++ ')' :: rest) := by
    simp [parenthesized]
  rw [hread]
  show top.collect [] (group ++ ')' :: rest) = group :: groupsFrom none 0 [] rest
  rw [collect_append h.enclosed, h.balanced, collect_close, List.append_nil,
    List.reverse_reverse]

theorem splitGroups_comma (rest : Text) : splitGroups (',' :: rest) = splitGroups rest := by
  rfl

theorem splitGroups_joinGroups {groups : List Text} (h : ∀ g ∈ groups, IsGroup g) :
    splitGroups (Text.joinWith [','] (groups.map parenthesized)) = groups := by
  induction groups with
  | nil =>
      rfl
  | cons group rest ih =>
      obtain ⟨hgroup, hrest⟩ := List.forall_mem_cons.mp h
      cases rest with
      | nil =>
          have hlast := splitGroups_parenthesized hgroup []
          rw [List.append_nil] at hlast
          rw [List.map_singleton, Text.joinWith_singleton, hlast]
          rfl
      | cons next later =>
          rw [List.map_cons, Text.joinWith_cons_of_ne_nil _ _ (by simp), List.append_assoc,
            splitGroups_parenthesized hgroup, List.singleton_append, splitGroups_comma, ih hrest]

end DumpConvert.Sql
