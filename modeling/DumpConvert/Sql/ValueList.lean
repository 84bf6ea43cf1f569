import DumpConvert.Text.Blank

/-!
# Value lists

The part of an `INSERT` after `VALUES` is a sequence of parenthesised groups, and the
inside of a group is a list of literals between commas.  Both are cut by a scan that
knows which quote is open and how many parentheses are; a comma or a closing
parenthesis counts only outside quotes.

Quotes stay in the tokens: what a token means is decided later.  A closing parenthesis
that was never opened leaves the depth at zero.
-/

namespace DumpConvert.Sql

def isValueQuote (c : Char) : Bool :=
  c == '\'' || c == '"'

/-! ## The literals of a list -/

/--
Cut the rest of a list, given the open quote, the depth and the piece read so far
(latest character first).

A doubled quote character inside a quoted part is read in one step and leaves the
quote open.  The last piece is dropped when it is blank.  The depth has no bound; in 32 bits
it is the same for every list of fewer than `2 ^ 31` parentheses.
-/
def splitFrom : Option Char → Nat → Text → Text → List Text
  | _, _, piece, [] =>
      let last := Text.trim piece.reverse
      if last.isEmpty then [] else [last]
  | some quote, depth, piece, c :: rest =>
      if c = quote then
        match rest with
        | [] => splitFrom none depth (c :: piece) []
        | d :: rest' =>
            if d = quote then splitFrom (some quote) depth (d :: c :: piece) rest'
            else splitFrom none depth (c :: piece) (d :: rest')
      else
        splitFrom (some quote) depth (c :: piece) rest
  | none, depth, piece, c :: rest =>
      if isValueQuote c then splitFrom (some c) depth (c :: piece) rest
      else if c = '(' then splitFrom none (depth + 1) (c :: piece) rest
      else if c = ')' then splitFrom none (depth - 1) (c :: piece) rest
      else if c = ',' ∧ depth = 0 then
        Text.trim piece.reverse :: splitFrom none depth [] rest
      else splitFrom none depth (c :: piece) rest

def splitValues (list : Text) : List Text :=
  splitFrom none 0 [] list

def joinValues (values : List Text) : Text :=
  Text.joinWith [',', ' '] values

/-! ## The groups of a list -/

/--
The groups of the rest of a sequence, given the open quote, the depth and the group
read so far (latest character first).

Between groups everything but an opening parenthesis is passed over.  A group that the
end of the text leaves open is kept unless it is blank.  The depth has no bound, as in
`splitFrom`.
-/
def groupsFrom : Option Char → Nat → Text → Text → List Text
  | _, depth, group, [] =>
      if 0 < depth ∧ Text.isBlankText group = false then [group.reverse] else []
  | some quote, depth, group, c :: rest =>
      if c = quote then
        match rest with
        | [] => groupsFrom none depth (c :: group) []
        | d :: rest' =>
            if d = quote then groupsFrom (some quote) depth (d :: c :: group) rest'
            else groupsFrom none depth (c :: group) (d :: rest')
      else
        groupsFrom (some quote) depth (c :: group) rest
  | none, 0, group, c :: rest =>
      if c = '(' then groupsFrom none 1 group rest else groupsFrom none 0 group rest
  | none, depth + 1, group, c :: rest =>
      if isValueQuote c then groupsFrom (some c) (depth + 1) (c :: group) rest
      else if c = '(' then groupsFrom none (depth + 2) (c :: group) rest
      else if c = ')' then
        if depth = 0 then group.reverse :: groupsFrom none 0 [] rest
        else groupsFrom none depth (c :: group) rest
      else groupsFrom none (depth + 1) (c :: group) rest

/-- The texts inside the parentheses of the groups, as they stand. -/
def splitGroups (values : Text) : List Text :=
  groupsFrom none 0 [] values

/-! ## Size of the tokens -/

theorem length_trim_le (t : Text) : (Text.trim t).length ≤ t.length := by
  have hstart : ∀ s : Text, (s.dropWhile Text.isBlank).length ≤ s.length := fun s =>
    (List.dropWhile_sublist (p := Text.isBlank) (l := s)).length_le
  have hend : (Text.trimEnd (Text.trimStart t)).length ≤ (Text.trimStart t).length := by
    simpa [Text.trimEnd] using hstart (Text.trimStart t).reverse
  exact Nat.le_trans hend (hstart t)

theorem length_le_of_mem_splitFrom
    (quote : Option Char) (depth : Nat) (piece list : Text) :
    ∀ {token : Text}, token ∈ splitFrom quote depth piece list →
      token.length ≤ piece.length + list.length := by
  fun_induction splitFrom quote depth piece list with
  | case1 quote depth piece hempty =>
      intro token hmem
      simp at hmem
  | case2 quote depth piece hempty =>
      intro token hmem
      have hlast : token = Text.trim piece.reverse := by simpa using hmem
      rw [hlast]
      simpa using length_trim_le piece.reverse
  | case10 depth piece c rest _ _ _ _ ih =>
      intro token hmem
      rcases List.mem_cons.mp hmem with rfl | htail
      · have hpiece := length_trim_le piece.reverse
        simp at hpiece ⊢
        omega
      · have hrest := ih htail
        simp at hrest ⊢
        omega
  | _ =>
      rename_i ih
      intro token hmem
      have hrest := ih hmem
      simp at hrest ⊢
      omega

/-- A token is never longer than the list it comes from. -/
theorem length_le_of_mem_splitValues
    {token list : Text} (h : token ∈ splitValues list) :
    token.length ≤ list.length := by
  simpa using length_le_of_mem_splitFrom none 0 [] list h

end DumpConvert.Sql
