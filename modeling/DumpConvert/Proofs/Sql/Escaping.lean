import DumpConvert.Proofs.Sql.ValueToken
import DumpConvert.Proofs.Text.Replacing
import DumpConvert.Proofs.Value.Confinement
import Mathlib.Algebra.Group.Nat.Even

/-!
# Escaping

Escaping reads pairs of apostrophes as one and then writes every apostrophe twice.  Both
are replacements from the left (`collapse_eq_replaceAll`, `double_eq_replaceAll`), and
they meet in the runs of apostrophes: a run of any length is read as one of half the
length, rounded up, and is written as one of even length (`hasEvenRuns_double`).

So whatever is escaped becomes a single well-formed literal, and the well-formed literals
are the texts that stay as they are (`escape_spec`).
-/

namespace DumpConvert.Sql

/-! ## Pairs from the left -/

theorem foldr_collapseStep_cons_of_ne {quote c : Char} (h : c ≠ quote) (t : Text) :
    (c :: t).foldr (collapseStep quote) ([], false) = (c :: collapse quote t, false) := by
  rw [List.foldr_cons, collapseStep, if_neg h]
  rfl

theorem collapse_cons_of_ne {quote c : Char} (h : c ≠ quote) (t : Text) :
    collapse quote (c :: t) = c :: collapse quote t := by
  exact congrArg Prod.fst (foldr_collapseStep_cons_of_ne h t)

theorem collapse_pair (quote : Char) (t : Text) :
    collapse quote (quote :: quote :: t) = quote :: collapse quote t := by
  rw [collapse, collapse, List.foldr_cons, List.foldr_cons]
  -- Of the two, one pairs up with the run behind them or with the other.
  cases hdone : t.foldr (collapseStep quote) ([], false) with
  | mk done paired => cases paired <;> simp [collapseStep]

/-- A quote character that is not doubled stays. -/
theorem collapse_single {quote : Char} {t : Text} (h : t.head? ≠ some quote) :
    collapse quote (quote :: t) = quote :: collapse quote t := by
  cases t with
  | nil => simp [collapse, collapseStep]
  | cons c rest =>
      have hc : c ≠ quote := fun heq => h (by rw [heq]; rfl)
      rw [collapse, List.foldr_cons, foldr_collapseStep_cons_of_ne hc, collapse_cons_of_ne hc]
      simp [collapseStep]

theorem eq_collapse_of_replaces {quote : Char} {t u : Text}
    (h : Text.Replaces [quote, quote] [quote] t u) : u = collapse quote t := by
  induction h with
  | nil => rfl
  | @hit t u _ ih => exact (congrArg (quote :: ·) ih).trans (collapse_pair quote t).symm
  | @miss c t u hmiss _ ih =>
      rw [ih]
      by_cases hc : c = quote
      · subst hc
        refine (collapse_single fun hhead => hmiss ?_).symm
        obtain ⟨rest, rfl⟩ := List.head?_eq_some_iff.mp hhead
        exact List.prefix_append [c, c] rest
      · exact (collapse_cons_of_ne hc t).symm

/-- Collapsing replaces pairs of quote characters, taken from the left, by one. -/
theorem collapse_eq_replaceAll (quote : Char) (t : Text) :
    collapse quote t = Text.replaceAll [quote, quote] [quote] t := by
  exact (eq_collapse_of_replaces
    (Text.replaces_replaceAll (List.cons_ne_nil quote [quote]) [quote] t)).symm

theorem replaces_double (quote : Char) (t : Text) :
    Text.Replaces [quote] [quote, quote] t (double quote t) := by
  induction t with
  | nil => exact .nil
  | cons c rest ih =>
      rw [double_cons]
      by_cases hc : c = quote
      · subst hc
        rw [if_pos rfl]
        exact .hit ih
      · rw [if_neg hc]
        exact .miss (fun hprefix => hc (List.cons_prefix_cons.mp hprefix).1.symm) ih

/-- Doubling replaces every quote character by two. -/
theorem double_eq_replaceAll (quote : Char) (t : Text) :
    double quote t = Text.replaceAll [quote] [quote, quote] t := by
  exact (replaces_double quote t).eq_replaceAll (List.cons_ne_nil quote [])

/-! ## Runs of quote characters -/

/-- Every run of quote characters that no other one adjoins has even length. -/
def HasEvenRuns (quote : Char) (t : Text) : Prop :=
  ∀ (before : Text) (n : Nat) (after : Text),
    t = before ++ (List.replicate n quote ++ after) →
      before.getLast? ≠ some quote → after.head? ≠ some quote → Even n

/-- The run in front of a doubled text. -/
theorem even_of_double_eq_replicate_append {quote : Char} {t after : Text} {n : Nat}
    (h : double quote t = List.replicate n quote ++ after) (hafter : after.head? ≠ some quote) :
    Even n := by
  induction t generalizing n with
  | nil =>
      cases n with
      | zero => exact Even.zero
      | succ n => cases h
  | cons c rest ih =>
      rw [double_cons] at h
      by_cases hc : c = quote
      · subst hc
        rw [if_pos rfl] at h
        match n, h with
        | 0, h =>
            rw [List.replicate_zero, List.nil_append] at h
            rw [← h] at hafter
            exact absurd rfl hafter
        | 1, h =>
            have hrest : after = c :: double c rest := (List.cons_eq_cons.mp h).2.symm
            rw [hrest] at hafter
            exact absurd rfl hafter
        | n + 2, h =>
            have hrest : double c rest = List.replicate n c ++ after :=
              (List.cons_eq_cons.mp (List.cons_eq_cons.mp h).2).2
            exact (ih hrest).add ⟨1, rfl⟩
      · rw [if_neg hc] at h
        cases n with
        | zero => exact Even.zero
        | succ n => exact absurd (List.cons_eq_cons.mp h).1 hc

theorem hasEvenRuns_double (quote : Char) (t : Text) : HasEvenRuns quote (double quote t) := by
  induction t with
  | nil =>
      intro before n after h _ hafter
      have hnil : before = [] := (List.append_eq_nil_iff.mp h.symm).1
      rw [hnil, List.nil_append] at h
      exact even_of_double_eq_replicate_append (t := []) h hafter
  | cons c rest ih =>
      intro before n after h hbefore hafter
      cases before with
      | nil => exact even_of_double_eq_replicate_append h hafter
      | cons d more =>
          rw [double_cons] at h
          by_cases hc : c = quote
          · subst hc
            rw [if_pos rfl] at h
            obtain ⟨rfl, hmore⟩ := List.cons_eq_cons.mp h
            -- The partner of the first quote character is part of what stands before the run.
            cases more with
            | nil => exact absurd rfl hbefore
            | cons e more =>
                obtain ⟨rfl, hrest⟩ := List.cons_eq_cons.mp hmore
                refine ih more n after hrest (fun hlast => hbefore ?_) hafter
                simp [List.getLast?_cons, hlast]
          · rw [if_neg hc] at h
            refine ih more n after (List.cons_eq_cons.mp h).2 (fun hlast => hbefore ?_) hafter
            simp [List.getLast?_cons, hlast]

/-! ## Escaped texts -/

theorem IsToken.splitValues_eq {t : Text} (h : IsToken t) (hne : t ≠ []) :
    splitValues t = [t] := by
  rw [splitValues_of_avoids h.uncut, h.trimmed, dropEmptyLast, if_neg (by simpa using hne)]

namespace Literal

/--
Whatever is escaped becomes one well-formed literal: between its outer apostrophes every
run of apostrophes has even length, and a list of literals reads it as a single token.
Escaping again changes nothing, what stays as it is are exactly the well-formed literals,
and the text that such a literal stands for is not altered.
-/
theorem escape_spec (token : Text) :
    (∃ body, escape token = '\'' :: body ++ ['\''] ∧ HasEvenRuns '\'' body) ∧
      splitValues (escape token) = [escape token] ∧
      escape (escape token) = escape token ∧
      (escape token = token ↔ ∃ t, token = '\'' :: double '\'' t ++ ['\'']) ∧
      ∀ t, escape (ofText t) = ofText t ∧ text? (escape (ofText t)) = some t := by
  have hliteral : ∃ t, escape token = ofText t := ⟨_, rfl⟩
  obtain ⟨t, ht⟩ := hliteral
  refine ⟨⟨double '\'' t, ht, hasEvenRuns_double '\'' t⟩, ?_, ?_, escape_eq_self_iff token, ?_⟩
  · rw [ht]
    exact (isToken_enclose (by decide) t).splitValues_eq (List.cons_ne_nil _ _)
  · rw [ht]
    exact escape_ofText t
  · intro t
    rw [escape_ofText]
    exact ⟨rfl, text?_ofText t⟩

/-- A lone apostrophe, odd runs, and a token whose outer apostrophes belong to two literals. -/
example :
    escape "'".toList = "''''".toList ∧ escape "a'''b".toList = "'a''''b'".toList ∧
      escape "'a' || 'b'".toList = "'a'' || ''b'".toList := by
  decide

end Literal

end DumpConvert.Sql
