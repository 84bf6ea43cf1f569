import DumpConvert.Proofs.Sql.Quoting
import DumpConvert.Proofs.Text.Scanning
import DumpConvert.Sql.Identifier

/-!
# Names of tables and columns

A name is read from the front of a text in one of four forms, three with quoting and one
without (`of_scanName?`), and a name in each form is read if what follows does not go on
with it (`scanName?_quoted`, `scanName?_bare`).  Such a name is not empty without its
quoting (`unquote_ne_nil`), and taking off quoting adds no character to a name
(`mem_of_mem_unquote`).
-/

namespace DumpConvert.Sql

/-! ## First characters -/

/-- A name begins with an ASCII letter, an underscore, or a sign that folds to a letter. -/
theorem cases_of_isNameStart {c : Char} (h : isNameStart c = true) :
    (65 ≤ c.toNat ∧ c.toNat ≤ 90) ∨ (97 ≤ c.toNat ∧ c.toNat ≤ 122) ∨
      c = '_' ∨ c = '\u017F' ∨ c = '\u212A' := by
  by_cases hlong : c = '\u017F'
  · exact .inr (.inr (.inr (.inl hlong)))
  · by_cases hkelvin : c = '\u212A'
    · exact .inr (.inr (.inr (.inr hkelvin)))
    · simp only [isNameStart, foldCase, if_neg hlong, if_neg hkelvin, Bool.or_eq_true,
        beq_iff_eq] at h
      rcases h with hletter | hunderscore
      · unfold Char.toLower at hletter
        split at hletter
        · rename_i hupper
          exact .inl (by simpa [UInt32.le_iff_toNat_le] using hupper)
        · have hlower : (decide ('a'.val ≤ c.val) && decide (c.val ≤ 'z'.val)) = true := hletter
          exact .inr (.inl (by simpa [UInt32.le_iff_toNat_le] using hlower))
      · exact .inr (.inr (.inl hunderscore))

theorem isBlank_of_isNameStart {c : Char} (h : isNameStart c = true) :
    Text.isBlank c = false := by
  rcases cases_of_isNameStart h with hupper | hlower | rfl | rfl | rfl
  · simp [Text.isBlank, Text.blankRanges, CodeRanges.holds]
    omega
  · simp [Text.isBlank, Text.blankRanges, CodeRanges.holds]
    omega
  · decide
  · decide
  · decide

theorem exists_of_holds {ranges : CodeRanges} {n : Nat} (h : ranges.holds n = true) :
    ∃ range ∈ ranges, range.1 ≤ n ∧ n < range.2 + 1 := by
  induction ranges with
  | nil => cases h
  | cons range rest ih =>
      unfold CodeRanges.holds at h
      split at h
      · cases h
      · split at h
        · exact ⟨range, List.mem_cons_self, by omega⟩
        · obtain ⟨other, hother, hbounds⟩ := ih h
          exact ⟨other, List.mem_cons_of_mem range hother, hbounds⟩

/-- A blank ends a bare name. -/
theorem continuesName_of_isBlank {c : Char} (h : Text.isBlank c = true) :
    Identifier.continuesName c = false := by
  have hdisjoint : ∀ range ∈ Text.blankRanges, ∀ k < range.2 + 1 - range.1,
      Text.wordCharRanges.holds (range.1 + k) = false := by decide +kernel
  obtain ⟨range, hrange, hlow, hhigh⟩ := exists_of_holds h
  have hcode : range.1 + (c.toNat - range.1) = c.toNat := by omega
  have hword := hdisjoint range hrange (c.toNat - range.1) (by omega)
  rw [hcode] at hword
  have hdollar : c ≠ '$' := Text.ne_of_isBlank h (by decide)
  simp [Identifier.continuesName, Text.isWordChar, hword, hdollar]

theorem continuesName_of_isNameStart {c : Char} (h : isNameStart c = true) :
    Identifier.continuesName c = true := by
  have hletters : ∀ start ∈ [65, 97], ∀ k < 26,
      Text.wordCharRanges.holds (start + k) = true := by decide +kernel
  have hletter : ∀ start ∈ [65, 97], start ≤ c.toNat → c.toNat ≤ start + 25 →
      Identifier.continuesName c = true := by
    intro start hstart hlow hhigh
    have hcode : start + (c.toNat - start) = c.toNat := by omega
    have hword := hletters start hstart (c.toNat - start) (by omega)
    rw [hcode] at hword
    simp [Identifier.continuesName, Text.isWordChar, hword]
  rcases cases_of_isNameStart h with ⟨hlow, hhigh⟩ | ⟨hlow, hhigh⟩ | rfl | rfl | rfl
  · exact hletter 65 (by simp) hlow hhigh
  · exact hletter 97 (by simp) hlow hhigh
  · decide +kernel
  · decide +kernel
  · decide +kernel

/-! ## Collapsing -/

/-- A quote character that may pair up is the first character of the text. -/
theorem ne_nil_of_foldr_collapseStep {quote : Char} (t : Text)
    (h : (t.foldr (collapseStep quote) ([], false)).2 = true) :
    (t.foldr (collapseStep quote) ([], false)).1 ≠ [] := by
  cases t with
  | nil => cases h
  | cons c rest =>
      rw [List.foldr_cons] at h ⊢
      unfold collapseStep at h ⊢
      split
      · rename_i hc
        rw [if_pos hc] at h
        split
        · rename_i hpaired
          rw [if_pos hpaired] at h
          cases h
        · exact List.cons_ne_nil _ _
      · exact List.cons_ne_nil _ _

theorem collapse_ne_nil {quote : Char} {t : Text} (h : t ≠ []) : collapse quote t ≠ [] := by
  cases t with
  | nil => exact absurd rfl h
  | cons c rest =>
      rw [collapse, List.foldr_cons]
      unfold collapseStep
      split
      · split
        · rename_i hpaired
          exact ne_nil_of_foldr_collapseStep rest hpaired
        · exact List.cons_ne_nil _ _
      · exact List.cons_ne_nil _ _

namespace Identifier

/-! ## Taking off quoting -/

theorem mem_of_mem_enclosed? {left right c : Char} {t body : Text}
    (h : enclosed? left right t = some body) (hmem : c ∈ body) : c ∈ t := by
  rw [enclosed?_eq_some_iff.mp h]
  simp [hmem]

theorem mem_of_mem_unquote {c : Char} {written : Text} (h : c ∈ unquote written) :
    c ∈ written := by
  apply Text.mem_of_mem_trim
  unfold unquote at h
  dsimp only at h
  split at h
  · rename_i body hdouble
    exact mem_of_mem_enclosed? hdouble (mem_collapse h)
  · split at h
    · rename_i body hbacktick
      exact mem_of_mem_enclosed? hbacktick (mem_collapse h)
    · cases hbracket : enclosed? '[' ']' (Text.trim written) with
      | none =>
          rw [hbracket] at h
          exact h
      | some body =>
          rw [hbracket] at h
          exact mem_of_mem_enclosed? hbracket h

theorem enclosed?_eq_none {left right c : Char} (h : c ≠ left) (rest : Text) :
    enclosed? left right (c :: rest) = none := by
  simp [enclosed?, h]

theorem unquote_ne_nil_of_isNameStart {c : Char} (h : isNameStart c = true) (rest : Text) :
    unquote (c :: rest) ≠ [] := by
  have hne : ∀ quote, isNameStart quote = false → c ≠ quote := by
    rintro quote hquote rfl
    rw [h] at hquote
    exact Bool.noConfusion hquote
  obtain ⟨more, htrim⟩ := Text.trim_cons_of_solid (isBlank_of_isNameStart h) rest
  simp only [unquote, htrim, enclosed?_eq_none (hne '"' (by decide)),
    enclosed?_eq_none (hne '\x60' (by decide)), enclosed?_eq_none (hne '[' (by decide)),
    Option.getD_none]
  exact List.cons_ne_nil c more

theorem unquote_ne_nil_of_enclosed {left right : Char} {inner : Text}
    (hpair : (left, right) ∈ [('\x60', '\x60'), ('[', ']')]) (hinner : inner ≠ []) :
    unquote (left :: inner ++ [right]) ≠ [] := by
  have hcases : (left = '\x60' ∧ right = '\x60') ∨ (left = '[' ∧ right = ']') := by
    simpa using hpair
  have htrim : Text.trim (left :: inner ++ [right]) = left :: inner ++ [right] := by
    refine trim_of_ends inner ?_ ?_ <;> rcases hcases with ⟨rfl, rfl⟩ | ⟨rfl, rfl⟩ <;> decide
  have hbody : enclosed? left right (left :: inner ++ [right]) = some inner :=
    enclosed?_eq_some_iff.mpr rfl
  have hother : ∀ quote, left ≠ quote →
      enclosed? quote quote (left :: inner ++ [right]) = none := fun quote hne =>
    enclosed?_eq_none hne (inner ++ [right])
  rcases hcases with ⟨rfl, rfl⟩ | ⟨rfl, rfl⟩
  · simp only [unquote, htrim, hother '"' (by decide), hbody]
    exact collapse_ne_nil hinner
  · simp only [unquote, htrim, hother '"' (by decide), hother '\x60' (by decide), hbody]
    exact hinner

/-! ## Names that were read -/

inductive IsQuotedName : Text → Prop where
  | doubled {name : Text} (hname : name ≠ []) : IsQuotedName (enclose '"' name)
  | backtick {name : Text} (hname : name ≠ []) (hclose : '\x60' ∉ name) :
      IsQuotedName ('\x60' :: name ++ ['\x60'])
  | bracket {name : Text} (hname : name ≠ []) (hclose : ']' ∉ name) :
      IsQuotedName ('[' :: name ++ [']'])

inductive IsBareName : Text → Prop where
  | run {first : Char} {more : Text} (hstart : isNameStart first = true)
      (hmore : ∀ c ∈ more, continuesName c = true) : IsBareName (first :: more)

theorem IsBareName.of_append {name more : Text} (h : IsBareName (name ++ more)) (hne : name ≠ []) :
    IsBareName name := by
  obtain ⟨first, rest, rfl⟩ := List.exists_cons_of_ne_nil hne
  cases h with
  | run hstart hmore => exact .run hstart fun c hc => hmore c (List.mem_append_left more hc)

/-- The name that stands in front is of the kind it is read as. -/
def Written.IsName : Written → Prop
  | .bare run _ => IsBareName run
  | .quoted name _ => IsQuotedName name

theorem exists_of_scanDoubled {done t body rest : Text}
    (h : scanDoubled done t = some (body, rest)) :
    ∃ name, body = done.reverse ++ (double '"' name ++ ['"']) ∧
      t = double '"' name ++ '"' :: rest := by
  fun_induction scanDoubled done t with
  | case1 done => cases h
  | case2 done =>
      cases h
      exact ⟨[], List.reverse_cons, rfl⟩
  | case3 done t ih =>
      obtain ⟨name, hbody, ht⟩ := ih h
      refine ⟨'"' :: name, ?_, ?_⟩
      · rw [hbody, double_cons, if_pos rfl]
        simp
      · rw [double_cons, if_pos rfl, ht]
        rfl
  | case4 done d t hd =>
      cases h
      exact ⟨[], List.reverse_cons, rfl⟩
  | case5 done c t hc ih =>
      obtain ⟨name, hbody, ht⟩ := ih h
      refine ⟨c :: name, ?_, ?_⟩
      · rw [hbody, double_cons, if_neg hc]
        simp
      · rw [double_cons, if_neg hc, ht]
        rfl

theorem exists_of_scanUntil? {close : Char} {t body rest : Text}
    (h : scanUntil? close t = some (body, rest)) :
    ∃ name, close ∉ name ∧ body = name ++ [close] ∧ t = name ++ close :: rest := by
  unfold scanUntil? at h
  rw [List.span_eq_takeWhile_dropWhile] at h
  cases hrest : t.dropWhile (· ≠ close) with
  | nil =>
      rw [hrest] at h
      cases h
  | cons c more =>
      have hc : c = close := by
        have hstop : c ∈ (t.dropWhile (· ≠ close)).head? := by
          rw [hrest]
          rfl
        simpa using Text.mem_head?_dropWhile hstop
      have hwhole : t = t.takeWhile (· ≠ close) ++ close :: more := by
        rw [hc] at hrest
        rw [← hrest, List.takeWhile_append_dropWhile]
      rw [hrest] at h
      cases h
      refine ⟨t.takeWhile (· ≠ close), fun hmem => ?_, by rw [hc], hwhole⟩
      have htaken := List.mem_takeWhile_imp hmem
      simp at htaken

theorem exists_of_quotedName {left : Char} {scanned : Option (Text × Text)} {written : Written}
    (h : quotedName left scanned = some written) :
    ∃ body rest, scanned = some (body, rest) ∧ 1 < body.length ∧
      written = .quoted (left :: body) rest := by
  unfold quotedName at h
  split at h
  · rename_i body rest
    split at h
    · cases h
    · rename_i hlong
      cases h
      exact ⟨body, rest, rfl, Nat.lt_of_not_le hlong, rfl⟩
  · cases h

/-- A name that is read stands in front of the text, and what is left follows it. -/
theorem of_scanName? {t : Text} {written : Written} (h : scanName? t = some written) :
    written.IsName ∧ t = written.name ++ written.rest := by
  cases t with
  | nil => cases h
  | cons c rest =>
      rw [scanName?] at h
      split at h
      · rename_i hc
        obtain ⟨body, after, hscan, hlong, rfl⟩ := exists_of_quotedName h
        obtain ⟨name, rfl, rfl⟩ := exists_of_scanDoubled hscan
        rw [hc]
        refine ⟨.doubled ?_, by simp [Written.name, Written.rest]⟩
        rintro rfl
        exact absurd hlong (by simp [double])
      · split at h
        · rename_i hc
          obtain ⟨body, after, hscan, hlong, rfl⟩ := exists_of_quotedName h
          obtain ⟨name, hclose, rfl, rfl⟩ := exists_of_scanUntil? hscan
          rw [hc]
          refine ⟨.backtick ?_ hclose, by simp [Written.name, Written.rest]⟩
          rintro rfl
          exact absurd hlong (by simp)
        · split at h
          · rename_i hc
            obtain ⟨body, after, hscan, hlong, rfl⟩ := exists_of_quotedName h
            obtain ⟨name, hclose, rfl, rfl⟩ := exists_of_scanUntil? hscan
            rw [hc]
            refine ⟨.bracket ?_ hclose, by simp [Written.name, Written.rest]⟩
            rintro rfl
            exact absurd hlong (by simp)
          · split at h
            · rename_i hstart
              cases h
              refine ⟨.run hstart fun d hd => List.mem_takeWhile_imp hd, ?_⟩
              exact congrArg (c :: ·) List.takeWhile_append_dropWhile.symm
            · cases h

theorem unquote_ne_nil {name : Text} (h : IsQuotedName name ∨ IsBareName name) :
    unquote name ≠ [] := by
  rcases h with hquoted | hbare
  · cases hquoted with
    | @doubled inner hinner =>
        show unquote (quote inner) ≠ []
        rw [unquote_quote]
        exact hinner
    | backtick hinner _ => exact unquote_ne_nil_of_enclosed (by decide) hinner
    | bracket hinner _ => exact unquote_ne_nil_of_enclosed (by decide) hinner
  · obtain ⟨hstart, -⟩ := hbare
    exact unquote_ne_nil_of_isNameStart hstart _

/-! ## Names that were written -/

/-- A doubled text is passed over, and the quote character after it ends the name. -/
theorem scanDoubled_double (done name : Text) {rest : Text} (hrest : rest.head? ≠ some '"') :
    scanDoubled done (double '"' name ++ '"' :: rest) =
      some (done.reverse ++ double '"' name ++ ['"'], rest) := by
  induction name generalizing done with
  | nil =>
      cases rest with
      | nil => simp [double, scanDoubled]
      | cons d more =>
          have hd : d ≠ '"' := fun heq => hrest (by rw [heq]; rfl)
          simp [double, scanDoubled, hd]
  | cons c more ih =>
      rw [double_cons]
      by_cases hc : c = '"'
      · rw [if_pos hc, hc]
        show scanDoubled ('"' :: '"' :: done) (double '"' more ++ '"' :: rest) = _
        rw [ih]
        simp
      · rw [if_neg hc]
        show scanDoubled done (c :: (double '"' more ++ '"' :: rest)) = _
        rw [scanDoubled.eq_def]
        simp only [if_neg hc]
        rw [ih]
        simp

theorem quotedName_append {left close : Char} {name rest : Text} (h : name ≠ []) :
    quotedName left (some (name ++ [close], rest)) =
      some (.quoted (left :: name ++ [close]) rest) := by
  have hlong : ¬ (name ++ [close]).length ≤ 1 := by
    simpa using h
  rw [quotedName, if_neg hlong]
  rfl

theorem scanName?_quote {name rest : Text} (hname : name ≠ []) (hrest : rest.head? ≠ some '"') :
    scanName? (quote name ++ rest) = some (.quoted (quote name) rest) := by
  have hscan : scanDoubled [] (double '"' name ++ '"' :: rest)
      = some (double '"' name ++ ['"'], rest) := scanDoubled_double [] name hrest
  have hne : double '"' name ≠ [] := by
    obtain ⟨c, more, rfl⟩ := List.exists_cons_of_ne_nil hname
    rw [double_cons]
    split <;> simp
  have hread : quote name ++ rest = '"' :: (double '"' name ++ '"' :: rest) := by
    simp [quote, enclose]
  rw [hread, scanName?, if_pos rfl, hscan, quotedName_append hne]
  rfl

theorem scanUntil?_append {close : Char} {name : Text} (h : close ∉ name) (rest : Text) :
    scanUntil? close (name ++ close :: rest) = some (name ++ [close], rest) := by
  have hopen : ∀ c ∈ name, decide (c ≠ close) = true := by
    intro c hc
    have hne : c ≠ close := by
      rintro rfl
      exact h hc
    simpa using hne
  have hstop : ∀ c ∈ (close :: rest).head?, decide (c ≠ close) = false :=
    Text.forall_mem_head?_cons (by simp) rest
  rw [scanUntil?, List.span_eq_takeWhile_dropWhile, Text.takeWhile_append hopen hstop,
    Text.dropWhile_append hopen hstop]

theorem scanName?_quoted {name rest : Text} (hname : IsQuotedName name)
    (hrest : rest.head? ≠ some '"') : scanName? (name ++ rest) = some (.quoted name rest) := by
  cases hname with
  | doubled hname => exact scanName?_quote hname hrest
  | @backtick inner hinner hclose =>
      have hread : '\x60' :: inner ++ ['\x60'] ++ rest = '\x60' :: (inner ++ '\x60' :: rest) := by
        simp
      rw [hread, scanName?, if_neg (by decide), if_pos rfl, scanUntil?_append hclose,
        quotedName_append hinner]
  | @bracket inner hinner hclose =>
      have hread : '[' :: inner ++ [']'] ++ rest = '[' :: (inner ++ ']' :: rest) := by
        simp
      rw [hread, scanName?, if_neg (by decide), if_neg (by decide), if_pos rfl,
        scanUntil?_append hclose, quotedName_append hinner]

/-- A bare name takes every character that continues it. -/
theorem scanName?_bare {run rest : Text} (hrun : IsBareName run)
    (hrest : ∀ c ∈ rest.head?, continuesName c = false) :
    scanName? (run ++ rest) = some (.bare run rest) := by
  obtain ⟨hstart, hmore⟩ := hrun
  rename_i first more
  have hne : ∀ mark, isNameStart mark = false → first ≠ mark := by
    rintro mark hmark rfl
    rw [hstart] at hmark
    cases hmark
  rw [List.cons_append, scanName?, if_neg (hne '"' (by decide)), if_neg (hne '\x60' (by decide)),
    if_neg (hne '[' (by decide)), if_pos hstart, Text.takeWhile_append hmore hrest,
    Text.dropWhile_append hmore hrest]

end Identifier

end DumpConvert.Sql
