import DumpConvert.Json.Reader
import DumpConvert.Proofs.Json.Skipping

/-!
# Texts that are read as the values they spell

A reader reads a value from a text if it does so behind any spacing and wherever the token
ends (`Reads`).  Strings and natural numbers are read from all of their spellings, and so
are lists (`reads_listOf`) and dictionaries (`reads_dictionaryOf`) whose parts are.

The loops over the items of a frame differ only in what they do with one item.  What they
have in common is stated once (`RunsOver`), and `RunsOver.append` follows the items of a
text through any of them.
-/

namespace DumpConvert.Json

/-- The text is read as the value, whatever spacing stands before it and wherever it ends. -/
structure Reads {α : Type} (reader : Reader α) (a : α) (t : Text) : Prop where
  begins : BeginsItem ']' t
  read : ∀ {gap rest : Text}, IsSpacing gap → EndsToken rest →
    reader (gap ++ (t ++ rest)) = .ok (a, rest)

theorem ok_bind {α β : Type} (a : α) (next : α → Except Fault β) :
    ((.ok a : Except Fault α) >>= next) = next a := by
  rfl

/-! ## Scalars -/

theorem reads_text {s t : Text} (h : SpellsString s t) : Reads text s t := by
  obtain ⟨inner, rfl, hinner⟩ := h
  refine ⟨⟨'"', _, rfl, by decide⟩, fun {gap rest} hgap _ => ?_⟩
  rw [List.cons_append, List.append_assoc, text, skipSpace_append_cons hgap (by decide)]
  exact stringBody_append hinner rest

theorem reads_natural {n : Nat} {t : Text} (h : SpellsNatural n t) : Reads natural n t := by
  have hread : ∀ {rest}, EndsToken rest → readNumber (t ++ rest) = .ok (.natural n, rest) :=
    fun hrest => readNumber_append h hrest
  obtain ⟨hwhole, -, -⟩ := h
  obtain ⟨c, more, rfl, hdigit⟩ := hwhole.1.exists_cons
  have hspace : isSpace c = false := isSpace_eq_false_of_isDigit hdigit
  refine ⟨⟨c, more, rfl, hspace, ?_⟩, fun {gap rest} hgap hrest => ?_⟩
  · rintro rfl
    cases hdigit
  · have hnumber := hread hrest
    rw [List.cons_append] at hnumber
    simp only [natural, List.cons_append, skipSpace_append_cons hgap hspace, if_pos (Or.inr hdigit),
      hnumber]

/-! ## Loops over items -/

/--
How a loop runs over the items of a frame.

It ends with the frame, and one step takes an item together with what stands in front of it.
-/
structure RunsOver {α β σ : Type} (spells : α → Text → Prop) (close : Char)
    (run : Nat → Bool → σ → Reader β) (take : σ → α → Option σ) (finish : σ → β) : Prop where
  close : ∀ (fuel : Nat) (first : Bool) (state : σ) {gap : Text}, IsSpacing gap →
    ∀ rest, run (fuel + 1) first state (gap ++ close :: rest) = .ok (finish state, rest)
  item : ∀ (fuel : Nat) {first : Bool} {state next : σ} {lead t : Text} {a : α} {rest : Text},
    IsLead first lead → spells a t → take state a = some next → EndsToken rest →
      run (fuel + 1) first state (lead ++ (t ++ rest)) = run fuel false next rest

section Items

variable {α : Type} {spells : α → Text → Prop} {close : Char}

theorem length_le_of_isLead {first : Bool} {lead : Text} (h : IsLead first lead) :
    cond first 0 1 ≤ lead.length := by
  cases h with
  | first => exact Nat.zero_le _
  | comma =>
      rw [List.length_append, List.length_cons, cond_false]
      omega

/-- The comma before every item but the first one, and the closing character, take their place. -/
theorem length_le_of_spellsItems {first : Bool} {items : List α} {t : Text}
    (h : SpellsItems spells close first items t) : items.length + cond first 0 1 ≤ t.length := by
  induction h with
  | @close first gap _ =>
      rw [List.length_append, List.length_nil, List.length_singleton]
      cases first <;> simp
  | @item first lead t more a items hlead ht _ ih =>
      have hleadLength := length_le_of_isLead hlead
      rw [cond_false] at ih
      simp only [List.length_append, List.length_cons]
      omega

theorem fuel_suffices {items : List α} {t : Text} (h : SpellsItems spells close true items t)
    (rest : Text) : items.length < (t ++ rest).length + 1 := by
  have hlength := length_le_of_spellsItems h
  rw [List.length_append]
  omega

theorem endsToken_items {items : List α} {t : Text}
    (h : SpellsItems spells close false items t) (hclose : close = ']' ∨ close = '}')
    (rest : Text) : EndsToken (t ++ rest) := by
  cases h with
  | close hgap =>
      rw [List.append_assoc]
      exact endsToken_mark hgap (.inr hclose) rest
  | item hlead =>
      cases hlead with
      | comma hbefore =>
          rw [List.append_assoc, List.append_assoc]
          exact endsToken_mark hbefore (.inl rfl) _

/-- A loop takes the items of a text one after the other. -/
theorem RunsOver.append {β σ : Type} {run : Nat → Bool → σ → Reader β}
    {take : σ → α → Option σ} {finish : σ → β} (h : RunsOver spells close run take finish)
    (hclose : close = ']' ∨ close = '}') {first : Bool} {items : List α} {t : Text}
    (ht : SpellsItems spells close first items t) {fuel : Nat} (hfuel : items.length < fuel)
    {state final : σ} (hfinal : items.foldlM take state = some final) (rest : Text) :
    run fuel first state (t ++ rest) = .ok (finish final, rest) := by
  induction ht generalizing fuel state with
  | @close first gap hgap =>
      obtain ⟨fuel, rfl⟩ := Nat.exists_eq_add_one.mpr hfuel
      obtain rfl : state = final := Option.some.inj hfinal
      rw [List.append_assoc]
      exact h.close fuel first state hgap rest
  | @item first lead t more a items hlead ha hmore ih =>
      obtain ⟨fuel, rfl⟩ := Nat.exists_eq_add_one.mpr (Nat.zero_lt_of_lt hfuel)
      rw [List.foldlM_cons] at hfinal
      obtain ⟨next, hnext, hfinal⟩ := Option.bind_eq_some_iff.mp hfinal
      rw [List.append_assoc, List.append_assoc,
        h.item fuel hlead ha hnext (endsToken_items hmore hclose rest)]
      exact ih (Nat.lt_of_succ_lt_succ hfuel) hfinal

end Items

/-! ## Arrays -/

theorem nextElement_close (first : Bool) {gap : Text} (hgap : IsSpacing gap) (rest : Text) :
    nextElement first (gap ++ ']' :: rest) = .ok (.close rest) := by
  simp [nextElement, skipSpace_append_cons hgap (by decide : isSpace ']' = false)]

theorem nextElement_item {first : Bool} {lead t : Text} (hlead : IsLead first lead)
    (ht : BeginsItem ']' t) : nextElement first (lead ++ t) = .ok (.item t) := by
  obtain ⟨c, more, rfl, hspace, hclose⟩ := ht
  cases hlead with
  | first hgap => simp [nextElement, skipSpace_append_cons hgap hspace, hclose]
  | comma hbefore hafter =>
      have hcomma : isSpace ',' = false := by decide
      rw [List.append_assoc, List.cons_append]
      simp [nextElement, skipSpace_append_cons hbefore hcomma,
        skipSpace_append_cons hafter hspace, hclose]

theorem runsOver_elementsFrom {α : Type} {element : Reader α} {spells : α → Text → Prop}
    (hreads : ∀ {a t}, spells a t → Reads element a t) :
    RunsOver spells ']' (elementsFrom element) (fun done a => some (a :: done)) List.reverse where
  close := by
    intro fuel first done gap hgap rest
    rw [elementsFrom, nextElement_close first hgap]
    rfl
  item := by
    intro fuel first done next lead t a rest hlead ht hnext hrest
    obtain rfl := Option.some.inj hnext
    have hread : element (t ++ rest) = .ok (a, rest) := (hreads ht).read isSpacing_nil hrest
    simp only [elementsFrom, nextElement_item hlead ((hreads ht).begins.append rest), ok_bind,
      hread]

theorem reads_listOf {α : Type} {element : Reader α} {spells : α → Text → Prop}
    (hreads : ∀ {a t}, spells a t → Reads element a t) {items : List α} {t : Text}
    (h : SpellsArray spells items t) : Reads (listOf element) items t := by
  obtain ⟨inner, rfl, hinner⟩ := h
  refine ⟨⟨'[', inner, rfl, by decide⟩, fun {gap rest} hgap _ => ?_⟩
  have hfinal : items.foldlM (fun done a => some (a :: done)) [] =
      some (items.foldl (fun done a => a :: done) []) := List.foldlM_pure
  have hread := (runsOver_elementsFrom hreads).append (.inl rfl) hinner (fuel_suffices hinner rest)
    hfinal rest
  rw [List.cons_append, listOf, skipSpace_append_cons hgap (by decide)]
  simpa using hread

/-! ## Objects -/

theorem nextKey_close (first : Bool) {gap : Text} (hgap : IsSpacing gap) (rest : Text) :
    nextKey first (gap ++ '}' :: rest) = .ok (.close rest) := by
  simp [nextKey, skipSpace_append_cons hgap (by decide : isSpace '}' = false)]

theorem nextKey_item {first : Bool} {lead : Text} (hlead : IsLead first lead) (body : Text) :
    nextKey first (lead ++ '"' :: body) = .ok (.item body) := by
  have hquote : isSpace '"' = false := by decide
  cases hlead with
  | first hgap => simp [nextKey, skipSpace_append_cons hgap hquote]
  | comma hbefore hafter =>
      have hcomma : isSpace ',' = false := by decide
      rw [List.append_assoc, List.cons_append]
      simp [nextKey, skipSpace_append_cons hbefore hcomma, skipSpace_append_cons hafter hquote]

/-- A member is read in three parts: its key, the colon, and the value behind some spacing. -/
theorem SpellsMember.exists_parts {key t : Text} {isValue : Text → Prop}
    (h : SpellsMember key isValue t) (rest : Text) :
    ∃ body afterKey gap value, t ++ rest = '"' :: body ∧
      stringBody body = .ok (key, afterKey) ∧
      expectColon afterKey = .ok (gap ++ (value ++ rest)) ∧ IsSpacing gap ∧ isValue value := by
  obtain ⟨keyText, before, gap, value, ⟨inner, rfl, hinner⟩, hbefore, hgap, hvalue, rfl⟩ := h
  refine ⟨inner ++ '"' :: (before ++ ':' :: (gap ++ (value ++ rest))), _, gap, value, ?_,
    stringBody_append hinner _, expectColon_append hbefore _, hgap, hvalue⟩
  simp

theorem runsOver_entriesFrom {α : Type} {value : Reader α} {spells : α → Text → Prop}
    (hreads : ∀ {a t}, spells a t → Reads value a t) :
    RunsOver (fun entry : Text × α => SpellsMember entry.1 (spells entry.2)) '}'
      (entriesFrom value) (fun done entry => some (done.insert entry.1 entry.2)) id where
  close := by
    intro fuel first done gap hgap rest
    rw [entriesFrom, nextKey_close first hgap]
    rfl
  item := by
    intro fuel first done next lead t entry rest hlead ht hnext hrest
    obtain rfl := Option.some.inj hnext
    obtain ⟨body, afterKey, gap, valueText, heq, hkey, hcolon, hgap, hvalue⟩ :=
      ht.exists_parts rest
    have hread := (hreads hvalue).read hgap hrest
    simp only [heq, entriesFrom, nextKey_item hlead, ok_bind, hkey, hcolon, hread]

theorem reads_dictionaryOf {α : Type} {value : Reader α} {spells : α → Text → Prop}
    (hreads : ∀ {a t}, spells a t → Reads value a t) {dictionary : Dictionary α} {t : Text}
    (h : SpellsDictionary spells dictionary t) : Reads (dictionaryOf value) dictionary t := by
  obtain ⟨entries, rfl, inner, rfl, hinner⟩ := h
  refine ⟨⟨'{', inner, rfl, by decide⟩, fun {gap rest} hgap _ => ?_⟩
  have hfinal : entries.foldlM (fun done entry => some (done.insert entry.1 entry.2)) .empty =
      some (Dictionary.ofList entries) := List.foldlM_pure
  have hread := (runsOver_entriesFrom hreads).append (.inr rfl) hinner (fuel_suffices hinner rest)
    hfinal rest
  rw [List.cons_append, dictionaryOf, skipSpace_append_cons hgap (by decide)]
  exact hread

/-! ## Whole texts -/

theorem readAll_of_isDocument {α : Type} {reader : Reader α} {a : α} {isValue : Text → Prop}
    (hreads : ∀ {t}, isValue t → Reads reader a t) {file : Text} (h : IsDocument isValue file) :
    readAll reader file = .ok a := by
  obtain ⟨before, value, after, hbefore, hvalue, hafter, rfl⟩ := h
  have hends : EndsToken after := by
    rw [← List.append_nil after]
    exact endsToken_of_isSpacing hafter (fun c hc => by cases hc)
  have hread := (hreads hvalue).read hbefore hends
  simp [readAll, hread, ok_bind, skipSpace_eq_nil hafter]

end DumpConvert.Json
