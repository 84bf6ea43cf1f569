import DumpConvert.Json.Reader
import DumpConvert.Proofs.Json.Number

/-!
# Values that are passed over

Any JSON value is passed over as a whole, however deeply its arrays and objects are nested
(`skipValue_append`).  The passage keeps the stack of open frames: a value leaves the stack
as it was, and the inside of a frame closes this frame and no other one
(`IsJson.passesOver`).  Fewer than two steps are needed for every character.
-/

namespace DumpConvert.Json

/-! ## Scalars -/

/-- The text is passed over in one step, and neither opens nor closes a frame. -/
def IsPassedScalar (t : Text) : Prop :=
  ∃ c more, t = c :: more ∧ isSpace c = false ∧ c ∉ ['[', '{', ']'] ∧
    ∀ rest, EndsToken rest → skipScalar c (more ++ rest) = .ok rest

theorem expectName_append (name rest : Text) : expectName name (name ++ rest) = .ok rest := by
  induction name with
  | nil => rfl
  | cons c more ih =>
      rw [List.cons_append, expectName, if_pos rfl]
      exact ih

theorem isPassedScalar_name {t : Text} (h : t ∈ ["null".toList, "true".toList, "false".toList]) :
    IsPassedScalar t := by
  have hname : ∃ c more, t = c :: more ∧ isSpace c = false ∧ c ∉ ['[', '{', ']'] ∧ c ≠ '"' ∧
      ¬ (c = '-' ∨ c.isDigit = true) ∧ nameOf? c = some t := by
    simp only [List.mem_cons, List.not_mem_nil, or_false] at h
    rcases h with rfl | rfl | rfl
    · exact ⟨'n', _, rfl, by decide⟩
    · exact ⟨'t', _, rfl, by decide⟩
    · exact ⟨'f', _, rfl, by decide⟩
  obtain ⟨c, more, rfl, hspace, hframe, hquote, hnumber, hname⟩ := hname
  refine ⟨c, more, rfl, hspace, hframe, fun rest _ => ?_⟩
  rw [skipScalar, if_neg hquote, if_neg hnumber, hname]
  exact expectName_append (c :: more) rest

theorem isPassedScalar_string {t : Text} (h : IsString t) : IsPassedScalar t := by
  obtain ⟨inner, rfl, hinner⟩ := h
  refine ⟨'"', inner ++ ['"'], rfl, by decide, by decide, fun rest _ => ?_⟩
  rw [skipScalar, if_pos rfl, List.append_assoc]
  exact skipStringBody_append hinner rest

theorem exists_head_number {t : Text} (h : IsNumber t) :
    ∃ c more, t = c :: more ∧ (c = '-' ∨ c.isDigit = true) := by
  cases h with
  | @parts sign whole fraction exponent hsign hwhole hfraction hexponent =>
      rcases hsign with rfl | rfl
      · obtain ⟨c, more, rfl, hdigit⟩ := hwhole.1.exists_cons
        exact ⟨c, _, rfl, .inr hdigit⟩
      · exact ⟨'-', _, rfl, .inl rfl⟩

theorem isPassedScalar_number {t : Text} (h : IsNumber t) : IsPassedScalar t := by
  obtain ⟨c, more, rfl, hc⟩ := exists_head_number h
  have hother : isSpace c = false ∧ c ∉ ['[', '{', ']'] ∧ c ≠ '"' := by
    rcases hc with rfl | hdigit
    · decide
    · refine ⟨isSpace_eq_false_of_isDigit hdigit, ?_, ?_⟩
      · simp only [List.mem_cons, List.not_mem_nil, or_false]
        rintro (rfl | rfl | rfl) <;> cases hdigit
      · rintro rfl
        cases hdigit
  refine ⟨c, more, rfl, hother.1, hother.2.1, fun rest hrest => ?_⟩
  rw [skipScalar, if_neg hother.2.2, if_pos hc]
  exact skipNumber_append h hrest

/-! ## How an item begins -/

def BeginsItem (close : Char) (t : Text) : Prop :=
  ∃ c more, t = c :: more ∧ isSpace c = false ∧ c ≠ close

theorem BeginsItem.append {close : Char} {t : Text} (h : BeginsItem close t) (rest : Text) :
    BeginsItem close (t ++ rest) := by
  obtain ⟨c, more, rfl, hspace, hclose⟩ := h
  exact ⟨c, more ++ rest, rfl, hspace, hclose⟩

theorem IsPassedScalar.beginsItem {t : Text} (h : IsPassedScalar t) : BeginsItem ']' t := by
  obtain ⟨c, more, rfl, hspace, hframe, -⟩ := h
  refine ⟨c, more, rfl, hspace, ?_⟩
  rintro rfl
  exact hframe (by decide)

theorem IsJson.beginsItem {t : Text} (h : IsJson .value t) : BeginsItem ']' t := by
  cases h with
  | name h => exact (isPassedScalar_name h).beginsItem
  | number h => exact (isPassedScalar_number h).beginsItem
  | string h => exact (isPassedScalar_string h).beginsItem
  | @frame frame t _ => cases frame <;> exact ⟨_, t, rfl, by decide⟩

/-- A key begins with its quote character, and the items of an array are values. -/
theorem beginsItem_label {frame : Frame} {label t : Text} (hlabel : IsLabel frame label)
    (ht : IsJson .value t) (rest : Text) : BeginsItem frame.close (label ++ (t ++ rest)) := by
  cases frame with
  | array =>
      obtain rfl : label = [] := hlabel
      exact ht.beginsItem.append rest
  | object =>
      obtain ⟨key, before, after, ⟨inner, rfl, -⟩, -, -, rfl⟩ := hlabel
      exact ⟨'"', _, rfl, by decide⟩

/-- What stands in front of a value is passed over but for the spacing before the value. -/
theorem exists_skipToValue {frame : Frame} {gap label : Text} (hgap : IsSpacing gap)
    (hlabel : IsLabel frame label) (t : Text) :
    ∃ after, IsSpacing after ∧ skipToValue frame (gap ++ (label ++ t)) = .ok (after ++ t) := by
  cases frame with
  | array =>
      obtain rfl : label = [] := hlabel
      exact ⟨gap, hgap, rfl⟩
  | object =>
      obtain ⟨key, before, after, ⟨inner, rfl, hinner⟩, hbefore, hafter, rfl⟩ := hlabel
      refine ⟨after, hafter, ?_⟩
      have hregroup : gap ++ ('"' :: (inner ++ ['"']) ++ (before ++ ':' :: after) ++ t) =
          gap ++ '"' :: (inner ++ '"' :: (before ++ ':' :: (after ++ t))) := by
        simp
      rw [hregroup, skipToValue, skipKey, skipSpace_append_cons hgap (by decide)]
      show (skipStringBody _ >>= fun rest => expectColon rest) = _
      rw [skipStringBody_append hinner]
      exact expectColon_append hbefore (after ++ t)

/-! ## Steps -/

def expectingItem : Bool → Expecting
  | true => .first
  | false => .next

section Steps

variable {frames outer : List Frame} {frame : Frame} {gap t more : Text} {c : Char} (fuel : Nat)

theorem skipFrom_value_cons (h : skipSpace t = c :: more) :
    skipFrom (fuel + 1) frames .value t =
      if c = '[' then skipFrom fuel (.array :: frames) .first more
      else if c = '{' then skipFrom fuel (.object :: frames) .first more
      else skipScalar c more >>= skipFrom fuel frames .next := by
  conv => lhs; unfold skipFrom
  rw [h]

theorem skipFrom_first_cons (h : skipSpace t = c :: more) :
    skipFrom (fuel + 1) (frame :: outer) .first t =
      if c = frame.close then skipFrom fuel outer .next more
      else skipToValue frame (c :: more) >>= skipFrom fuel (frame :: outer) .value := by
  conv => lhs; unfold skipFrom
  rw [h]

theorem skipFrom_next_cons (h : skipSpace t = c :: more) :
    skipFrom (fuel + 1) (frame :: outer) .next t =
      if c = frame.close then skipFrom fuel outer .next more
      else if c = ',' then skipToValue frame more >>= skipFrom fuel (frame :: outer) .value
      else .error .malformed := by
  conv => lhs; unfold skipFrom
  rw [h]

theorem skipFrom_value_gap (hgap : IsSpacing gap) (t : Text) :
    skipFrom fuel frames .value (gap ++ t) = skipFrom fuel frames .value t := by
  cases fuel with
  | zero => rfl
  | succ fuel =>
      unfold skipFrom
      rw [skipSpace_append hgap]
      cases skipSpace t <;> rfl

theorem skipFrom_scalar {rest : Text} (h : IsPassedScalar t) (hrest : EndsToken rest) :
    skipFrom (fuel + 1) frames .value (t ++ rest) = skipFrom fuel frames .next rest := by
  obtain ⟨c, more, rfl, hspace, hframe, hskip⟩ := h
  simp only [List.mem_cons, List.not_mem_nil, or_false, not_or] at hframe
  obtain ⟨harray, hobject, -⟩ := hframe
  rw [List.cons_append, skipFrom_value_cons fuel (skipSpace_cons hspace (more ++ rest)),
    if_neg harray, if_neg hobject, hskip rest hrest]
  rfl

theorem skipFrom_opening (t : Text) :
    skipFrom (fuel + 1) frames .value (frame.opening :: t) =
      skipFrom fuel (frame :: frames) .first t := by
  cases frame <;> rfl

theorem skipFrom_close (first : Bool) (hgap : IsSpacing gap) (rest : Text) :
    skipFrom (fuel + 1) (frame :: outer) (expectingItem first) (gap ++ frame.close :: rest) =
      skipFrom fuel outer .next rest := by
  have hspace : isSpace frame.close = false := by cases frame <;> decide
  have hskip := skipSpace_append_cons hgap hspace rest
  cases first with
  | true => exact (skipFrom_first_cons fuel hskip).trans (if_pos rfl)
  | false => exact (skipFrom_next_cons fuel hskip).trans (if_pos rfl)

theorem skipFrom_item {first : Bool} {lead label : Text} (hlead : IsLead first lead)
    (hlabel : IsLabel frame label) (ht : IsJson .value t) (rest : Text) :
    skipFrom (fuel + 1) (frame :: outer) (expectingItem first) (lead ++ (label ++ (t ++ rest))) =
      skipFrom fuel (frame :: outer) .value (t ++ rest) := by
  cases hlead with
  | first hgap =>
      obtain ⟨after, hafter, hskip⟩ := exists_skipToValue isSpacing_nil hlabel (t ++ rest)
      obtain ⟨c, more, heq, hspace, hclose⟩ := beginsItem_label hlabel ht rest
      have hspaces := skipSpace_append_cons hgap hspace more
      rw [List.nil_append, heq] at hskip
      rw [heq, expectingItem, skipFrom_first_cons fuel hspaces, if_neg hclose, hskip]
      exact skipFrom_value_gap fuel hafter (t ++ rest)
  | @comma before gap hbefore hgap =>
      obtain ⟨after, hafter, hskip⟩ := exists_skipToValue hgap hlabel (t ++ rest)
      have hclose : ',' ≠ frame.close := by cases frame <;> decide
      have hcomma : isSpace ',' = false := by decide
      have hspaces := skipSpace_append_cons hbefore hcomma (gap ++ (label ++ (t ++ rest)))
      rw [List.append_assoc, List.cons_append, expectingItem, skipFrom_next_cons fuel hspaces,
        if_neg hclose, if_pos rfl, hskip]
      exact skipFrom_value_gap fuel hafter (t ++ rest)

end Steps

/-! ## Whole values -/

namespace Category

/-- The open frames before a text of the category, if those in `outer` are open behind it. -/
def frames (outer : List Frame) : Category → List Frame
  | .value => outer
  | .items frame _ => frame :: outer

def expecting : Category → Expecting
  | .value => .value
  | .items _ first => expectingItem first

/-- The steps to spare within two steps for every character. -/
def spare : Category → Nat
  | .value => 1
  | .items _ _ => 0

end Category

def PassesOver (category : Category) (t : Text) (steps : Nat) : Prop :=
  ∀ (outer : List Frame) (fuel : Nat) (rest : Text), EndsToken rest →
    skipFrom (fuel + steps) (category.frames outer) category.expecting (t ++ rest) =
      skipFrom fuel outer .next rest

theorem IsPassedScalar.passesOver {t : Text} (h : IsPassedScalar t) :
    ∃ steps, steps + Category.value.spare ≤ 2 * t.length ∧ PassesOver .value t steps := by
  refine ⟨1, ?_, fun outer fuel rest hrest => skipFrom_scalar fuel h hrest⟩
  obtain ⟨c, more, rfl, -⟩ := h
  rw [List.length_cons, Category.spare]
  omega

theorem endsToken_more {frame : Frame} {t : Text} (h : IsJson (.items frame false) t)
    (rest : Text) : EndsToken (t ++ rest) := by
  cases h with
  | close hgap =>
      have hmark : frame.close = ',' ∨ frame.close = ']' ∨ frame.close = '}' := by
        cases frame <;> decide
      rw [List.append_assoc]
      exact endsToken_mark hgap hmark rest
  | item hlead =>
      cases hlead with
      | comma hbefore =>
          rw [List.append_assoc, List.append_assoc]
          exact endsToken_mark hbefore (.inl rfl) _

/-- Every text of a category is passed over, in less than two steps for every character. -/
theorem IsJson.passesOver {category : Category} {t : Text} (h : IsJson category t) :
    ∃ steps, steps + category.spare ≤ 2 * t.length ∧ PassesOver category t steps := by
  induction h with
  | name h => exact (isPassedScalar_name h).passesOver
  | number h => exact (isPassedScalar_number h).passesOver
  | string h => exact (isPassedScalar_string h).passesOver
  | @frame frame t _ ih =>
      obtain ⟨steps, hsteps, hpass⟩ := ih
      refine ⟨steps + 1, ?_, fun outer fuel rest hrest => ?_⟩
      · simp only [Category.spare, List.length_cons] at hsteps ⊢
        omega
      · exact (skipFrom_opening (fuel + steps) (t ++ rest)).trans (hpass outer fuel rest hrest)
  | @close frame first gap hgap =>
      refine ⟨1, ?_, fun outer fuel rest _ => ?_⟩
      · rw [List.length_append, Category.spare, List.length_singleton]
        omega
      · rw [List.append_assoc]
        exact skipFrom_close fuel first hgap rest
  | @item frame first lead label t more hlead hlabel ht hmore iht ihmore =>
      obtain ⟨steps, hsteps, hpass⟩ := iht
      obtain ⟨moreSteps, hmoreSteps, hpassMore⟩ := ihmore
      refine ⟨moreSteps + steps + 1, ?_, fun outer fuel rest hrest => ?_⟩
      · simp only [Category.spare, List.length_append] at hsteps hmoreSteps ⊢
        omega
      · have hvalue := hpass (frame :: outer) (fuel + moreSteps) _ (endsToken_more hmore rest)
        simp only [List.append_assoc, ← Nat.add_assoc]
        refine (skipFrom_item _ hlead hlabel ht (more ++ rest)).trans ?_
        exact hvalue.trans (hpassMore outer fuel rest hrest)

/-- A JSON value is passed over as a whole. -/
theorem skipValue_append {gap t rest : Text} (hgap : IsSpacing gap) (ht : IsJson .value t)
    (hrest : EndsToken rest) : skipValue (gap ++ (t ++ rest)) = .ok rest := by
  obtain ⟨steps, hsteps, hpass⟩ := ht.passesOver
  have hfuel : 2 * (gap ++ (t ++ rest)).length + 2 =
      (2 * (gap ++ (t ++ rest)).length + 1 - steps) + 1 + steps := by
    simp only [Category.spare, List.length_append] at hsteps ⊢
    omega
  rw [skipValue, skipFrom_value_gap _ hgap, hfuel]
  exact hpass [] _ rest hrest

end DumpConvert.Json
