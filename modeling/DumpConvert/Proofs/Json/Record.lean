import DumpConvert.Proofs.Json.Reading
import Mathlib.Data.List.Nodup

/-!
# Records that are read

A record begins in a state of its own, and every field that is read puts its value into
this state.  An object and an array with the same settings put them in turn
(`FieldReaders.reads_record`), and because no field is set twice, the order in which they
are put shows nowhere: what stands in a field at the end is the value given for it, or
else what stood there in the beginning (`FieldReaders.get_fill`).
-/

namespace DumpConvert.Json

/--
How the fields of a record are read into a state.

Every value is read from all of its spellings, and no two fields share a key.
-/
structure FieldReaders (format : RecordFormat) (σ : Type) where
  read : (name : format.Name) → Reader (format.Value name)
  put : (name : format.Name) → σ → format.Value name → σ
  reads : ∀ {name value t}, format.spells name value t → Reads (read name) value t
  complete : ∀ name, name ∈ format.order
  distinct : (format.order.map format.key).Nodup

namespace FieldReaders

variable {format : RecordFormat} {σ : Type} (readers : FieldReaders format σ)

def field (name : format.Name) : Field σ :=
  .of (format.key name) (readers.read name) (readers.put name)

def fields : List (Field σ) :=
  format.order.map readers.field

def fill (state : σ) (settings : List format.Setting) : σ :=
  settings.foldl (fun state setting => readers.put setting.1 state setting.2) state

/-! ## Fields by their keys -/

include readers in
theorem key_injective {name other : format.Name} (h : format.key name = format.key other) :
    name = other := by
  exact List.inj_on_of_nodup_map readers.distinct (readers.complete name)
    (readers.complete other) h

theorem find?_key (name : format.Name) :
    readers.fields.find? (fun field => field.key == format.key name) =
      some (readers.field name) := by
  have hfound : format.order.find? (fun other => format.key other == format.key name) =
      some name := by
    cases hfind : format.order.find? (fun other => format.key other == format.key name) with
    | none =>
        have hnone := List.find?_eq_none.mp hfind name (readers.complete name)
        exact absurd (beq_self_eq_true _) hnone
    | some other =>
        have hkey : format.key other = format.key name := by
          simpa using List.find?_some hfind
        rw [readers.key_injective hkey]
  rw [fields, List.find?_map]
  exact congrArg (Option.map readers.field) hfound

theorem find?_unknown {key : Text} (h : ∀ name, format.key name ≠ key) :
    readers.fields.find? (fun field => field.key == key) = none := by
  refine List.find?_eq_none.mpr fun field hfield => ?_
  obtain ⟨name, -, rfl⟩ := List.mem_map.mp hfield
  simpa [field, Field.of] using h name

theorem field_read {setting : format.Setting} {t gap rest : Text}
    (h : format.spells setting.1 setting.2 t) (hgap : IsSpacing gap) (hrest : EndsToken rest)
    (state : σ) :
    (readers.field setting.1).read state (gap ++ (t ++ rest)) =
      .ok (readers.put setting.1 state setting.2, rest) := by
  have hread := (readers.reads h).read hgap hrest
  show (readers.read setting.1 (gap ++ (t ++ rest))).map _ = _
  rw [hread]
  rfl

/-! ## Objects -/

/-- Take a member into the known keys seen so far and the state, unless its key was seen. -/
def takeMember (progress : List Text × σ) : format.Member → Option (List Text × σ)
  | .known setting =>
      if progress.1.contains (format.key setting.1) then none
      else
        some (format.key setting.1 :: progress.1, readers.put setting.1 progress.2 setting.2)
  | .unknown _ => some progress

theorem runsOver_membersFrom :
    RunsOver RecordFormat.Member.Spells '}'
      (fun fuel first (progress : List Text × σ) =>
        membersFrom readers.fields fuel first progress.1 progress.2)
      readers.takeMember Prod.snd where
  close := by
    intro fuel first progress gap hgap rest
    rw [membersFrom, nextKey_close first hgap]
    rfl
  item := by
    intro fuel first progress next lead t member rest hlead ht hnext hrest
    cases member with
    | known setting =>
        obtain ⟨body, afterKey, gap, value, heq, hkey, hcolon, hgap, hvalue⟩ :=
          SpellsMember.exists_parts ht rest
        have hread := readers.field_read hvalue hgap hrest progress.2
        rw [takeMember] at hnext
        split at hnext
        · cases hnext
        · rename_i hunseen
          obtain rfl := Option.some.inj hnext
          simp only [heq, membersFrom, nextKey_item hlead, ok_bind, hkey, readers.find?_key,
            if_neg hunseen, hcolon, hread]
    | unknown key =>
        obtain ⟨hunknown, hmember⟩ := ht
        obtain ⟨body, afterKey, gap, value, heq, hkey, hcolon, hgap, hvalue⟩ :=
          SpellsMember.exists_parts hmember rest
        obtain rfl := Option.some.inj hnext
        have hskip := skipValue_append hgap hvalue hrest
        simp only [heq, membersFrom, nextKey_item hlead, ok_bind, hkey,
          readers.find?_unknown hunknown, hcolon, hskip]

/-- Members whose known keys do not repeat are all taken. -/
theorem exists_foldlM_takeMember {members : List format.Member} {seen : List Text} (state : σ)
    (hnodup : ((members.filterMap RecordFormat.Member.setting?).map Sigma.fst).Nodup)
    (hseen : ∀ setting ∈ members.filterMap RecordFormat.Member.setting?,
      format.key setting.1 ∉ seen) :
    ∃ keys, members.foldlM readers.takeMember (seen, state) =
      some (keys, readers.fill state (members.filterMap RecordFormat.Member.setting?)) := by
  induction members generalizing seen state with
  | nil => exact ⟨seen, rfl⟩
  | cons member more ih =>
      cases member with
      | known setting =>
          have hsettings : (RecordFormat.Member.known setting :: more).filterMap
              RecordFormat.Member.setting? =
                setting :: more.filterMap RecordFormat.Member.setting? := by
            rfl
          rw [hsettings] at hnodup hseen ⊢
          rw [List.map_cons, List.nodup_cons] at hnodup
          obtain ⟨hunseen, hrest⟩ := List.forall_mem_cons.mp hseen
          have htake : readers.takeMember (seen, state) (.known setting) =
              some (format.key setting.1 :: seen, readers.put setting.1 state setting.2) := by
            exact if_neg (by simpa using hunseen)
          have hfresh : ∀ other ∈ more.filterMap RecordFormat.Member.setting?,
              format.key other.1 ∉ format.key setting.1 :: seen := by
            intro other hother hmem
            rcases List.mem_cons.mp hmem with hkey | hmem
            · have hname := readers.key_injective hkey
              exact hnodup.1 (hname ▸ List.mem_map_of_mem hother)
            · exact hrest other hother hmem
          rw [List.foldlM_cons, htake]
          exact ih (readers.put setting.1 state setting.2) hnodup.2 hfresh
      | unknown key =>
          exact ih state hnodup hseen

theorem membersFrom_append {members : List format.Member} {t : Text}
    (ht : SpellsItems RecordFormat.Member.Spells '}' true members t)
    (hnodup : ((members.filterMap RecordFormat.Member.setting?).map Sigma.fst).Nodup)
    (state : σ) (rest : Text) :
    membersFrom readers.fields ((t ++ rest).length + 1) true [] state (t ++ rest) =
      .ok (readers.fill state (members.filterMap RecordFormat.Member.setting?), rest) := by
  have hseen : ∀ setting ∈ members.filterMap RecordFormat.Member.setting?,
      format.key setting.1 ∉ ([] : List Text) := fun _ _ => List.not_mem_nil
  obtain ⟨keys, hfinal⟩ := readers.exists_foldlM_takeMember state hnodup hseen
  exact readers.runsOver_membersFrom.append (.inr rfl) ht (fuel_suffices ht rest) hfinal rest

/-! ## Arrays -/

theorem fieldsInOrder_append {first : Bool} {settings : List format.Setting} {t : Text}
    (ht : SpellsItems (fun setting => format.spells setting.1 setting.2) ']' first settings t)
    {names : List format.Name} (hnames : settings.map Sigma.fst <+: names) (state : σ)
    (rest : Text) :
    fieldsInOrder (names.map readers.field) first state (t ++ rest) =
      .ok (readers.fill state settings, rest) := by
  induction ht generalizing names state with
  | @close first gap hgap =>
      rw [List.append_assoc, List.singleton_append]
      cases names with
      | nil =>
          simp only [List.map_nil, fieldsInOrder]
          rw [skipSpace_append_cons hgap (by decide)]
          rfl
      | cons name names =>
          rw [List.map_cons, fieldsInOrder, nextElement_close first hgap]
          rfl
  | @item first lead t more setting settings hlead hsetting hmore ih =>
      obtain ⟨others, rfl⟩ := hnames
      have hends := endsToken_items hmore (.inl rfl) rest
      have hread : (readers.field setting.1).read state (t ++ (more ++ rest)) = _ :=
        readers.field_read hsetting isSpacing_nil hends state
      have hbegins := (readers.reads hsetting).begins.append (more ++ rest)
      simp only [List.map_cons, List.cons_append, List.append_assoc, fieldsInOrder,
        nextElement_item hlead hbegins, ok_bind, hread]
      exact ih (List.prefix_append _ others) (readers.put setting.1 state setting.2)

/-! ## Both forms -/

/-- From either form the settings are put into the state in turn. -/
theorem exists_record_append {α : Type} {shape : Shape σ α}
    (hfields : shape.fields = readers.fields) {contents : format.Contents} {t : Text}
    (h : format.Spells contents t) :
    ∃ settings, format.IsChoice contents settings ∧ ∀ {gap rest : Text}, IsSpacing gap →
      record shape (gap ++ (t ++ rest)) =
        shape.complete (readers.fill shape.start settings, rest) := by
  rcases h with ⟨members, ⟨inner, rfl, hinner⟩, hchoice⟩ |
    ⟨settings, ⟨inner, rfl, hinner⟩, hnames, hchoice⟩
  · refine ⟨_, hchoice, fun {gap rest} hgap => ?_⟩
    have hread := readers.membersFrom_append hinner hchoice.nodup shape.start rest
    rw [← hfields] at hread
    rw [List.cons_append, record, skipSpace_append_cons hgap (by decide)]
    simp only [hread, ok_bind]
  · refine ⟨settings, hchoice, fun {gap rest} hgap => ?_⟩
    have hread := readers.fieldsInOrder_append hinner hnames shape.start rest
    rw [← fields, ← hfields] at hread
    rw [List.cons_append, record, skipSpace_append_cons hgap (by decide)]
    simp only [hread, ok_bind]

omit readers in
theorem beginsItem_record {contents : format.Contents} {t : Text}
    (h : format.Spells contents t) : BeginsItem ']' t := by
  rcases h with ⟨members, ⟨inner, rfl, -⟩, -⟩ | ⟨settings, ⟨inner, rfl, -⟩, -⟩
  · exact ⟨'{', inner, rfl, by decide⟩
  · exact ⟨'[', inner, rfl, by decide⟩

/-- A record is read if it is what the settings of the choice, in any order, lead to. -/
theorem reads_record {α : Type} {shape : Shape σ α} (hfields : shape.fields = readers.fields)
    {contents : format.Contents} {a : α}
    (hfinish : ∀ settings, format.IsChoice contents settings →
      shape.finish (readers.fill shape.start settings) = some a)
    {t : Text} (h : format.Spells contents t) : Reads (record shape) a t := by
  obtain ⟨settings, hchoice, hread⟩ := readers.exists_record_append hfields h
  refine ⟨beginsItem_record h, fun {gap rest} hgap _ => ?_⟩
  rw [hread hgap, Shape.complete]
  simp only [hfinish settings hchoice]

/-! ## What stands in a field -/

section Get

variable {γ : Type} {name : format.Name} (get : σ → γ)
  (hother : ∀ (state : σ) (other : format.Name) (value : format.Value other), other ≠ name →
    get (readers.put other state value) = get state)
include hother

theorem get_fill_of_notMem {settings : List format.Setting}
    (h : name ∉ settings.map Sigma.fst) (state : σ) :
    get (readers.fill state settings) = get state := by
  induction settings generalizing state with
  | nil => rfl
  | cons setting more ih =>
      rw [List.map_cons, List.mem_cons, not_or] at h
      obtain ⟨hne, hmore⟩ := h
      exact (ih hmore (readers.put setting.1 state setting.2)).trans
        (hother state setting.1 setting.2 (Ne.symm hne))

variable (keep : format.Value name → γ)
  (hself : ∀ (state : σ) (value : format.Value name),
    get (readers.put name state value) = keep value)
include hself

theorem get_fill_of_mem {settings : List format.Setting}
    (hnodup : (settings.map Sigma.fst).Nodup) {value : format.Value name}
    (h : ⟨name, value⟩ ∈ settings) (state : σ) :
    get (readers.fill state settings) = keep value := by
  induction settings generalizing state with
  | nil => cases h
  | cons setting more ih =>
      rw [List.map_cons, List.nodup_cons] at hnodup
      rcases List.mem_cons.mp h with rfl | hmem
      · exact (readers.get_fill_of_notMem get hother hnodup.1 (readers.put name state value)).trans
          (hself state value)
      · exact ih hnodup.2 hmem (readers.put setting.1 state setting.2)

/-- A field holds the value given for it, or else what it held in the beginning. -/
theorem get_fill {contents : format.Contents} {settings : List format.Setting}
    (h : format.IsChoice contents settings) (state : σ) :
    get (readers.fill state settings) = ((contents name).map keep).getD (get state) := by
  cases hcontents : contents name with
  | some value =>
      exact readers.get_fill_of_mem get hother keep hself h.nodup
        ((h.given name value).mp hcontents) state
  | none =>
      have hmissing : name ∉ settings.map Sigma.fst := by
        intro hmem
        obtain ⟨⟨other, value⟩, hsetting, rfl⟩ := List.mem_map.mp hmem
        rw [(h.given _ value).mpr hsetting] at hcontents
        cases hcontents
      exact readers.get_fill_of_notMem get hother hmissing state

end Get

end FieldReaders

end DumpConvert.Json
