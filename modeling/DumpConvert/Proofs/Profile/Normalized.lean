import DumpConvert.Profile.Basic
import DumpConvert.Proofs.Schema.Lookup
import DumpConvert.Proofs.Text.Bytes
import Mathlib.Data.List.Induction

/-!
# Lookups in a normalized profile

Bringing the keywords of a profile to upper case can make keys of its type map meet.  They
are taken in the order of their bytes, so the greatest of them keeps its value.  What a
normalized profile finds for a keyword is therefore told by the profile as it was before
(`Profile.Targets`, `Profile.Lists`), whatever the case of the keyword (`lookups_normalized`).
-/

namespace DumpConvert

/-! ## Letter case -/

namespace Text

theorem toNat_toUpper (c : Char) :
    c.toUpper.toNat = if 97 ≤ c.toNat ∧ c.toNat ≤ 122 then c.toNat - 32 else c.toNat := by
  unfold Char.toUpper
  split <;> grind [Char.toNat, UInt32.le_iff_toNat_le, UInt32.toNat_add]

theorem toNat_toLower (c : Char) :
    c.toLower.toNat = if 65 ≤ c.toNat ∧ c.toNat ≤ 90 then c.toNat + 32 else c.toNat := by
  unfold Char.toLower
  split <;> grind [Char.toNat, UInt32.le_iff_toNat_le, UInt32.toNat_add]

theorem toUpper_eq_iff (c d : Char) : c.toUpper = d.toUpper ↔ c.toLower = d.toLower := by
  rw [← Char.toNat_inj, ← Char.toNat_inj, toNat_toUpper, toNat_toUpper, toNat_toLower,
    toNat_toLower]
  grind

theorem toUpper_toUpper (c : Char) : c.toUpper.toUpper = c.toUpper := by
  rw [← Char.toNat_inj, toNat_toUpper, toNat_toUpper]
  grind

/-- Texts that agree but for the case of ASCII letters are those with one upper-case form. -/
theorem sameIgnoringCase_iff (s t : Text) :
    sameIgnoringCase s t = true ↔ asciiUpper s = asciiUpper t := by
  rw [sameIgnoringCase, beq_iff_eq, asciiLower, asciiLower, asciiUpper, asciiUpper]
  induction s generalizing t with
  | nil => cases t <;> simp
  | cons c rest ih =>
      cases t with
      | nil => simp
      | cons d more => simp [ih, toUpper_eq_iff]

theorem asciiUpper_asciiUpper (t : Text) : asciiUpper (asciiUpper t) = asciiUpper t := by
  rw [asciiUpper, asciiUpper, List.map_map]
  exact List.map_congr_left fun c _ => toUpper_toUpper c

end Text

/-! ## Dictionaries from lists -/

namespace Dictionary

variable {α : Type}

theorem ofList_concat (entries : List (Text × α)) (entry : Text × α) :
    ofList (entries ++ [entry]) = (ofList entries).insert entry.1 entry.2 := by
  rw [ofList, List.foldl_concat]
  rfl

theorem lookup_eq_find? (key : Text) (entries : List (Text × α)) :
    lookup key entries =
      (entries.find? (fun entry => decide (entry.1 = key))).map Prod.snd := by
  induction entries with
  | nil => rfl
  | cons entry rest ih =>
      unfold lookup
      split
      · rename_i hkey
        simp [hkey]
      · rename_i hkey
        simp [hkey, ih]

/-- The last entry of a key gives its value. -/
theorem get?_ofList (key : Text) (entries : List (Text × α)) :
    (ofList entries).get? key = lookup key entries.reverse := by
  induction entries using List.reverseRecOn with
  | nil => rfl
  | append_singleton entries entry ih =>
      rw [ofList_concat, get?_insert, ih, List.reverse_append]
      rfl

theorem mem_of_mem_ofList {entry : Text × α} {entries : List (Text × α)}
    (h : entry ∈ (ofList entries).entries) : entry ∈ entries := by
  induction entries using List.reverseRecOn with
  | nil => exact h
  | append_singleton entries last ih =>
      rw [ofList_concat] at h
      rcases mem_insertEntry h with rfl | hold
      · exact List.mem_append_right _ List.mem_cons_self
      · exact List.mem_append_left _ (ih hold)

theorem insertEntry_of_forall_lt {key : Text} {entries : List (Text × α)}
    (h : ∀ entry ∈ entries, entry.1 < key) (value : α) :
    insertEntry key value entries = entries ++ [(key, value)] := by
  induction entries with
  | nil => rfl
  | cons first rest ih =>
      obtain ⟨hfirst, hrest⟩ := List.forall_mem_cons.mp h
      rw [insertEntry, if_neg (List.lt_asymm hfirst), if_pos hfirst, ih hrest]
      rfl

/-- Entries in order are kept as they are. -/
theorem entries_ofList {entries : List (Text × α)} (h : KeysIncrease entries) :
    (ofList entries).entries = entries := by
  induction entries using List.reverseRecOn with
  | nil => rfl
  | append_singleton entries last ih =>
      obtain ⟨hentries, -, hlast⟩ := List.pairwise_append.mp h
      rw [ofList_concat]
      show insertEntry last.1 last.2 (ofList entries).entries = _
      rw [ih hentries]
      exact insertEntry_of_forall_lt (fun entry hmem => hlast entry hmem last List.mem_cons_self) _

theorem eq_of_entries_eq {one other : Dictionary α} (h : one.entries = other.entries) :
    one = other := by
  cases one
  cases other
  cases h
  rfl

theorem ofList_entries (dictionary : Dictionary α) : ofList dictionary.entries = dictionary := by
  exact eq_of_entries_eq (entries_ofList dictionary.increasing)

/-- Changing the keys again by an idempotent function changes nothing. -/
theorem mapKeys_mapKeys {f : Text → Text} (hf : ∀ key, f (f key) = f key)
    (dictionary : Dictionary α) : (dictionary.mapKeys f).mapKeys f = dictionary.mapKeys f := by
  have hkept : (dictionary.mapKeys f).entries.map (fun entry => (f entry.1, entry.2)) =
      (dictionary.mapKeys f).entries := by
    -- Every key is an image, since no entry is made up on the way into the dictionary.
    refine (List.map_congr_left fun entry hmem => ?_).trans (List.map_id _)
    obtain ⟨before, -, rfl⟩ := List.mem_map.mp (mem_of_mem_ofList hmem)
    rw [hf]
    rfl
  rw [mapKeys, hkept, ofList_entries]

end Dictionary

/-! ## Lookups -/

namespace Profile

open Text

/-- Of the entries whose key is the keyword but for its case, the one with the greatest key. -/
structure IsGreatestSpelling (entries : List (Text × Text)) (keyword : Text)
    (entry : Text × Text) : Prop where
  mem : entry ∈ entries
  same : sameIgnoringCase entry.1 keyword = true
  greatest : ∀ other ∈ entries, sameIgnoringCase other.1 keyword = true →
    bytes other.1 ≤ bytes entry.1

inductive Targets (profile : Profile) (keyword : Text) : Text → Prop where
  | mapped {entry : Text × Text}
      (h : IsGreatestSpelling profile.typeMap.entries keyword entry) :
      Targets profile keyword entry.2
  | kept (h : ∀ entry ∈ profile.typeMap.entries, sameIgnoringCase entry.1 keyword = false) :
      Targets profile keyword keyword

/-- The keywords of a class hold the keyword, whatever its case. -/
def Lists (profile : Profile) (keyword : Text) (kind : TypeClass) : Prop :=
  ∃ entry ∈ profile.typesOf kind, sameIgnoringCase entry keyword = true

section Spellings

variable {entries : List (Text × Text)} {keyword : Text} {entry : Text × Text}

/-- The last entry of a spelling is the one with the greatest key. -/
theorem isGreatestSpelling_of_isLast (hincreasing : KeysIncrease entries)
    (h : IsLast (fun other => sameIgnoringCase other.1 keyword = true) entries entry) :
    IsGreatestSpelling entries keyword entry := by
  obtain ⟨before, after, rfl, hsame, hafter⟩ := h
  refine ⟨by simp, hsame, fun other hmem hother => List.not_lt.mp fun hlt => ?_⟩
  obtain ⟨-, -, hbefore⟩ := List.pairwise_append.mp hincreasing
  have hkeys := (bytes_lt_iff entry.1 other.1).mp hlt
  rcases List.mem_append.mp hmem with hearlier | hlater
  · exact List.lt_asymm hkeys (hbefore other hearlier entry List.mem_cons_self)
  · rcases List.mem_cons.mp hlater with rfl | hlater
    · exact List.lt_irrefl _ hkeys
    · exact hafter other hlater hother

theorem IsGreatestSpelling.eq_of_isLast {greatest : Text × Text}
    (h : IsGreatestSpelling entries keyword greatest) (hincreasing : KeysIncrease entries)
    (hlast : IsLast (fun other => sameIgnoringCase other.1 keyword = true) entries entry) :
    greatest = entry := by
  obtain ⟨before, after, rfl, hsame, hafter⟩ := hlast
  obtain ⟨-, -, hbefore⟩ := List.pairwise_append.mp hincreasing
  rcases List.mem_append.mp h.mem with hearlier | hlater
  · have hlt := hbefore greatest hearlier entry List.mem_cons_self
    exact absurd ((bytes_lt_iff _ _).mpr hlt) (List.not_lt.mpr (h.greatest entry (by simp) hsame))
  · rcases List.mem_cons.mp hlater with rfl | hlater
    · rfl
    · exact absurd h.same (hafter greatest hlater)

end Spellings

/-- A normalized type map is searched from behind. -/
theorem get?_typeMap_normalized (profile : Profile) (keyword : Text) :
    profile.normalized.typeMap.get? (asciiUpper keyword) =
      (profile.typeMap.entries.reverse.find?
        (fun entry => sameIgnoringCase entry.1 keyword)).map Prod.snd := by
  have htest : ∀ entry : Text × Text, decide (asciiUpper entry.1 = asciiUpper keyword) =
      sameIgnoringCase entry.1 keyword := by
    intro entry
    rw [Bool.eq_iff_iff, decide_eq_true_iff, sameIgnoringCase_iff]
  show (Dictionary.mapKeys asciiUpper profile.typeMap).get? _ = _
  rw [Dictionary.mapKeys, Dictionary.get?_ofList, Dictionary.lookup_eq_find?, ← List.map_reverse,
    List.find?_map, Option.map_map]
  simp only [Function.comp_def, htest]

theorem mapType_normalized_iff (profile : Profile) (keyword target : Text) :
    profile.normalized.mapType keyword = target ↔ profile.Targets keyword target := by
  have hincreasing := profile.typeMap.increasing
  unfold mapType
  rw [get?_typeMap_normalized]
  cases hfind : profile.typeMap.entries.reverse.find?
      (fun entry => sameIgnoringCase entry.1 keyword) with
  | none =>
      have hnone : ∀ entry ∈ profile.typeMap.entries, sameIgnoringCase entry.1 keyword = false := by
        simpa using List.find?_eq_none.mp hfind
      constructor
      · rintro rfl
        exact .kept hnone
      · rintro (hmapped | -)
        · have hsame := hmapped.same
          rw [hnone _ hmapped.mem] at hsame
          cases hsame
        · rfl
  | some entry =>
      have hlast : IsLast (fun other => sameIgnoringCase other.1 keyword = true)
          profile.typeMap.entries entry :=
        (isFirst_reverse _ _ _).mp
          ((find?_eq_some_iff_isFirst _ (fun _ => Iff.rfl) _ _).mp hfind)
      constructor
      · rintro rfl
        exact .mapped (isGreatestSpelling_of_isLast hincreasing hlast)
      · rintro (hmapped | hkept)
        · rw [hmapped.eq_of_isLast hincreasing hlast]
          rfl
        · have hsame := hlast.mem.2
          rw [hkept entry hlast.mem.1] at hsame
          cases hsame

theorem typesOf_normalized (profile : Profile) (kind : TypeClass) :
    profile.normalized.typesOf kind = (profile.typesOf kind).map asciiUpper := by
  cases kind <;> rfl

theorem contains_typesOf_normalized (profile : Profile) (keyword : Text) (kind : TypeClass) :
    (profile.normalized.typesOf kind).contains (asciiUpper keyword) = true ↔
      profile.Lists keyword kind := by
  rw [typesOf_normalized, List.contains_iff_mem, List.mem_map]
  simp only [Lists, sameIgnoringCase_iff]

theorem typeClass?_normalized_iff (profile : Profile) (keyword : Text) (kind : TypeClass) :
    profile.normalized.typeClass? keyword = some kind ↔
      IsFirst (profile.Lists keyword) classOrder kind := by
  exact find?_eq_some_iff_isFirst _ (contains_typesOf_normalized profile keyword) classOrder kind

theorem typeClass?_normalized_eq_none_iff (profile : Profile) (keyword : Text) :
    profile.normalized.typeClass? keyword = none ↔ ∀ kind, ¬ profile.Lists keyword kind := by
  rw [typeClass?, List.find?_eq_none]
  simp only [contains_typesOf_normalized]
  exact ⟨fun h kind => h kind (by cases kind <;> decide), fun h kind _ => h kind⟩

/-! ## Spellings of one keyword -/

/-- A keyword that differs in case only has the same target, or both are kept. -/
theorem mapType_normalized_of_same (profile : Profile) {keyword other : Text}
    (h : sameIgnoringCase other keyword = true) :
    profile.normalized.mapType other = profile.normalized.mapType keyword ∨
      (∀ entry ∈ profile.typeMap.entries, sameIgnoringCase entry.1 keyword = false) ∧
        profile.normalized.mapType other = other ∧
        profile.normalized.mapType keyword = keyword := by
  have hupper := (sameIgnoringCase_iff other keyword).mp h
  have hfound := get?_typeMap_normalized profile keyword
  unfold mapType
  rw [hupper]
  cases hget : profile.normalized.typeMap.get? (asciiUpper keyword) with
  | some target => exact .inl rfl
  | none =>
      rw [hget, eq_comm, Option.map_eq_none_iff, List.find?_eq_none] at hfound
      exact .inr ⟨by simpa using hfound, rfl, rfl⟩

theorem typeClass?_normalized_of_same (profile : Profile) {keyword other : Text}
    (h : sameIgnoringCase other keyword = true) :
    profile.normalized.typeClass? other = profile.normalized.typeClass? keyword := by
  rw [typeClass?, typeClass?, (sameIgnoringCase_iff other keyword).mp h]

theorem normalized_normalized_types (profile : Profile) :
    profile.normalized.normalized.typeMap = profile.normalized.typeMap ∧
      ∀ kind, profile.normalized.normalized.typesOf kind = profile.normalized.typesOf kind := by
  refine ⟨Dictionary.mapKeys_mapKeys asciiUpper_asciiUpper profile.typeMap, fun kind => ?_⟩
  rw [typesOf_normalized, typesOf_normalized, List.map_map]
  exact List.map_congr_left fun t _ => asciiUpper_asciiUpper t

/--
What a normalized profile finds for a keyword is found whatever the case of either.

The target is the value of the greatest key by bytes that spells the keyword, and the class
is the first one that lists it.  Normalizing once is enough.
-/
theorem lookups_normalized (profile : Profile) (keyword : Text) :
    (∀ target, profile.normalized.mapType keyword = target ↔ profile.Targets keyword target) ∧
      (∀ kind, profile.normalized.typeClass? keyword = some kind ↔
        IsFirst (profile.Lists keyword) [.timestamp, .boolean, .text, .numeric, .json] kind) ∧
      (profile.normalized.typeClass? keyword = none ↔ ∀ kind, ¬ profile.Lists keyword kind) ∧
      (∀ other, sameIgnoringCase other keyword = true →
        profile.normalized.typeClass? other = profile.normalized.typeClass? keyword ∧
          (profile.normalized.mapType other = profile.normalized.mapType keyword ∨
            (∀ entry ∈ profile.typeMap.entries, sameIgnoringCase entry.1 keyword = false) ∧
              profile.normalized.mapType other = other ∧
              profile.normalized.mapType keyword = keyword)) ∧
      profile.normalized.normalized.typeMap = profile.normalized.typeMap ∧
      ∀ kind, profile.normalized.normalized.typesOf kind = profile.normalized.typesOf kind := by
  exact ⟨mapType_normalized_iff profile keyword, typeClass?_normalized_iff profile keyword,
    typeClass?_normalized_eq_none_iff profile keyword,
    fun _ h => ⟨typeClass?_normalized_of_same profile h, mapType_normalized_of_same profile h⟩,
    normalized_normalized_types profile⟩

/-- Three spellings of one key, two of one listed keyword, and a keyword of two classes. -/
def respelled : Profile :=
  { Profile.builtIn with
    typeMap := .ofList [("text".toList, "c".toList), ("TEXT".toList, "a".toList),
      ("Text".toList, "b".toList)]
    textTypes := ["Text".toList, "text".toList]
    jsonTypes := ["TEXT".toList] }

/-- The last spelling by bytes gives the target, and the first class the kind. -/
theorem lookups_normalized_respelled :
    respelled.normalized.mapType "tExT".toList = "c".toList ∧
      respelled.normalized.typeClass? "tExT".toList =
        respelled.normalized.typeClass? "TEXT".toList := by
  have hgreatest : IsGreatestSpelling respelled.typeMap.entries "tExT".toList
      ("text".toList, "c".toList) :=
    ⟨by decide +kernel, by decide +kernel, by decide +kernel⟩
  exact ⟨((lookups_normalized respelled "tExT".toList).1 _).mpr (.mapped hgreatest),
    ((lookups_normalized respelled "TEXT".toList).2.2.2.1 _ (by decide +kernel)).1⟩

end Profile

end DumpConvert
