import DumpConvert.Text.Basic

/-!
# Dictionaries

A dictionary holds at most one value for each text.  Its entries are kept in the order
of their keys, by code point, which is also the order of the keys as UTF-8 bytes; the
order is part of the type, so two dictionaries with the same entries are equal.

Looking up after an insertion gives the inserted value for its key and what was there
before for every other key.
-/

namespace DumpConvert

def KeysIncrease {α : Type} (entries : List (Text × α)) : Prop :=
  entries.Pairwise (fun a b => a.1 < b.1)

structure Dictionary (α : Type) where
  entries : List (Text × α)
  increasing : KeysIncrease entries

namespace Dictionary

variable {α : Type}

def empty : Dictionary α :=
  ⟨[], List.Pairwise.nil⟩

def insertEntry (key : Text) (value : α) : List (Text × α) → List (Text × α)
  | [] => [(key, value)]
  | entry :: rest =>
      if key < entry.1 then (key, value) :: entry :: rest
      else if entry.1 < key then entry :: insertEntry key value rest
      else (key, value) :: rest

theorem eq_of_not_lt {s t : Text} (hst : ¬ s < t) (hts : ¬ t < s) : s = t := by
  exact List.le_antisymm (List.not_lt.mp hts) (List.not_lt.mp hst)

theorem mem_insertEntry
    {key : Text} {value : α} {entry : Text × α} {entries : List (Text × α)}
    (h : entry ∈ insertEntry key value entries) :
    entry = (key, value) ∨ entry ∈ entries := by
  induction entries with
  | nil =>
      simpa [insertEntry] using h
  | cons first rest ih =>
      unfold insertEntry at h
      split at h
      · simpa using h
      · split at h
        · rcases List.mem_cons.mp h with hfirst | hrest
          · exact .inr (by simp [hfirst])
          · rcases ih hrest with hnew | hold
            · exact .inl hnew
            · exact .inr (List.mem_cons_of_mem _ hold)
        · rcases List.mem_cons.mp h with hnew | hrest
          · exact .inl hnew
          · exact .inr (List.mem_cons_of_mem _ hrest)

theorem keysIncrease_insertEntry
    (key : Text) (value : α) {entries : List (Text × α)} (h : KeysIncrease entries) :
    KeysIncrease (insertEntry key value entries) := by
  induction entries with
  | nil =>
      exact List.pairwise_singleton _ _
  | cons first rest ih =>
      have hfirst : ∀ entry ∈ rest, first.1 < entry.1 := (List.pairwise_cons.mp h).1
      have hrest : KeysIncrease rest := (List.pairwise_cons.mp h).2
      unfold insertEntry
      split
      · rename_i hlt
        refine List.pairwise_cons.mpr ⟨?_, h⟩
        intro entry hmem
        rcases List.mem_cons.mp hmem with rfl | hlater
        · exact hlt
        · exact List.lt_trans hlt (hfirst entry hlater)
      · split
        · rename_i hgt
          refine List.pairwise_cons.mpr ⟨?_, ih hrest⟩
          intro entry hmem
          rcases mem_insertEntry hmem with rfl | hold
          · exact hgt
          · exact hfirst entry hold
        · rename_i hnlt hngt
          have hkey : key = first.1 := eq_of_not_lt hnlt hngt
          refine List.pairwise_cons.mpr ⟨?_, hrest⟩
          intro entry hmem
          rw [hkey]
          exact hfirst entry hmem

def insert (dictionary : Dictionary α) (key : Text) (value : α) : Dictionary α :=
  ⟨insertEntry key value dictionary.entries,
    keysIncrease_insertEntry key value dictionary.increasing⟩

def lookup (key : Text) : List (Text × α) → Option α
  | [] => none
  | entry :: rest => if entry.1 = key then some entry.2 else lookup key rest

def get? (dictionary : Dictionary α) (key : Text) : Option α :=
  lookup key dictionary.entries

def size (dictionary : Dictionary α) : Nat :=
  dictionary.entries.length

/-- The entries of a list in turn, so that the last value of a key is kept. -/
def ofList (entries : List (Text × α)) : Dictionary α :=
  entries.foldl (fun dictionary entry => dictionary.insert entry.1 entry.2) empty

/-- Change the keys, taking the entries in order; a later entry replaces an earlier one. -/
def mapKeys (f : Text → Text) (dictionary : Dictionary α) : Dictionary α :=
  ofList (dictionary.entries.map (fun entry => (f entry.1, entry.2)))

/-! ## Looking up -/

@[simp] theorem get?_empty (key : Text) : (empty : Dictionary α).get? key = none := by
  rfl

theorem lookup_insertEntry (key other : Text) (value : α) (entries : List (Text × α)) :
    lookup other (insertEntry key value entries) =
      if key = other then some value else lookup other entries := by
  induction entries with
  | nil =>
      simp [insertEntry, lookup]
  | cons first rest ih =>
      unfold insertEntry
      split
      · simp [lookup]
      · split
        · rename_i hgt
          by_cases hfirst : first.1 = other
          · have hne : key ≠ other := by
              intro heq
              rw [heq, hfirst] at hgt
              exact List.lt_irrefl other hgt
            simp [lookup, hfirst, hne]
          · simp [lookup, hfirst, ih]
        · rename_i hnlt hngt
          have hkey : key = first.1 := eq_of_not_lt hnlt hngt
          by_cases heq : key = other
          · simp [lookup, heq]
          · have hfirst : first.1 ≠ other := by
              rw [← hkey]
              exact heq
            simp [lookup, heq, hfirst]

/-- Only the inserted key changes its value. -/
theorem get?_insert (dictionary : Dictionary α) (key other : Text) (value : α) :
    (dictionary.insert key value).get? other =
      if key = other then some value else dictionary.get? other := by
  exact lookup_insertEntry key other value dictionary.entries

end Dictionary

end DumpConvert
