import DumpConvert.Schema.Table
import Mathlib.Data.List.Dedup

/-!
# The size of a registry

A dictionary has no key twice (`nodup_keys`), and an insertion adds its key and no other
(`mem_keys_insert`).  So a registry holds as many tables as there are different names
among the tables that were declared (`size_build`).
-/

namespace DumpConvert

namespace Dictionary

variable {α : Type}

def keys (dictionary : Dictionary α) : List Text :=
  dictionary.entries.map Prod.fst

theorem nodup_keys (dictionary : Dictionary α) : dictionary.keys.Nodup := by
  refine List.pairwise_map.mpr (dictionary.increasing.imp ?_)
  intro a b hlt heq
  rw [heq] at hlt
  exact List.lt_irrefl b.1 hlt

theorem mem_keys_insertEntry (key other : Text) (value : α) (entries : List (Text × α)) :
    other ∈ (insertEntry key value entries).map Prod.fst ↔
      other = key ∨ other ∈ entries.map Prod.fst := by
  induction entries with
  | nil => simp [insertEntry]
  | cons first rest ih =>
      unfold insertEntry
      split
      · simp
      · split
        · rw [List.map_cons, List.mem_cons, ih, List.map_cons, List.mem_cons]
          exact or_left_comm
        · rename_i hnlt hngt
          have hkey : key = first.1 := eq_of_not_lt hnlt hngt
          simp [hkey]

theorem mem_keys_insert (dictionary : Dictionary α) (key other : Text) (value : α) :
    other ∈ (dictionary.insert key value).keys ↔ other = key ∨ other ∈ dictionary.keys := by
  exact mem_keys_insertEntry key other value dictionary.entries

/-- Keys that are listed, with repetitions or without, count once each. -/
theorem size_eq_of_mem_keys {dictionary : Dictionary α} {names : List Text}
    (h : ∀ name, name ∈ dictionary.keys ↔ name ∈ names) :
    dictionary.size = names.dedup.length := by
  have hperm : dictionary.keys.Perm names.dedup := by
    refine (List.perm_ext_iff_of_nodup dictionary.nodup_keys names.nodup_dedup).mpr ?_
    intro name
    rw [h, List.mem_dedup]
  rw [← hperm.length_eq, keys, List.length_map, size]

end Dictionary

namespace Registry

theorem mem_keys_foldl_declare (registry : Registry) (schemas : List TableSchema) (name : Text) :
    name ∈ (schemas.foldl declare registry).tables.keys ↔
      name ∈ registry.tables.keys ∨ name ∈ schemas.map TableSchema.tableName := by
  induction schemas generalizing registry with
  | nil => simp
  | cons schema rest ih =>
      rw [List.foldl_cons, ih, declare, Dictionary.mem_keys_insert, List.map_cons, List.mem_cons]
      constructor
      · rintro ((hname | hold) | hrest)
        · exact .inr (.inl hname)
        · exact .inl hold
        · exact .inr (.inr hrest)
      · rintro (hold | hname | hrest)
        · exact .inl (.inr hold)
        · exact .inl (.inl hname)
        · exact .inr hrest

def declaredNames (statements : List Statement) : List Text :=
  (statements.filterMap schemaOf?).map TableSchema.tableName

theorem size_build (statements : List Statement) :
    (build statements).size = (declaredNames statements).dedup.length := by
  apply Dictionary.size_eq_of_mem_keys
  intro name
  have hnone : name ∉ empty.tables.keys := List.not_mem_nil
  rw [build, mem_keys_foldl_declare, or_iff_right hnone]
  rfl

end Registry

end DumpConvert
