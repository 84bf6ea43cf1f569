import DumpConvert.Proofs.Sql.Identifier
import DumpConvert.Proofs.Text.Scanning

/-!
# Words in front of a text

A keyword is read from the front of a text exactly if the text begins with it in some
spelling (`keyword?_append`, `exists_of_keyword?`).  Keywords followed by blanks are read
whatever text comes after them, and reading them loses nothing but their spelling
(`keywords?_cons`, `exists_of_keywords?`).
-/

namespace DumpConvert.Sql

/-- The text is the word, given in lower case, in some spelling. -/
def IsKeyword (word written : Text) : Prop :=
  written.map foldCase = word

structure IsGap (t : Text) : Prop where
  ne_nil : t ≠ []
  blank : ∀ c ∈ t, Text.isBlank c = true

theorem keyword?_append {word written : Text} (h : IsKeyword word written) (rest : Text) :
    keyword? word (written ++ rest) = some rest := by
  induction written generalizing word with
  | nil =>
      have hnil : [] = word := h
      rw [← hnil]
      rfl
  | cons c more ih =>
      have hcons : foldCase c :: more.map foldCase = word := h
      rw [← hcons, List.cons_append, keyword?, if_pos rfl]
      exact ih rfl

theorem exists_of_keyword? {word t rest : Text} (h : keyword? word t = some rest) :
    ∃ written, IsKeyword word written ∧ t = written ++ rest := by
  induction word generalizing t with
  | nil => exact ⟨[], rfl, Option.some.inj h⟩
  | cons w more ih =>
      cases t with
      | nil => cases h
      | cons c t =>
          unfold keyword? at h
          split at h
          · rename_i hfold
            obtain ⟨written, hwritten, rfl⟩ := ih h
            refine ⟨c :: written, ?_, rfl⟩
            rw [IsKeyword, List.map_cons, hfold, hwritten]
          · cases h

theorem IsKeyword.length_eq {word written : Text} (h : IsKeyword word written) :
    written.length = word.length := by
  rw [← h, List.length_map]

/-- A keyword that begins with a letter is written with a character that begins a name. -/
theorem IsKeyword.exists_eq_cons {w : Char} {word written : Text}
    (h : IsKeyword (w :: word) written) (hw : w.isLower = true) :
    ∃ c more, written = c :: more ∧ isNameStart c = true ∧ foldCase c = w := by
  cases written with
  | nil => cases h
  | cons c more =>
      have hfold : foldCase c = w := (List.cons_eq_cons.mp h).1
      refine ⟨c, more, rfl, ?_, hfold⟩
      rw [isNameStart, hfold, hw]
      rfl

/-! ## Blanks -/

theorem blanks?_append {gap rest : Text} (hgap : IsGap gap)
    (hrest : ∀ c ∈ rest.head?, Text.isBlank c = false) : blanks? (gap ++ rest) = some rest := by
  obtain ⟨b, more, rfl⟩ := List.exists_cons_of_ne_nil hgap.ne_nil
  obtain ⟨hb, hmore⟩ := List.forall_mem_cons.mp hgap.blank
  rw [List.cons_append, blanks?, if_pos hb, Text.trimStart, Text.dropWhile_append hmore hrest]

theorem exists_of_blanks? {t rest : Text} (h : blanks? t = some rest) :
    ∃ gap, IsGap gap ∧ t = gap ++ rest := by
  cases t with
  | nil => cases h
  | cons c more =>
      rw [blanks?] at h
      split at h
      · rename_i hc
        obtain rfl := Option.some.inj h
        refine ⟨c :: more.takeWhile Text.isBlank, ⟨List.cons_ne_nil _ _, ?_⟩, ?_⟩
        · exact List.forall_mem_cons.mpr ⟨hc, fun d hd => List.mem_takeWhile_imp hd⟩
        · rw [List.cons_append, Text.takeWhile_append_trimStart]
      · cases h

/-! ## Several keywords -/

theorem keywords?_cons {word written gap rest : Text} (hword : IsKeyword word written)
    (hgap : IsGap gap) (hrest : ∀ c ∈ rest.head?, Text.isBlank c = false) (more : List Text) :
    keywords? (word :: more) (written ++ (gap ++ rest)) = keywords? more rest := by
  rw [keywords?, keyword?_append hword]
  simp only [blanks?_append hgap hrest]

theorem exists_of_keywords? {word t rest : Text} {more : List Text}
    (h : keywords? (word :: more) t = some rest) :
    ∃ written gap later, IsKeyword word written ∧ IsGap gap ∧ t = written ++ (gap ++ later) ∧
      keywords? more later = some rest := by
  unfold keywords? at h
  split at h
  · cases h
  · rename_i after hword
    obtain ⟨written, hwritten, rfl⟩ := exists_of_keyword? hword
    split at h
    · cases h
    · rename_i later hblanks
      obtain ⟨gap, hgap, rfl⟩ := exists_of_blanks? hblanks
      exact ⟨written, gap, later, hwritten, hgap, rfl, h⟩

end DumpConvert.Sql
