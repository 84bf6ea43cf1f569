import DumpConvert.Text.Blank

/-!
# Lines and joined texts

A line feed separates the lines before it from the lines after it: the lines after it
are those of the text after it (`lines_append_newline`).  The text before it gives the
lines it has by itself, except for its last one (`lines_eq_of_rawLines`).  There a
carriage return at the end of the text becomes part of the line ending, and an empty
line appears if the text already ended in a line feed.

Joining goes the other way; what stands at the end of the last text stands at the end of
the joined texts (`joinWith_append_last`).
-/

namespace DumpConvert.Text

theorem prependToFirst_append (c : Char) {ps : List Text} (h : ps ≠ []) (qs : List Text) :
    prependToFirst c (ps ++ qs) = prependToFirst c ps ++ qs := by
  cases ps with
  | nil =>
      exact absurd rfl h
  | cons piece rest =>
      rfl

/-- A separator cuts a text into two that have no piece in common. -/
theorem pieces_append_of_separates
    {separates : Char → Bool} {c : Char} (h : separates c = true) (s t : Text) :
    pieces separates (s ++ c :: t) = pieces separates s ++ pieces separates t := by
  induction s with
  | nil =>
      exact pieces_cons_of_separates t h
  | cons d rest ih =>
      rw [List.cons_append]
      cases hd : separates d with
      | true =>
          rw [pieces_cons_of_separates _ hd, pieces_cons_of_separates _ hd, ih,
            List.cons_append]
      | false =>
          rw [pieces_cons_of_not_separates _ hd, pieces_cons_of_not_separates _ hd, ih]
          exact prependToFirst_append d (pieces_ne_nil _ rest) _

/-- The pieces between the line feeds of a text. -/
def rawLines (t : Text) : List Text :=
  pieces (· == '\n') t

theorem rawLines_append_newline (s t : Text) :
    rawLines (s ++ '\n' :: t) = rawLines s ++ rawLines t := by
  exact pieces_append_of_separates (by rfl) s t

/-- There is a last piece, and the line feeds close the ones before it. -/
theorem exists_rawLines_eq (t : Text) : ∃ closed last, rawLines t = closed ++ [last] := by
  exact ⟨_, _, (List.dropLast_concat_getLast (pieces_ne_nil _ t)).symm⟩

/-- A line loses at most one carriage return, from its end. -/
theorem dropReturn_eq_or (line : Text) :
    dropReturn line = line ∨ line = dropReturn line ++ ['\r'] := by
  unfold dropReturn
  split
  · rename_i hreturn
    obtain ⟨front, rfl⟩ := List.getLast?_eq_some_iff.mp hreturn
    exact .inr (by simp)
  · exact .inl rfl

/-- All pieces but the last one are lines, and the last one is unless it is empty. -/
theorem lines_eq_of_rawLines
    {t : Text} {closed : List Text} {last : Text} (h : rawLines t = closed ++ [last]) :
    lines t = closed.map dropReturn ++ (if last = [] then [] else [last]) := by
  have hlast : (rawLines t).getLast? = some last := by
    simp [h]
  have hclosed : (rawLines t).dropLast = closed := by
    simp [h]
  unfold rawLines at hlast hclosed
  simp only [lines, hlast, hclosed]
  cases last with
  | nil =>
      simp
  | cons c rest =>
      simp

theorem lines_append_newline (s t : Text) :
    lines (s ++ '\n' :: t) = (rawLines s).map dropReturn ++ lines t := by
  obtain ⟨closed, last, ht⟩ := exists_rawLines_eq t
  have hboth : rawLines (s ++ '\n' :: t) = (rawLines s ++ closed) ++ [last] := by
    rw [rawLines_append_newline, ht, List.append_assoc]
  rw [lines_eq_of_rawLines hboth, lines_eq_of_rawLines ht, List.map_append, List.append_assoc]

/-- A piece of a text holds no separator. -/
theorem not_separates_of_mem_pieces {separates : Char → Bool} (t : Text) :
    ∀ piece ∈ pieces separates t, ∀ c ∈ piece, separates c = false := by
  induction t with
  | nil => simp [pieces]
  | cons d rest ih =>
      cases hd : separates d with
      | true =>
          rw [pieces_cons_of_separates _ hd]
          exact List.forall_mem_cons.mpr ⟨by simp, ih⟩
      | false =>
          rw [pieces_cons_of_not_separates _ hd]
          cases hpieces : pieces separates rest with
          | nil => exact absurd hpieces (pieces_ne_nil _ rest)
          | cons first more =>
              rw [hpieces] at ih
              obtain ⟨hfirst, hmore⟩ := List.forall_mem_cons.mp ih
              exact List.forall_mem_cons.mpr ⟨List.forall_mem_cons.mpr ⟨hd, hfirst⟩, hmore⟩

theorem not_mem_of_mem_rawLines (t : Text) : ∀ line ∈ rawLines t, '\n' ∉ line := by
  intro line hline hmem
  have hfeed := not_separates_of_mem_pieces t line hline '\n' hmem
  cases hfeed

/-! ## Joining -/

theorem joinWith_nil (separator : Text) : joinWith separator [] = [] := by
  rfl

theorem joinWith_singleton (separator t : Text) : joinWith separator [t] = t := by
  exact List.intercalate_singleton

theorem joinWith_cons_of_ne_nil (separator t : Text) {ts : List Text} (h : ts ≠ []) :
    joinWith separator (t :: ts) = t ++ separator ++ joinWith separator ts := by
  exact List.intercalate_cons_of_ne_nil h

/-- What is added to the last text is added to the joined texts. -/
theorem joinWith_append_last (separator : Text) (ts : List Text) (t more : Text) :
    joinWith separator (ts ++ [t ++ more]) = joinWith separator (ts ++ [t]) ++ more := by
  induction ts with
  | nil =>
      simp [joinWith_singleton]
  | cons first rest ih =>
      rw [List.cons_append, List.cons_append, joinWith_cons_of_ne_nil _ _ (by simp),
        joinWith_cons_of_ne_nil _ _ (by simp), ih, List.append_assoc]
      simp

theorem joinWith_append_empty (separator : Text) (ts : List Text) :
    joinWith separator (ts ++ [[]]) =
      joinWith separator ts ++ (if ts = [] then [] else separator) := by
  induction ts with
  | nil =>
      rfl
  | cons first rest ih =>
      rw [List.cons_append, joinWith_cons_of_ne_nil _ _ (by simp), ih]
      cases rest with
      | nil =>
          simp [joinWith_nil, joinWith_singleton]
      | cons second later =>
          simp [joinWith_cons_of_ne_nil separator first (List.cons_ne_nil second later)]

/-- The last text stands behind the separator, unless it is the only one. -/
theorem joinWith_append_singleton (separator : Text) (ts : List Text) (t : Text) :
    joinWith separator (ts ++ [t]) =
      joinWith separator ts ++ (if ts = [] then [] else separator) ++ t := by
  rw [← joinWith_append_empty, ← joinWith_append_last, List.nil_append]

/-- The pieces between the line feeds, joined by line feeds, are the text. -/
theorem joinWith_rawLines (t : Text) : joinWith ['\n'] (rawLines t) = t := by
  induction t with
  | nil => rfl
  | cons c rest ih =>
      unfold rawLines at ih ⊢
      by_cases hc : c = '\n'
      · rw [pieces_cons_of_separates _ (by simpa using hc),
          joinWith_cons_of_ne_nil _ _ (pieces_ne_nil _ rest), ih, hc]
        rfl
      · rw [pieces_cons_of_not_separates _ (by simpa using hc)]
        cases hpieces : pieces (· == '\n') rest with
        | nil => exact absurd hpieces (pieces_ne_nil _ rest)
        | cons first more =>
            rw [hpieces] at ih
            cases more with
            | nil =>
                rw [joinWith_singleton] at ih
                rw [prependToFirst, joinWith_singleton, ih]
            | cons second later =>
                rw [joinWith_cons_of_ne_nil _ _ (List.cons_ne_nil second later)] at ih
                rw [prependToFirst, joinWith_cons_of_ne_nil _ _ (List.cons_ne_nil second later),
                  ← ih]
                rfl

theorem mem_of_mem_joinWith {separator : Text} {ts : List Text} {c : Char}
    (h : c ∈ joinWith separator ts) : c ∈ separator ∨ ∃ t ∈ ts, c ∈ t := by
  induction ts with
  | nil =>
      rw [joinWith_nil] at h
      cases h
  | cons first rest ih =>
      cases rest with
      | nil =>
          rw [joinWith_singleton] at h
          exact .inr ⟨first, List.mem_cons_self, h⟩
      | cons second later =>
          rw [joinWith_cons_of_ne_nil separator first (List.cons_ne_nil second later)] at h
          rcases List.mem_append.mp h with hfront | hlater
          · rcases List.mem_append.mp hfront with hfirst | hseparator
            · exact .inr ⟨first, List.mem_cons_self, hfirst⟩
            · exact .inl hseparator
          · rcases ih hlater with hseparator | ⟨t, ht, hc⟩
            · exact .inl hseparator
            · exact .inr ⟨t, List.mem_cons_of_mem first ht, hc⟩

end DumpConvert.Text
