import DumpConvert.Text.Basic
import Mathlib.Data.List.Basic

/-!
# Slices by byte offset

A slice is taken between two byte offsets of a text.  It exists if the offsets are in
order, not beyond the end, and not inside a character (`slice?_isSome_iff`), and then it is
the part of the text between them (`slice?_eq_some_iff`).

An offset that was found by searching lies between two characters: the search counts the
bytes of the characters that it passes over (`offsetOf?_eq`).
-/

namespace DumpConvert.Text

/-- The offset is one in front of a character or at the end, and not inside a character. -/
def IsBoundary (t : Text) (offset : Nat) : Prop :=
  ∃ front back, t = front ++ back ∧ byteLength front = offset

/-- Cut a text at a byte offset, if it is not inside a character or beyond the end. -/
def splitAtByte? : Nat → Text → Option (Text × Text)
  | 0, t => some ([], t)
  | _ + 1, [] => none
  | offset + 1, c :: rest =>
      if c.utf8Size ≤ offset + 1 then
        (splitAtByte? (offset + 1 - c.utf8Size) rest).map (fun parts => (c :: parts.1, parts.2))
      else none

def slice? (t : Text) (start stop : Nat) : Option Text :=
  if start ≤ stop then
    (splitAtByte? stop t).bind (fun parts => (splitAtByte? start parts.1).map Prod.snd)
  else none

def sliceFrom? (t : Text) (start : Nat) : Option Text :=
  slice? t start (byteLength t)

def offsetOf? (p : Char → Bool) : Text → Option Nat
  | [] => none
  | c :: rest => if p c then some 0 else (offsetOf? p rest).map (c.utf8Size + ·)

/-! ## Cutting -/

theorem splitAtByte?_append (front back : Text) :
    splitAtByte? (byteLength front) (front ++ back) = some (front, back) := by
  induction front with
  | nil => cases back <;> rfl
  | cons c rest ih =>
      obtain ⟨size, hsize⟩ := Nat.exists_eq_succ_of_ne_zero (Nat.ne_of_gt c.utf8Size_pos)
      have hoffset : byteLength (c :: rest) = size + byteLength rest + 1 := by
        rw [byteLength_cons, hsize]
        omega
      have hleft : size + byteLength rest + 1 - c.utf8Size = byteLength rest := by omega
      rw [hoffset, List.cons_append, splitAtByte?, if_pos (by omega), hleft, ih]
      rfl

theorem splitAtByte?_eq_some_iff {t front back : Text} {offset : Nat} :
    splitAtByte? offset t = some (front, back) ↔ t = front ++ back ∧ byteLength front = offset := by
  constructor
  · intro h
    fun_induction splitAtByte? offset t generalizing front back with
    | case1 t =>
        cases h
        exact ⟨rfl, rfl⟩
    | case2 => cases h
    | case3 offset c rest hsize ih =>
        obtain ⟨⟨more, later⟩, hcut, hparts⟩ := Option.map_eq_some_iff.mp h
        obtain ⟨rfl, rfl⟩ := Prod.mk.inj hparts
        obtain ⟨rfl, hlength⟩ := ih hcut
        refine ⟨rfl, ?_⟩
        rw [byteLength_cons, hlength]
        omega
    | case4 => cases h
  · rintro ⟨rfl, rfl⟩
    exact splitAtByte?_append front back

theorem slice?_eq_some_iff {t part : Text} {start stop : Nat} :
    slice? t start stop = some part ↔
      ∃ front back, t = front ++ part ++ back ∧ byteLength front = start ∧
        byteLength (front ++ part) = stop := by
  unfold slice?
  constructor
  · intro h
    split at h
    · obtain ⟨⟨upTo, back⟩, hstop, hpart⟩ := Option.bind_eq_some_iff.mp h
      obtain ⟨⟨front, part'⟩, hstart, rfl⟩ := Option.map_eq_some_iff.mp hpart
      obtain ⟨rfl, hlength⟩ := splitAtByte?_eq_some_iff.mp hstop
      obtain ⟨rfl, hfront⟩ := splitAtByte?_eq_some_iff.mp hstart
      exact ⟨front, back, rfl, hfront, hlength⟩
    · cases h
  · rintro ⟨front, back, rfl, rfl, rfl⟩
    rw [if_pos (by rw [byteLength_append]; omega), splitAtByte?_append, Option.bind_some,
      splitAtByte?_append, Option.map_some]

theorem slice?_append (front part back : Text) :
    slice? (front ++ part ++ back) (byteLength front) (byteLength (front ++ part)) =
      some part := by
  exact slice?_eq_some_iff.mpr ⟨front, back, rfl, rfl, rfl⟩

theorem slice?_front (front back : Text) :
    slice? (front ++ back) 0 (byteLength front) = some front := by
  exact slice?_append [] front back

theorem sliceFrom?_append (front back : Text) :
    sliceFrom? (front ++ back) (byteLength front) = some back := by
  have hslice := slice?_append front back []
  rw [List.append_nil] at hslice
  exact hslice

theorem isBoundary_append (front back : Text) : IsBoundary (front ++ back) (byteLength front) := by
  exact ⟨front, back, rfl, rfl⟩

theorem IsBoundary.le_byteLength {t : Text} {offset : Nat} (h : IsBoundary t offset) :
    offset ≤ byteLength t := by
  obtain ⟨front, back, rfl, rfl⟩ := h
  rw [byteLength_append]
  exact Nat.le_add_right _ _

theorem byteLength_eq_zero_iff (t : Text) : byteLength t = 0 ↔ t = [] := by
  cases t with
  | nil => exact iff_of_true rfl rfl
  | cons c rest =>
      have hpos := c.utf8Size_pos
      refine iff_of_false ?_ (List.cons_ne_nil c rest)
      rw [byteLength_cons]
      omega

/-- Of two cuts of one text, the later one leaves the earlier one alone. -/
theorem exists_append_of_byteLength_le {front back front' back' : Text}
    (h : front ++ back = front' ++ back') (hle : byteLength front ≤ byteLength front') :
    ∃ part, front' = front ++ part ∧ back = part ++ back' := by
  rcases List.append_eq_append_iff.mp h with ⟨part, hfront', hback⟩ | ⟨part, hfront, hback'⟩
  · exact ⟨part, hfront', hback⟩
  · rw [hfront, byteLength_append] at hle
    obtain rfl : part = [] := (byteLength_eq_zero_iff part).mp (by omega)
    exact ⟨[], by simpa using hfront.symm, by simpa using hback'.symm⟩

/-- There is a slice between two offsets exactly if they are in order and boundaries. -/
theorem slice?_isSome_iff {t : Text} {start stop : Nat} :
    (slice? t start stop).isSome ↔
      start ≤ stop ∧ IsBoundary t start ∧ IsBoundary t stop := by
  rw [Option.isSome_iff_exists]
  constructor
  · rintro ⟨part, hpart⟩
    obtain ⟨front, back, rfl, rfl, rfl⟩ := slice?_eq_some_iff.mp hpart
    refine ⟨?_, ?_, isBoundary_append _ back⟩
    · rw [byteLength_append]
      exact Nat.le_add_right _ _
    · rw [List.append_assoc]
      exact isBoundary_append front _
  · rintro ⟨hle, ⟨front, back, rfl, rfl⟩, ⟨front', back', hsame, rfl⟩⟩
    obtain ⟨part, rfl, rfl⟩ := exists_append_of_byteLength_le hsame hle
    rw [← List.append_assoc]
    exact ⟨part, slice?_append front part back'⟩

/-! ## Searching -/

theorem offsetOf?_eq (p : Char → Bool) (t : Text) :
    offsetOf? p t =
      if t.all (fun c => !p c) then none else some (byteLength (t.takeWhile (fun c => !p c))) := by
  induction t with
  | nil => rfl
  | cons c rest ih =>
      unfold offsetOf?
      cases hc : p c with
      | true => simp [hc]
      | false =>
          rw [ih]
          by_cases hrest : rest.all (fun c => !p c) = true
          · simp [hc, hrest]
          · simp [hc, hrest]

end DumpConvert.Text
