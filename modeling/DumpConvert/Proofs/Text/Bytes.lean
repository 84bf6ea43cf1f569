import DumpConvert.Dictionary
import Mathlib.Data.List.Basic

/-!
# The bytes of a text

A text is written as the UTF-8 bytes of its characters, one after the other.  As many
bytes are written as `byteLength` counts, and an ASCII character is the only one in whose
bytes its code occurs (`mem_utf8EncodeChar_iff`), so the first and the last byte of a text
tell whether such a character stands there.

Texts in the order of their code points are in the order of their bytes as well
(`bytes_lt_iff`).
-/

namespace DumpConvert.Text

def bytes (t : Text) : List UInt8 :=
  t.flatMap String.utf8EncodeChar

theorem bytes_cons (c : Char) (t : Text) :
    bytes (c :: t) = String.utf8EncodeChar c ++ bytes t := by
  rfl

theorem bytes_append (s t : Text) : bytes (s ++ t) = bytes s ++ bytes t := by
  exact List.flatMap_append

theorem length_bytes (t : Text) : (bytes t).length = byteLength t := by
  induction t with
  | nil => rfl
  | cons c rest ih =>
      rw [bytes_cons, List.length_append, String.length_utf8EncodeChar, ih, byteLength_cons]

theorem utf8EncodeChar_ne_nil (c : Char) : String.utf8EncodeChar c ≠ [] := by
  intro hnil
  have hsize := String.length_utf8EncodeChar c
  rw [hnil, List.length_nil] at hsize
  exact absurd hsize.symm (Nat.ne_of_gt c.utf8Size_pos)

/-! ## ASCII characters -/

def asciiByte (c : Char) : UInt8 :=
  UInt8.ofNat c.toNat

theorem toNat_lt_of_char (c : Char) : c.val.toNat < 0x110000 := by
  have hvalid := c.valid
  simp only [UInt32.isValidChar, Nat.isValidChar] at hvalid
  omega

theorem utf8EncodeChar_of_ascii {c : Char} (h : c.toNat < 128) :
    String.utf8EncodeChar c = [asciiByte c] := by
  have hcode : c.val.toNat ≤ 127 := Nat.le_of_lt_succ h
  simp only [String.utf8EncodeChar, if_pos hcode]
  rfl

theorem utf8Size_of_ascii {c : Char} (h : c.toNat < 128) : c.utf8Size = 1 := by
  rw [← String.length_utf8EncodeChar, utf8EncodeChar_of_ascii h, List.length_singleton]

/-- A byte below 128 is the only one of its character, and it is the code of that. -/
theorem toNat_of_mem_utf8EncodeChar {c : Char} {b : UInt8} (hmem : b ∈ String.utf8EncodeChar c)
    (hb : b.toNat < 128) : c.val.toNat = b.toNat := by
  have hbound := toNat_lt_of_char c
  unfold String.utf8EncodeChar at hmem
  dsimp only at hmem
  -- In a longer form every byte has its highest bit set.
  split_ifs at hmem <;>
    simp only [List.mem_cons, List.not_mem_nil, or_false, ← UInt8.toNat_inj,
      UInt8.toNat_ofNat'] at hmem <;> omega

theorem mem_utf8EncodeChar_iff {a : Char} (ha : a.toNat < 128) (c : Char) :
    asciiByte a ∈ String.utf8EncodeChar c ↔ c = a := by
  have hbyte : (asciiByte a).toNat = a.toNat := UInt8.toNat_ofNat_of_lt' (Nat.lt_trans ha (by decide))
  constructor
  · intro hmem
    have hcode := toNat_of_mem_utf8EncodeChar hmem (by rw [hbyte]; exact ha)
    exact Char.toNat_inj.mp (hcode.trans hbyte)
  · rintro rfl
    rw [utf8EncodeChar_of_ascii ha]
    exact List.mem_singleton_self _

theorem head?_bytes_iff {a : Char} (ha : a.toNat < 128) (t : Text) :
    (bytes t).head? = some (asciiByte a) ↔ t.head? = some a := by
  cases t with
  | nil => exact iff_of_false (by simp [bytes]) (by simp)
  | cons c rest =>
      obtain ⟨b, more, hcode⟩ := List.exists_cons_of_ne_nil (utf8EncodeChar_ne_nil c)
      rw [bytes_cons, hcode, List.head?_cons, List.cons_append, List.head?_cons, Option.some_inj,
        Option.some_inj, ← mem_utf8EncodeChar_iff ha]
      constructor
      · rintro rfl
        rw [hcode]
        exact List.mem_cons_self
      · intro hmem
        rw [(mem_utf8EncodeChar_iff ha c).mp hmem, utf8EncodeChar_of_ascii ha] at hcode
        exact (List.cons.inj hcode).1.symm

theorem getLast?_bytes_iff {a : Char} (ha : a.toNat < 128) (t : Text) :
    (bytes t).getLast? = some (asciiByte a) ↔ t.getLast? = some a := by
  rcases List.eq_nil_or_concat t with rfl | ⟨front, c, rfl⟩
  · exact iff_of_false (by simp [bytes]) (by simp)
  · have hcode : bytes (front ++ [c]) = bytes front ++ String.utf8EncodeChar c := by
      rw [bytes_append, bytes_cons]
      exact congrArg _ (List.append_nil _)
    rw [List.concat_eq_append, hcode, List.getLast?_append_of_ne_nil _ (utf8EncodeChar_ne_nil c),
      List.getLast?_concat, Option.some_inj, ← mem_utf8EncodeChar_iff ha]
    constructor
    · exact List.mem_of_getLast?
    · intro hmem
      rw [(mem_utf8EncodeChar_iff ha c).mp hmem, utf8EncodeChar_of_ascii ha]
      rfl

/-! ## Order -/

/-- A byte that is equal leaves the order to what follows it, and a smaller one decides it. -/
theorem byte_cons_lt {x y : Nat} {s t : List UInt8} (hy : y < 256) (hle : x ≤ y)
    (hrest : x = y → s < t) : UInt8.ofNat x :: s < UInt8.ofNat y :: t := by
  rw [List.cons_lt_cons_iff]
  rcases Nat.lt_or_eq_of_le hle with hlt | rfl
  · refine .inl (UInt8.lt_iff_toNat_lt.mpr ?_)
    rw [UInt8.toNat_ofNat_of_lt' (Nat.lt_trans hlt hy), UInt8.toNat_ofNat_of_lt' hy]
    exact hlt
  · exact .inr ⟨rfl, hrest rfl⟩

theorem byte_cons_lt_of_lt {x y : Nat} (hy : y < 256) (hlt : x < y) (s t : List UInt8) :
    UInt8.ofNat x :: s < UInt8.ofNat y :: t := by
  exact byte_cons_lt hy (Nat.le_of_lt hlt) fun heq => absurd heq (Nat.ne_of_lt hlt)

theorem utf8EncodeChar_append_lt {c d : Char} (h : c < d) (s t : List UInt8) :
    String.utf8EncodeChar c ++ s < String.utf8EncodeChar d ++ t := by
  have hlt : c.val.toNat < d.val.toNat := h
  have hbound := toNat_lt_of_char d
  unfold String.utf8EncodeChar
  dsimp only
  generalize c.val.toNat = v at *
  generalize d.val.toNat = w at *
  -- Forms of different lengths differ in the first byte, those of one length in a digit.
  split_ifs
  any_goals omega
  · exact byte_cons_lt_of_lt (by omega) hlt s t
  · exact byte_cons_lt_of_lt (by omega) (by omega) _ _
  · exact byte_cons_lt_of_lt (by omega) (by omega) _ _
  · exact byte_cons_lt_of_lt (by omega) (by omega) _ _
  · refine byte_cons_lt (by omega) (by omega) fun hfirst => ?_
    exact byte_cons_lt_of_lt (by omega) (by omega) s t
  · exact byte_cons_lt_of_lt (by omega) (by omega) _ _
  · exact byte_cons_lt_of_lt (by omega) (by omega) _ _
  · refine byte_cons_lt (by omega) (by omega) fun hfirst => ?_
    refine byte_cons_lt (by omega) (by omega) fun hsecond => ?_
    exact byte_cons_lt_of_lt (by omega) (by omega) s t
  · exact byte_cons_lt_of_lt (by omega) (by omega) _ _
  · refine byte_cons_lt (by omega) (by omega) fun hfirst => ?_
    refine byte_cons_lt (by omega) (by omega) fun hsecond => ?_
    refine byte_cons_lt (by omega) (by omega) fun hthird => ?_
    exact byte_cons_lt_of_lt (by omega) (by omega) s t

theorem bytes_lt_of_lt {s t : Text} (h : s < t) : bytes s < bytes t := by
  induction s generalizing t with
  | nil =>
      cases t with
      | nil => exact absurd h (List.lt_irrefl [])
      | cons d more =>
          obtain ⟨b, later, hcode⟩ := List.exists_cons_of_ne_nil (utf8EncodeChar_ne_nil d)
          rw [bytes_cons, hcode]
          exact List.nil_lt_cons b _
  | cons c rest ih =>
      cases t with
      | nil => exact absurd h (List.not_lt_nil _)
      | cons d more =>
          rw [bytes_cons, bytes_cons]
          rcases List.cons_lt_cons_iff.mp h with hlt | ⟨rfl, hmore⟩
          · exact utf8EncodeChar_append_lt hlt _ _
          · exact List.append_left_lt (ih hmore)

/-- The order of texts by code point is their order by byte. -/
theorem bytes_lt_iff (s t : Text) : bytes s < bytes t ↔ s < t := by
  refine ⟨fun hbytes => ?_, bytes_lt_of_lt⟩
  by_contra hlt
  by_cases hgt : t < s
  · exact List.lt_asymm hbytes (bytes_lt_of_lt hgt)
  · rw [Dictionary.eq_of_not_lt hlt hgt] at hbytes
    exact List.lt_irrefl _ hbytes

end DumpConvert.Text
