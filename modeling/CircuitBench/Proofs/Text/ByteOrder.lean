import Mathlib
import CircuitBench.Proofs.Text.Utf8

/-!
# The order of bytes

UTF-8 keeps the order of code points: of two texts the one that comes first by its characters comes
first by its bytes (`encode_le_iff`). A leading byte is larger the more bytes follow it, and among
characters of equally many bytes the higher bits come first (`encodeChar_append_lt`).
-/

namespace CircuitBench.Utf8

open String (utf8EncodeChar)

/-- Bytes are in the order of their values. -/
lemma lt_of_map_toNat_lt {xs ys : List UInt8} (h : xs.map UInt8.toNat < ys.map UInt8.toNat) :
    xs < ys := by
  induction xs generalizing ys with
  | nil =>
    cases ys with
    | nil => cases h
    | cons y ys => exact List.nil_lt_cons y ys
  | cons x xs ih =>
    cases ys with
    | nil => cases h
    | cons y ys =>
      rw [List.map_cons, List.map_cons, List.cons_lt_cons_iff, UInt8.toNat_inj] at h
      exact List.cons_lt_cons_iff.2 (h.imp UInt8.lt_iff_toNat_lt.2 fun h => ⟨h.1, ih h.2⟩)

/-- The bytes of a smaller character come first, whatever follows. -/
lemma encodeChar_append_lt {c d : Char} (h : c < d) (xs ys : List UInt8) :
    utf8EncodeChar c ++ xs < utf8EncodeChar d ++ ys := by
  have hnat : c.toNat < d.toNat := UInt32.lt_iff_toNat_lt.1 h
  have hlt : d.toNat < 0x110000 := by
    rcases d.valid with h | h
    · exact Nat.lt_trans h (by decide)
    · exact h.2
  apply lt_of_map_toNat_lt
  rw [List.map_append, List.map_append, map_toNat_encodeChar, map_toNat_encodeChar]
  split_ifs <;> simp only [List.cons_append, List.cons_lt_cons_iff, List.nil_append] <;> omega

/-- The bytes of a smaller text come first. -/
theorem encode_lt {cs ds : List Char} (h : cs < ds) : encode cs < encode ds := by
  induction h with
  | @nil d ds =>
    rw [encode_cons]
    obtain ⟨b, bs, hb⟩ := List.exists_cons_of_ne_nil (String.utf8EncodeChar_ne_nil (c := d))
    rw [hb]
    exact List.nil_lt_cons _ _
  | cons _ ih => exact List.append_left_lt ih
  | rel h => exact encodeChar_append_lt h _ _

/-- The text with the smaller bytes is the smaller one. -/
theorem encode_lt_iff {cs ds : List Char} : encode cs < encode ds ↔ cs < ds := by
  refine ⟨fun h => ?_, encode_lt⟩
  obtain hlt | rfl | hgt := lt_trichotomy cs ds
  · exact hlt
  · exact absurd h (List.lt_irrefl _)
  · exact absurd h (List.lt_asymm (encode_lt hgt))

/-- The order of bytes is that of texts. -/
theorem encode_le_iff {a b : String} : encode a.toList ≤ encode b.toList ↔ a ≤ b := by
  rw [← List.not_lt, encode_lt_iff, ← String.lt_iff_toList_lt, String.not_lt]

end CircuitBench.Utf8
