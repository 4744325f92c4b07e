import Mathlib
import CircuitBench.Text.Utf8

/-!
# Encoded texts are decoded again

The bytes of a character are one byte below 128 that is its number, or several bytes from 128 on
(`encodeChar_of_lt`, `le_of_mem_encodeChar`). So bytes of ASCII characters are found in the bytes of
a text exactly where these characters stand, and a decoder that has read the bytes of one character
stands at the start of the next (`decode_encode`).
-/

namespace CircuitBench.Utf8

open String (utf8EncodeChar)

/-! ### The bytes of a character -/

/-- The bytes of a character as numbers: its bits in groups of six behind a leading byte. -/
lemma map_toNat_encodeChar (c : Char) : (utf8EncodeChar c).map UInt8.toNat =
    if c.toNat < 0x80 then [c.toNat]
    else if c.toNat < 0x800 then [c.toNat / 64 + 0xC0, c.toNat % 64 + 0x80]
    else if c.toNat < 0x10000 then
      [c.toNat / 4096 + 0xE0, c.toNat / 64 % 64 + 0x80, c.toNat % 64 + 0x80]
    else [c.toNat / 262144 + 0xF0, c.toNat / 4096 % 64 + 0x80, c.toNat / 64 % 64 + 0x80,
      c.toNat % 64 + 0x80] := by
  have hval : c.val.toNat = c.toNat := rfl
  have hlt : c.toNat < 0x110000 := by
    rcases c.valid with h | h <;> omega
  unfold utf8EncodeChar
  simp only [hval, Nat.lt_succ_iff]
  split_ifs <;> simp only [List.map_cons, List.map_nil, UInt8.toNat_ofNat', List.cons.injEq,
    and_true] <;> omega

/-- The bytes of an ASCII character: its number. -/
lemma encodeChar_of_lt {c : Char} (h : c.toNat < 128) :
    utf8EncodeChar c = [UInt8.ofNat c.toNat] := by
  have hle : c.val.toNat ≤ 127 := Nat.le_of_lt_succ h
  unfold utf8EncodeChar
  simp only [hle, if_true]
  rfl

/-- The bytes of other characters are no ASCII characters. -/
lemma le_of_mem_encodeChar {c : Char} (h : 128 ≤ c.toNat) {b : UInt8} (hb : b ∈ utf8EncodeChar c) :
    128 ≤ b.toNat := by
  have hmem := List.mem_map_of_mem (f := UInt8.toNat) hb
  rw [map_toNat_encodeChar, if_neg (by omega)] at hmem
  split_ifs at hmem <;> simp only [List.mem_cons, List.not_mem_nil, or_false] at hmem <;> omega

/-- The byte of an ASCII character stands in the bytes of no other character. -/
lemma ofNat_mem_encodeChar_iff {a c : Char} (ha : a.toNat < 128) :
    UInt8.ofNat a.toNat ∈ utf8EncodeChar c ↔ c = a := by
  have hbyte : (UInt8.ofNat a.toNat).toNat = a.toNat := by
    rw [UInt8.toNat_ofNat']
    omega
  constructor
  · intro hmem
    have hc : c.toNat < 128 := by
      by_contra hc
      have := le_of_mem_encodeChar (Nat.not_lt.1 hc) hmem
      omega
    rw [encodeChar_of_lt hc, List.mem_singleton] at hmem
    have hnat := congrArg UInt8.toNat hmem
    rw [hbyte, UInt8.toNat_ofNat', Nat.mod_eq_of_lt (by omega)] at hnat
    exact (Char.toNat_inj.1 hnat).symm
  · rintro rfl
    rw [encodeChar_of_lt ha]
    exact List.mem_singleton_self _

/-! ### The bytes of a text -/

@[simp] lemma encode_nil : encode [] = [] := rfl

@[simp] lemma encode_cons (c : Char) (cs : List Char) :
    encode (c :: cs) = utf8EncodeChar c ++ encode cs := rfl

@[simp] lemma encode_append (cs ds : List Char) : encode (cs ++ ds) = encode cs ++ encode ds :=
  List.flatMap_append

/-- The bytes of a text are those of its characters. -/
lemma mem_encode {cs : List Char} {b : UInt8} :
    b ∈ encode cs ↔ ∃ c ∈ cs, b ∈ utf8EncodeChar c :=
  List.mem_flatMap

/-- The first byte of a text belongs to the first character. -/
lemma mem_encodeChar_of_head? {cs : List Char} {b : UInt8} (h : b ∈ (encode cs).head?) :
    ∃ c ∈ cs.head?, b ∈ utf8EncodeChar c := by
  cases cs with
  | nil => cases h
  | cons c cs =>
    rw [encode_cons, List.head?_append_of_ne_nil _ String.utf8EncodeChar_ne_nil] at h
    exact ⟨c, rfl, List.mem_of_mem_head? h⟩

/-- The last byte of a text belongs to the last character. -/
lemma mem_encodeChar_of_getLast? {cs : List Char} {b : UInt8} (h : b ∈ (encode cs).reverse.head?) :
    ∃ c ∈ cs.reverse.head?, b ∈ utf8EncodeChar c := by
  cases cs using List.reverseRecOn with
  | nil => cases h
  | append_singleton cs c =>
    rw [encode_append, encode_cons, encode_nil, List.append_nil, List.reverse_append,
      List.head?_append_of_ne_nil _ (by simp)] at h
    exact ⟨c, by simp, List.mem_reverse.1 (List.mem_of_mem_head? h)⟩

/-! ### Decoding -/

/-- What a leading byte begins. The range of the byte behind it leaves out what fewer bytes would do
for, the surrogates, and what lies beyond the last character. -/
lemma begin?_lead (start : Nat) :
    (∀ x < 0x80, begin? start x = some (.inl (Char.ofNat x))) ∧
    (∀ x, 2 ≤ x → x < 32 → begin? start (x + 0xC0) = some (.inr ⟨1, x, 0x80, 0xBF, start⟩)) ∧
    (∀ x < 16, begin? start (x + 0xE0) = some (.inr
      ⟨2, x, if x = 0 then 0xA0 else 0x80, if x = 13 then 0x9F else 0xBF, start⟩)) ∧
    (∀ x < 5, begin? start (x + 0xF0) = some (.inr
      ⟨3, x, if x = 0 then 0x90 else 0x80, if x = 4 then 0x8F else 0xBF, start⟩)) := by
  refine ⟨fun x hx => by rw [begin?, if_pos hx], fun x hlow hhigh => ?_, fun x hx => ?_,
    fun x hx => ?_⟩
  · rw [begin?, if_neg (by omega), if_pos (by omega), Nat.add_sub_cancel]
  · interval_cases x <;> rfl
  · interval_cases x <;> rfl

section Steps

variable {offset : Nat} {b : UInt8} {rest : List UInt8}

/-- A byte that is a character of its own. -/
lemma decodeFrom_of_single {c : Char} (h : begin? offset b.toNat = some (.inl c)) :
    decodeFrom offset none (b :: rest) = (decodeFrom (offset + 1) none rest).map (c :: ·) := by
  rw [decodeFrom]
  simp only [h]

/-- A byte that begins a sequence. -/
lemma decodeFrom_of_begin {p : Pending} (h : begin? offset b.toNat = some (.inr p)) :
    decodeFrom offset none (b :: rest) = decodeFrom (offset + 1) (some p) rest := by
  rw [decodeFrom]
  simp only [h]

variable {missing value low high start x : Nat}

/-- A byte inside a sequence gives six bits to the value. -/
lemma decodeFrom_of_inner (hb : b.toNat = x + 0x80) (hlow : low ≤ x + 0x80)
    (hhigh : x + 0x80 ≤ high) :
    decodeFrom offset (some ⟨missing + 2, value, low, high, start⟩) (b :: rest) =
      decodeFrom (offset + 1) (some ⟨missing + 1, value * 64 + x, 0x80, 0xBF, start⟩) rest := by
  have hextend : Pending.extend? ⟨missing + 2, value, low, high, start⟩ b.toNat =
      some (.inr ⟨missing + 1, value * 64 + x, 0x80, 0xBF, start⟩) := by
    rw [hb, Pending.extend?, if_pos ⟨hlow, hhigh⟩, Nat.add_sub_cancel]
    dsimp only
    rw [if_neg (by omega)]
    rfl
  rw [decodeFrom]
  simp only [hextend]

/-- The last byte of a sequence completes the character. -/
lemma decodeFrom_of_last {c : Char} (hb : b.toNat = x + 0x80) (hlow : low ≤ x + 0x80)
    (hhigh : x + 0x80 ≤ high) (hc : value * 64 + x = c.toNat) :
    decodeFrom offset (some ⟨1, value, low, high, start⟩) (b :: rest) =
      (decodeFrom (offset + 1) none rest).map (c :: ·) := by
  have hextend : Pending.extend? ⟨1, value, low, high, start⟩ b.toNat = some (.inl c) := by
    rw [hb, Pending.extend?, if_pos ⟨hlow, hhigh⟩, Nat.add_sub_cancel]
    dsimp only
    rw [if_pos le_rfl, hc, Char.ofNat_toNat]
  rw [decodeFrom]
  simp only [hextend]

end Steps

/-- The bytes of a character are read as the character, and the decoder stands behind them. -/
lemma decodeFrom_encodeChar (offset : Nat) (c : Char) : ∃ next, ∀ rest,
    decodeFrom offset none (utf8EncodeChar c ++ rest) =
      (decodeFrom next none rest).map (c :: ·) := by
  have hbytes := map_toNat_encodeChar c
  have hvalid : c.toNat < 0xD800 ∨ 0xDFFF < c.toNat ∧ c.toNat < 0x110000 := c.valid
  obtain ⟨hone, htwo, hthree, hfour⟩ := begin?_lead offset
  refine ⟨offset + (utf8EncodeChar c).length, fun rest => ?_⟩
  split_ifs at hbytes with h1 h2 h3 <;>
    simp only [List.map_eq_cons_iff, List.map_eq_nil_iff] at hbytes
  · obtain ⟨b, _, heq, hb, rfl⟩ := hbytes
    have hbegin := hone _ h1
    rw [Char.ofNat_toNat, ← hb] at hbegin
    rw [heq]
    exact decodeFrom_of_single hbegin
  · obtain ⟨b, _, heq, hb, d, _, rfl, hd, rfl⟩ := hbytes
    have hbegin := htwo (c.toNat / 64) (by omega) (by omega)
    rw [heq, List.cons_append, decodeFrom_of_begin (hb ▸ hbegin)]
    exact decodeFrom_of_last hd (by omega) (by omega) (by omega)
  · obtain ⟨b, _, heq, hb, d, _, rfl, hd, e, _, rfl, he, rfl⟩ := hbytes
    have hbegin := hthree (c.toNat / 4096) (by omega)
    rw [heq, List.cons_append, decodeFrom_of_begin (hb ▸ hbegin), List.cons_append,
      decodeFrom_of_inner hd (by split_ifs <;> omega) (by split_ifs <;> omega)]
    exact decodeFrom_of_last he (by omega) (by omega) (by omega)
  · obtain ⟨b, _, heq, hb, d, _, rfl, hd, e, _, rfl, he, f, _, rfl, hf, rfl⟩ := hbytes
    have hbegin := hfour (c.toNat / 262144) (by omega)
    rw [heq, List.cons_append, decodeFrom_of_begin (hb ▸ hbegin), List.cons_append,
      decodeFrom_of_inner hd (by split_ifs <;> omega) (by split_ifs <;> omega), List.cons_append,
      decodeFrom_of_inner he (by omega) (by omega)]
    exact decodeFrom_of_last hf (by omega) (by omega) (by omega)

/-- Characters are decoded one after the other. -/
lemma decodeFrom_encode (offset : Nat) (cs : List Char) :
    decodeFrom offset none (encode cs) = .ok cs := by
  induction cs generalizing offset with
  | nil => rfl
  | cons c cs ih =>
    obtain ⟨next, hnext⟩ := decodeFrom_encodeChar offset c
    rw [encode_cons, hnext, ih]
    rfl

/-- The bytes of a text are decoded to the text. -/
theorem decode_encode (cs : List Char) : decode (encode cs) = .ok cs :=
  decodeFrom_encode 0 cs

/-- The mark of byte order is the bytes of a character, with which a text starts then. -/
lemma head?_of_encode_eq_mark {cs : List Char} {rest : List UInt8}
    (h : encode cs = 0xEF :: 0xBB :: 0xBF :: rest) : cs.head? = some '\uFEFF' := by
  have hdecode : decode (0xEF :: 0xBB :: 0xBF :: rest) =
      (decodeFrom 3 none rest).map ('\uFEFF' :: ·) := rfl
  rw [← h, decode_encode] at hdecode
  cases hrest : decodeFrom 3 none rest with
  | error offset =>
    rw [hrest] at hdecode
    cases hdecode
  | ok ds =>
    rw [hrest] at hdecode
    cases hdecode
    rfl

end CircuitBench.Utf8
