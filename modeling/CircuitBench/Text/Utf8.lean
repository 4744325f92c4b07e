/-!
# UTF-8

Bytes are decoded one after the other. A sequence that is not well formed is reported by the place
where it starts, which is the number of bytes before it that are well formed. `encode` goes the
other way.
-/

namespace CircuitBench.Utf8

/-- The bytes of a text. -/
def encode (cs : List Char) : List UInt8 :=
  cs.flatMap String.utf8EncodeChar

/-- A sequence that has begun: how many bytes are missing, the value so far, the range of the next
byte, and where the sequence starts. -/
structure Pending where
  missing : Nat
  value : Nat
  low : Nat
  high : Nat
  start : Nat

/-- What a first byte begins: a character of its own or a longer sequence. Overlong forms,
surrogates and values beyond Unicode are excluded by the range of the second byte. -/
def begin? (start byte : Nat) : Option (Char ⊕ Pending) :=
  if byte < 0x80 then some (.inl (Char.ofNat byte))
  else if 0xC2 ≤ byte ∧ byte ≤ 0xDF then some (.inr ⟨1, byte - 0xC0, 0x80, 0xBF, start⟩)
  else if byte = 0xE0 then some (.inr ⟨2, 0, 0xA0, 0xBF, start⟩)
  else if byte = 0xED then some (.inr ⟨2, 0xD, 0x80, 0x9F, start⟩)
  else if 0xE1 ≤ byte ∧ byte ≤ 0xEF then some (.inr ⟨2, byte - 0xE0, 0x80, 0xBF, start⟩)
  else if byte = 0xF0 then some (.inr ⟨3, 0, 0x90, 0xBF, start⟩)
  else if 0xF1 ≤ byte ∧ byte ≤ 0xF3 then some (.inr ⟨3, byte - 0xF0, 0x80, 0xBF, start⟩)
  else if byte = 0xF4 then some (.inr ⟨3, 4, 0x80, 0x8F, start⟩)
  else none

/-- A sequence with one more byte: the character when it is complete. -/
def Pending.extend? (p : Pending) (byte : Nat) : Option (Char ⊕ Pending) :=
  if p.low ≤ byte ∧ byte ≤ p.high then
    let value := p.value * 0x40 + (byte - 0x80)
    if p.missing ≤ 1 then some (.inl (Char.ofNat value))
    else some (.inr ⟨p.missing - 1, value, 0x80, 0xBF, p.start⟩)
  else none

/-- The text of the bytes from an offset on. -/
def decodeFrom (offset : Nat) (pending : Option Pending) : List UInt8 → Except Nat (List Char)
  | [] =>
    match pending with
    | none => .ok []
    | some p => .error p.start
  | b :: rest =>
    let (start, next) := match pending with
      | none => (offset, begin? offset b.toNat)
      | some p => (p.start, p.extend? b.toNat)
    match next with
    | none => .error start
    | some (.inl c) => (decodeFrom (offset + 1) none rest).map (c :: ·)
    | some (.inr p) => decodeFrom (offset + 1) (some p) rest

/-- The text of some bytes, or the number of well-formed bytes in front. -/
def decode (bytes : List UInt8) : Except Nat (List Char) :=
  decodeFrom 0 none bytes

end CircuitBench.Utf8
