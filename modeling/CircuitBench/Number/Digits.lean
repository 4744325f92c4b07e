/-!
# Decimal digits

Natural numbers and integers as runs of ASCII digits (`natText`, `intText`), read with a bound and
an optional sign (`readNat?`, `readInt?`). The digits of a number denote it (`digitsValue_natText`)
and are read as it (`readNat?_natText`).
-/

namespace CircuitBench.Number

/-- The digits of a natural number, without leading zeros. -/
def natText (n : Nat) : List Char :=
  Nat.toDigits 10 n

/-- The digits of an integer, with a minus sign when it is negative. -/
def intText : Int → List Char
  | .ofNat n => natText n
  | .negSucc n => '-' :: natText (n + 1)

/-- The number that a run of digits denotes. -/
def digitsValue (ds : List Char) : Nat :=
  Nat.ofDigitChars 10 ds 0

/-- A run of at least one digit. -/
def isDigits (cs : List Char) : Bool :=
  !cs.isEmpty && cs.all Char.isDigit

/-- A natural number below `bound`, from digits with an optional plus sign. -/
def readNat? (bound : Nat) (cs : List Char) : Option Nat :=
  let ds := match cs with
    | '+' :: rest => rest
    | _ => cs
  if isDigits ds && digitsValue ds < bound then some (digitsValue ds) else none

/-- An integer from `-bound` up to but not including `bound`, from digits with an optional sign. -/
def readInt? (bound : Nat) (cs : List Char) : Option Int :=
  match cs with
  | '-' :: ds =>
    if isDigits ds && digitsValue ds ≤ bound then some (-(digitsValue ds : Int)) else none
  | _ => (readNat? bound cs).map Int.ofNat

/-- The bound of unsigned 32-bit numbers. -/
def word32 : Nat := Nat.pow 2 32

/-- The bound of unsigned 64-bit numbers. -/
def word64 : Nat := Nat.pow 2 64

/-- The bound of signed 64-bit numbers. -/
def signed64 : Nat := Nat.pow 2 63

/-- The digits of a number denote it. -/
@[simp] theorem digitsValue_natText (n : Nat) : digitsValue (natText n) = n :=
  Nat.ofDigitChars_toDigits (by decide) (by decide)

/-- The text of a number is a run of digits. -/
theorem isDigits_natText (n : Nat) : isDigits (natText n) = true := by
  have h : natText n ≠ [] := Nat.toDigits_ne_nil
  simp only [isDigits, Bool.and_eq_true, List.all_eq_true, Bool.not_eq_true',
    List.isEmpty_eq_false_iff]
  exact ⟨h, fun c hc => Nat.isDigit_of_mem_toDigits (by decide) (by decide) hc⟩

/-- The text of a number below the bound is read as the number. -/
theorem readNat?_natText {bound n : Nat} (h : n < bound) : readNat? bound (natText n) = some n := by
  have hdigits := isDigits_natText n
  have hvalue := digitsValue_natText n
  unfold readNat?
  split
  · next rest heq =>
    rw [heq] at hdigits
    simp [isDigits, Char.isDigit] at hdigits
  · simp only [hdigits, hvalue, h, decide_true, Bool.and_self, if_true]

end CircuitBench.Number
