/-!
# Whole numbers in decimal

Writing and reading of whole numbers.  Numbers of the language have 64 bits; `fit64` is the one
gate through which an exact integer becomes such a number, so arithmetic is done on `Int` and
either fits or is refused.
-/

namespace FrameLisp

/-- The 64-bit number of an integer that is in range. -/
def fit64 (n : Int) : Option Int64 :=
  if Int64.minValue.toInt ≤ n ∧ n ≤ Int64.maxValue.toInt then some (Int64.ofInt n) else none

theorem fit64_eq_some_iff {n : Int} {w : Int64} : fit64 n = some w ↔ w.toInt = n := by
  unfold fit64
  split
  · rename_i h
    constructor
    · intro e
      cases e
      exact Int64.toInt_ofInt_of_le h.1 (Int.lt_of_le_of_lt h.2 (by decide))
    · rintro rfl
      rw [Int64.ofInt_toInt]
  · rename_i h
    simp only [reduceCtorEq, false_iff]
    rintro rfl
    exact h ⟨w.minValue_le_toInt, w.toInt_le⟩

namespace Decimal

/-- The digits of a natural number, without leading zeros. -/
def ofNat (n : Nat) : String :=
  String.ofList (Nat.toDigits 10 n)

/-- The digits of an integer, with a minus sign if it is negative. -/
def ofInt : Int → String
  | .ofNat n => ofNat n
  | .negSucc n => "-" ++ ofNat (n + 1)

/-- The value of a nonempty run of digits. -/
def natOf? (digits : List Char) : Option Nat :=
  if digits ≠ [] ∧ digits.all Char.isDigit then some (Nat.ofDigitChars 10 digits 0) else none

/-- Reads an optional sign and a run of digits as a 64-bit number.  Anything else, and a number
out of range, is refused. -/
def read64? (text : String) : Option Int64 :=
  match text.toList with
  | '-' :: digits => (natOf? digits).bind fun n => fit64 (-n)
  | '+' :: digits => (natOf? digits).bind fun n => fit64 n
  | digits => (natOf? digits).bind fun n => fit64 n

theorem natOf?_toDigits (n : Nat) : natOf? (Nat.toDigits 10 n) = some n := by
  have hd : (Nat.toDigits 10 n).all Char.isDigit = true :=
    List.all_eq_true.2 fun _ hc => Nat.isDigit_of_mem_toDigits (by decide) (by decide) hc
  simp [natOf?, hd, Nat.ofDigitChars_ten_toDigits]

end Decimal

end FrameLisp
