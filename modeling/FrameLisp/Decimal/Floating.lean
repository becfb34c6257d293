import FrameLisp.Decimal
import FrameLisp.Decimal.Shortest
import FrameLisp.Float64

/-!
# Floats in decimal

Floats are written without an exponent.  A whole number has all its digits and one zero after the
point, any other number the fewest places that read back.  Reading takes an optional sign and
either a name (`inf`, `infinity`, `nan`, in any case) or digits with an optional point and an
optional exponent, and rounds to the nearest float.
-/

namespace FrameLisp.Decimal

/-- The written form of a float. -/
def ofFloat (x : Float) : String :=
  match Float64.decode x with
  | .nan => "NaN"
  | .infinity negative => if negative then "-inf" else "inf"
  | .finite negative m e =>
    let sign := if negative then "-" else ""
    match Float64.whole? x with
    | some (_, n) => sign ++ ofNat n ++ ".0"
    | none =>
      let narrow := m = Float64.hiddenBit ∧ e ≠ Float64.leastExponent
      let (c, places) := Dyadic.shortest ⟨m, (-e).toNat, narrow⟩
      sign ++ withPoint c places

/-! ### Reading -/

/-- Splits off the leading digits. -/
def spanDigits (cs : List Char) : List Char × List Char :=
  (cs.takeWhile Char.isDigit, cs.dropWhile Char.isDigit)

/-- The value of an optional exponent at the end of a number. -/
def exponentOf? : List Char → Option Int
  | [] => some 0
  | e :: rest =>
    if e = 'e' ∨ e = 'E' then
      match rest with
      | '-' :: digits => (natOf? digits).map fun n => -(n : Int)
      | '+' :: digits => (natOf? digits).map fun n => (n : Int)
      | digits => (natOf? digits).map fun n => (n : Int)
    else none

/-- The float `coefficient * 10 ^ exponent`, rounded to nearest. -/
def scientific (coefficient : Nat) (exponent : Int) : Float :=
  Float.ofScientific coefficient (exponent < 0) exponent.natAbs

/-- Reads digits with an optional point and an optional exponent. -/
def readUnsigned? (cs : List Char) : Option Float :=
  let (whole, rest) := spanDigits cs
  let (fraction, rest) :=
    match rest with
    | '.' :: rest => spanDigits rest
    | rest => ([], rest)
  (natOf? (whole ++ fraction)).bind fun c =>
    (exponentOf? rest).map fun e => scientific c (e - fraction.length)

/-- Reads a float without its sign. -/
def readMagnitude? (cs : List Char) : Option Float :=
  let name := String.ofList (cs.map Char.toLower)
  if name = "inf" ∨ name = "infinity" then some (1.0 / 0.0)
  else if name = "nan" then some Float64.notANumber
  else readUnsigned? cs

/-- Reads a float. -/
def readFloat? (text : String) : Option Float :=
  match text.toList with
  | '-' :: cs => (readMagnitude? cs).map fun x => -x
  | '+' :: cs => readMagnitude? cs
  | cs => readMagnitude? cs

end FrameLisp.Decimal
