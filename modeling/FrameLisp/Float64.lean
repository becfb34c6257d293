/-!
# The parts of a 64-bit float

A finite float is a sign and an exact dyadic number `mantissa * 2 ^ exponent`.  `decode` takes a
float apart and `encode` puts one together; both work on the bits, so nothing is rounded.  On them
rests the exact remainder, which floats share with no operation of their own.
-/

namespace FrameLisp.Float64

/-- The least exponent of a float. -/
def leastExponent : Int := -1074

/-- The bit before the 52 bits of the fraction, which a normal float has without storing it. -/
def hiddenBit : Nat := 1 <<< 52

/-- The highest bit of a float, set in the negative ones. -/
def signBit : Nat := 1 <<< 63

/-- A float taken apart. -/
inductive Parts where
  /-- Not a number. -/
  | nan
  /-- An infinity. -/
  | infinity (negative : Bool)
  /-- The number `mantissa * 2 ^ exponent`, negated if asked for. -/
  | finite (negative : Bool) (mantissa : Nat) (exponent : Int)
deriving DecidableEq

/-- The parts of a float, read off its bits: one of sign, eleven of exponent, 52 of fraction. -/
def decode (x : Float) : Parts :=
  let bits := x.toBits.toNat
  let negative : Bool := signBit ≤ bits
  let exponent : Nat := (bits >>> 52) % 2048
  let fraction := bits % hiddenBit
  if exponent = 2047 then
    if fraction = 0 then .infinity negative else .nan
  else if exponent = 0 then .finite negative fraction leastExponent
  else .finite negative (fraction + hiddenBit) (exponent - 1075)

/-- The float `mantissa * 2 ^ exponent`, for a mantissa below `2 ^ 53` and an exponent from the
least one on; the mantissa is moved up as far as the format allows. -/
def encode (negative : Bool) (mantissa : Nat) (exponent : Int) : Float :=
  let room := if mantissa = 0 then 0 else 52 - mantissa.log2
  let move := min room (exponent - leastExponent).toNat
  let full := mantissa <<< move
  let magnitude :=
    if full < hiddenBit then full
    else ((exponent - move + 1075).toNat <<< 52) + (full - hiddenBit)
  Float.ofBits (UInt64.ofNat (magnitude + if negative then signBit else 0))

/-- Not a number. -/
def notANumber : Float := Float.ofBits 0x7ff8000000000000

/-- The exact remainder of a division rounded toward zero; it has the sign of the dividend. -/
def remainder (x y : Float) : Float :=
  match decode x, decode y with
  | .finite negative m e, .finite _ n f =>
    if n = 0 then notANumber
    else
      let least := min e f
      let r := (m <<< (e - least).toNat) % (n <<< (f - least).toNat)
      encode negative r least
  | .finite .., .infinity _ => x
  | _, _ => notANumber

/-- The integer a finite float equals, if its value is whole. -/
def whole? (x : Float) : Option (Bool × Nat) :=
  match decode x with
  | .finite negative m e =>
    if 0 ≤ e then some (negative, m <<< e.toNat)
    else if m % (1 <<< (-e).toNat) = 0 then some (negative, m >>> (-e).toNat)
    else none
  | _ => none

end FrameLisp.Float64
