/-!
# The shortest decimal that reads back

A positive float that is not whole is `mantissa / 2 ^ scale`.  Every real number strictly between
the middles toward its two neighbours reads back as it, and so do the middles themselves if the
mantissa is even.  `shortest` finds the decimal of the fewest places in that interval.  With `p`
places only the two neighbours of the value on the grid of `10 ^ -p` can be meant: if one of them
is in the interval the search ends, and of two the nearer is taken, the upper one on a tie.  At
`p = scale` the value itself is on the grid, so the search needs no other bound.
-/

namespace FrameLisp.Decimal

/-- The number `10 ^ places`, one in units of the last place. -/
def grid (places : Nat) : Nat :=
  Nat.pow 10 places

/-- The number `mantissa / 2 ^ scale` as one of the floats around it. -/
structure Dyadic where
  /-- The numerator. -/
  mantissa : Nat
  /-- The exponent of the denominator, a power of two. -/
  scale : Nat
  /-- Whether the neighbour below is half as far away as the one above. -/
  narrowBelow : Bool

namespace Dyadic

/-- Four times the lower end of the interval that reads back as `x`, in units of
`1 / 2 ^ scale`. -/
def low (x : Dyadic) : Nat :=
  4 * x.mantissa - if x.narrowBelow then 1 else 2

/-- Four times the upper end of the interval that reads back as `x`, in units of
`1 / 2 ^ scale`. -/
def high (x : Dyadic) : Nat :=
  4 * x.mantissa + 2

/-- Whether the decimal `c / 10 ^ places` reads back as `x`. -/
def accepts (x : Dyadic) (c places : Nat) : Bool :=
  let point := (4 * c) <<< x.scale
  let low := x.low * grid places
  let high := x.high * grid places
  if x.mantissa % 2 = 0 then low ≤ point && point ≤ high else low < point && point < high

/-- The coefficient of the decimal of `places` places that reads back as `x` and is nearest to it,
if there is one. -/
def pick? (x : Dyadic) (places : Nat) : Option Nat :=
  let numerator := x.mantissa * grid places
  let below := numerator >>> x.scale
  let rest := numerator % (1 <<< x.scale)
  match x.accepts below places, x.accepts (below + 1) places with
  | true, true => some (if 2 * rest < 1 <<< x.scale then below else below + 1)
  | true, false => some below
  | false, true => some (below + 1)
  | false, false => none

/-- The search from `places` on, with `left` more places until the value itself is on the grid. -/
def shortestFrom (x : Dyadic) (places : Nat) : Nat → Nat × Nat
  | 0 => ((x.mantissa * grid places) >>> x.scale, places)
  | left + 1 =>
    match x.pick? places with
    | some c => (c, places)
    | none => x.shortestFrom (places + 1) left

/-- The coefficient and the number of places of the shortest decimal that reads back. -/
def shortest (x : Dyadic) : Nat × Nat :=
  x.shortestFrom 0 x.scale

end Dyadic

/-- A coefficient written with its last `places` digits after the point. -/
def withPoint (coefficient places : Nat) : String :=
  let digits := Nat.toDigits 10 coefficient
  let padded := List.replicate (places + 1 - digits.length) '0' ++ digits
  let before := padded.length - places
  String.ofList (padded.take before ++ '.' :: padded.drop before)

end FrameLisp.Decimal
