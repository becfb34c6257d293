import FrameLisp.Value.Equality

/-!
# Comparisons

Comparisons take any number of values and hold if they hold between all neighbours.  Texts are
ordered by their characters' code points, numbers as floats, and not-a-number is in no order with
anything.  The first pair that fails decides, so later pairs are not looked at, not even for their
types.
-/

namespace FrameLisp.Operation

/-- Whether all neighbours are equal. -/
def allEqual : List Value → Bool
  | a :: b :: rest => a.equal b && allEqual (b :: rest)
  | _ => true

/-- How two texts are ordered. -/
def textOrder (a b : String) : Ordering :=
  if a < b then .lt else if a = b then .eq else .gt

/-- How two floats are ordered, if they are. -/
def floatOrder? (x y : Float) : Option Ordering :=
  if x < y then some .lt
  else if x == y then some .eq
  else if y < x then some .gt
  else none

/-- How two values are ordered for an operator. -/
def order? (operator : String) (a b : Value) : Except Fault (Option Ordering) :=
  match a, b with
  | .str x, .str y => .ok (some (textOrder x y))
  | _, _ =>
    match a.float?, b.float? with
    | some x, some y => .ok (floatOrder? x y)
    | _, _ => .error (.unordered operator a.typeName b.typeName)

/-- Whether all neighbours are in an order that `holds` admits. -/
def allOrdered (operator : String) (holds : Ordering → Bool) : List Value → Except Fault Bool
  | a :: b :: rest => do
    let order ← order? operator a b
    if order.any holds then allOrdered operator holds (b :: rest) else return false
  | _ => .ok true

/-- A comparison of one or more values. -/
def comparison (operator : String) (holds : Ordering → Bool) (args : List Value) :
    Except Fault Value :=
  if args.isEmpty then .error (.noOperands operator)
  else (allOrdered operator holds args).map .bool

end FrameLisp.Operation
