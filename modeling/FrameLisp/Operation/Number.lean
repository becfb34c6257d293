import FrameLisp.Float64
import FrameLisp.Value

/-!
# Arithmetic

Operators take one or more operands and combine them from the left.  Two whole numbers give their
exact result or a fault if it needs more than 64 bits; a float on either side makes it a float
operation.  A quotient is always a float.  The modulus has the sign of the divisor.  A sum also puts
texts, or lists, one after the other.
-/

namespace FrameLisp.Operation

/-- Combines operands from the left; without any there is nothing to give. -/
def combine (operator : String) (op : Value → Value → Except Fault Value) :
    List Value → Except Fault Value
  | [] => .error (.noOperands operator)
  | first :: rest => rest.foldlM op first

/-- Two numbers under an operator: exact on whole numbers, rounded on floats. -/
def numeric (operator : String) (exact : Int → Int → Int) (rounded : Float → Float → Float)
    (a b : Value) : Except Fault Value :=
  match a, b with
  | .int x, .int y =>
    match fit64 (exact x.toInt y.toInt) with
    | some n => .ok (.int n)
    | none => .error (.integerOverflow operator)
  | _, _ =>
    match a.float?, b.float? with
    | some x, some y => .ok (.float (rounded x y))
    | _, _ => .error (.unsupportedOperands operator a.typeName b.typeName)

/-- The sum of two numbers, or two texts or lists put together. -/
def sum (a b : Value) : Except Fault Value :=
  match a, b with
  | .str x, .str y => .ok (.str (x ++ y))
  | .list x, .list y => .ok (.list (x ++ y))
  | _, _ => numeric "+" (· + ·) (· + ·) a b

/-- The difference of two numbers. -/
def difference (a b : Value) : Except Fault Value :=
  numeric "-" (· - ·) (· - ·) a b

/-- The product of two numbers. -/
def product (a b : Value) : Except Fault Value :=
  numeric "*" (· * ·) (· * ·) a b

/-- The quotient of two numbers, as a float. -/
def quotient (a b : Value) : Except Fault Value :=
  match a.float?, b.float? with
  | some x, some y =>
    if y == 0.0 then .error (.zeroDivision "division by zero") else .ok (.float (x / y))
  | _, _ => .error (.unsupportedOperands "/" a.typeName b.typeName)

/-- The modulus of two whole numbers: the remainder of a division toward zero, moved by the divisor
if their signs differ.  The least number divided by minus one overflows, though its remainder would
be zero. -/
def wholeModulus (x y : Int64) : Except Fault Value :=
  if y = 0 then .error (.zeroDivision "integer modulo by zero")
  else if x = Int64.minValue ∧ y = -1 then .error (.integerOverflow "mod")
  else
    let r := x.toInt.tmod y.toInt
    let moved := if r ≠ 0 ∧ decide (r < 0) ≠ decide (y.toInt < 0) then r + y.toInt else r
    match fit64 moved with
    | some n => .ok (.int n)
    | none => .error (.integerOverflow "mod")

/-- The modulus of two floats. -/
def floatModulus (x y : Float) : Float :=
  let r := Float64.remainder x y
  if r != 0.0 && decide (r < 0.0) != decide (y < 0.0) then r + y else r

/-- The modulus of two numbers, with the sign of the divisor. -/
def modulus (a b : Value) : Except Fault Value :=
  match a, b with
  | .int x, .int y => wholeModulus x y
  | _, _ =>
    match a.float?, b.float? with
    | some x, some y =>
      if y == 0.0 then .error (.zeroDivision "float modulo")
      else .ok (.float (floatModulus x y))
    | _, _ => .error (.unsupportedOperands "mod" a.typeName b.typeName)

end FrameLisp.Operation
