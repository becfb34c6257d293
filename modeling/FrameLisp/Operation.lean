import FrameLisp.Machine
import FrameLisp.Operation.Collection
import FrameLisp.Operation.Number
import FrameLisp.Operation.Order
import FrameLisp.Value.Text

/-!
# Operations

What each operation computes from its arguments.  The number of arguments has been checked against
the operation's arity before; `get` takes a default or not and checks its arguments itself.
-/

namespace FrameLisp

/-- Refuses a number of arguments that does not fit, in the name of the callee. -/
def Arity.check (arity : Arity) (callee : String) (args : List Value) : Except Stop Unit :=
  match arity.complaint? args.length with
  | some reason => .error (.fault (.arity callee reason none))
  | none => .ok ()

namespace Operation

/-- What a collection has under a key, or else a default. -/
def getOr (collection key default : Value) : Value :=
  (item? collection key).getD default

/-- The `get` of the prelude. -/
def runGet (args : List Value) : Except Stop Value := do
  (Arity.between 2 3).check "get" args
  match args with
  | [collection, key] => return getOr collection key .nil
  | [collection, key, default] => return getOr collection key default
  | _ => .error .outOfBounds

/-- The fault a program throws. -/
def thrown (thrownClass message : Value) : Fault :=
  match thrownClass with
  | .errorClass kind =>
    if kind = .interrupt then .notThrowable thrownClass.typeName
    else .raised kind message.plain none
  | _ => .notThrowable thrownClass.typeName

/-- What an operation computes. -/
def run (op : Operation) (args : List Value) : Except Stop Value :=
  match op, args with
  | add, args => Stop.lift (combine "+" sum args)
  | subtract, args => Stop.lift (combine "-" difference args)
  | multiply, args => Stop.lift (combine "*" product args)
  | divide, args => Stop.lift (combine "/" quotient args)
  | modulo, args => Stop.lift (combine "mod" modulus args)
  | equal, args => .ok (.bool (allEqual args))
  | less, args => Stop.lift (comparison "<" (· = .lt) args)
  | greater, args => Stop.lift (comparison ">" (· = .gt) args)
  | atMost, args => Stop.lift (comparison "<=" (· ≠ .gt) args)
  | atLeast, args => Stop.lift (comparison ">=" (· ≠ .lt) args)
  | not, [value] => .ok (.bool !value.isTruthy)
  | list, args => .ok (.list args)
  | dict, args => makeDict args
  | get, args => runGet args
  | count, [value] => Stop.lift (countOf value)
  | str, args => .ok (.str (Value.joined "" args))
  | type, [value] => .ok (.str value.typeName)
  | throw, [thrownClass, message] => .error (.fault (thrown thrownClass message))
  | _, _ => .error .outOfBounds

end Operation

end FrameLisp
