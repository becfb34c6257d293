import FrameLisp.Machine

/-!
# Parameters and arguments

The parameters of a function are the items of a form.  All are names, and `&` may stand before the
last one, which then collects the arguments that are left over.  In a call the arguments are bound
in order, so of a name that is given twice the last argument counts; the collected rest comes after
them, and the dict of keyword arguments, under the name `kwargs`, last of all.

An inline function has no parameters: its arguments are `%1`, `%2` and so on, and the first is also
`%`.
-/

namespace FrameLisp

/-- The name of a node that must be an identifier. -/
def Node.identifierFor (form : String) (node : Node) : Except Fault String :=
  match node.identifier? with
  | some name => .ok name
  | none => .error (.notAnIdentifier form node.render node.location?)

namespace Signature

/-- The mark before the name that collects the rest. -/
def collector : String := "&"

/-- The name that the dict of keyword arguments is bound to. -/
def keywordArguments : String := "kwargs"

/-- The names around the collector at a position: those before it, and the one after it. -/
def around (position : Nat) (names : List String) : Except Stop Signature :=
  match names[position + 1]? with
  | some rest => .ok (.named (names.take position) (some rest))
  | none => .error .outOfBounds

/-- The signature of a list of names. -/
def ofNames (form : String) (location : Option Location) (names : List String) :
    Except Stop Signature :=
  match names.findIdx? (· = collector) with
  | none => .ok (.named names none)
  | some position =>
    if (names.drop (position + 1)).contains collector then
      .error (.fault (.repeatedCollector form location))
    else if position + 1 = names.length then
      .error (.fault (.collectorWithoutName form location))
    else if position + 2 ≠ names.length then
      .error (.fault (.namesAfterCollector form location))
    else around position names

/-- The signature of a parameter list. -/
def ofForm (form : String) (location : Option Location) (parameters : Form) :
    Except Stop Signature := do
  let names ← Stop.lift (parameters.items.mapM (Node.identifierFor form))
  ofNames form location names

/-- How many arguments a function takes; an inline function takes any number. -/
def arity : Signature → Arity
  | named positional none => .exactly positional.length
  | named positional (some _) => .atLeast positional.length
  | inline => .atLeast 0

/-- The arguments of an inline function by number, counted from `n`. -/
def numbered (n : Nat) : List Value → List (String × Value)
  | [] => []
  | arg :: args => ("%" ++ Decimal.ofNat n, arg) :: numbered (n + 1) args

/-- What the arguments of a call are bound to, beside the keyword arguments. -/
def bind (signature : Signature) (args : List Value) : Except Stop (List (String × Value)) :=
  match signature with
  | named positional rest =>
    if args.length < positional.length then .error .outOfBounds
    else
      let extra := args.drop positional.length
      .ok (positional.zip args ++ (rest.map fun name => (name, Value.list extra)).toList)
  | inline => .ok ((args.head?.map fun arg => ("%", arg)).toList ++ numbered 1 args)

end Signature

end FrameLisp
