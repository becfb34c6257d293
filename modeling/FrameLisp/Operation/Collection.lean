import FrameLisp.Machine

/-!
# Collections

Making dicts, looking into lists, texts and dicts, and counting what they hold.
-/

namespace FrameLisp.Operation

/-- Neighbours two by two; each is meant to have a partner. -/
def pairUp : List Value → Except Stop (List (Value × Value))
  | [] => .ok []
  | [_] => .error .outOfBounds
  | k :: v :: rest => do
    return (k, v) :: (← pairUp rest)

/-- The dict of a list of keys and values in turn. -/
def makeDict (args : List Value) : Except Stop Value := do
  if args.length % 2 ≠ 0 then .error (.fault (.oddEntries args.length))
  else Stop.lift (Value.ofPairs (← pairUp args))

/-- The position a value stands for. -/
def position? (key : Value) : Option Nat :=
  key.int?.bind fun n => if n.toInt < 0 then none else some n.toInt.toNat

/-- The value of a dict under a key. -/
def entry? (entries : List (Key × Value)) (key : Value) : Option Value :=
  key.key?.bind fun key => Bindings.find? key entries

/-- What a collection has under a key: an item of a list, a character of a text, a value of a
dict. -/
def item? (collection key : Value) : Option Value :=
  match collection with
  | .list items => (position? key).bind fun i => items[i]?
  | .str text =>
    (position? key).bind fun i => text.toList[i]?.map fun c => .str (String.singleton c)
  | .dict entries => entry? entries key
  | _ => none

/-- How much a value holds. -/
def countOf (value : Value) : Except Fault Value :=
  match value with
  | .nil => .ok (.ofNat 0)
  | .list items => .ok (.ofNat items.length)
  | .dict entries => .ok (.ofNat entries.length)
  | .str text => .ok (.ofNat text.length)
  | _ => .error (.noCount value.typeName)

end FrameLisp.Operation
