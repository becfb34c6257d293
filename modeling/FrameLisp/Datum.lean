import FrameLisp.Machine

/-!
# Nodes as data

A quoted node is not evaluated but taken as data.  Numbers, texts, keywords and the words `nil`,
`true` and `false` stand for themselves, quoted or not; any other token is a symbol, and a form is
the list of its nodes.
-/

namespace FrameLisp

/-- The value a token stands for by itself.  A number must fit into 64 bits. -/
def Token.constant? (token : Token) : Except Fault (Option Value) :=
  match token.kind with
  | .number =>
    match Decimal.read64? token.text with
    | some n => .ok (some (.int n))
    | none => .error (.numberOutOfRange token.text token.location)
  | .string => .ok (some (.str token.text))
  | .nil => .ok (some .nil)
  | .boolean => .ok (some (.bool (token.text = "true")))
  | .keyword => .ok (some (.ofKeyword token.text))
  | .identifier | .quote | .opening | .closing => .ok none

namespace Node

mutual

/-- A node as data. -/
def datum : Node → Except Fault Value
  | literal token _ => token.constant?.map fun constant => constant.getD (.symbol token.text)
  | form children _ _ _ => (data children).map .list

/-- A list of nodes as data; the first that is none decides. -/
def data : List Node → Except Fault (List Value)
  | [] => .ok []
  | node :: nodes => do
    let value ← node.datum
    return value :: (← data nodes)

end

end Node

end FrameLisp
