import FrameLisp.Node
import FrameLisp.Token.Lexer

/-!
# Events

What is reported of reading and evaluation while it goes on.  An event keeps the nodes it is about;
its level, message and fields are made when it is looked at.
-/

namespace FrameLisp

/-- Something reported while a program is read or evaluated. -/
inductive Event where
  /-- A part of the source was left out. -/
  | notice (notice : Notice)
  /-- A module is looked for. -/
  | resolving (name : String)
  /-- A node at the top level is about to be evaluated. -/
  | topLevel (node : Node)
  /-- A node was entered at a depth. -/
  | entered (depth : Nat) (node : Node)
deriving Inhabited

namespace Event

/-- How closely one has to look to see the event. -/
def level : Event → String
  | entered .. => "TRACE"
  | _ => "DEBUG"

/-- What happened, in words. -/
def message : Event → String
  | notice (.stray ..) => "skipping character"
  | notice (.unterminated _) => "dropping unterminated string literal"
  | resolving _ => "resolving module"
  | topLevel _ => "evaluating top-level form"
  | entered .. => "eval"

/-- The particulars of the event by name. -/
def fields : Event → List (String × String)
  | notice (.stray c location) =>
    [("character", Text.quotedChar c), ("line", Decimal.ofNat location.line),
      ("column", Decimal.ofNat location.column)]
  | notice (.unterminated location) => [("location", location.text)]
  | resolving name => [("module", name)]
  | topLevel node => [("form", node.render)]
  | entered depth node => [("depth", Decimal.ofNat depth), ("node", node.render)]

end Event

end FrameLisp
