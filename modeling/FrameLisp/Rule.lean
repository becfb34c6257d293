import FrameLisp.Arity
import FrameLisp.Node

/-!
# The shapes of special forms

Before a special form runs, its arguments are held against a rule of its name: how many there may
be, whether they come in pairs, and what some of them must be.  The evaluator only asks an
`Oracle`, which answers for any name; `Rule.standard` is the oracle of the language itself.
-/

namespace FrameLisp

/-- What a rule says about a list of nodes. -/
inductive Verdict where
  /-- The nodes are as they should be; this many they are. -/
  | accept (count : Nat)
  /-- The nodes break the rule. -/
  | reject (reason : String)
deriving DecidableEq, Inhabited

/-- Answers for a rule's name and a list of nodes. -/
abbrev Oracle := String → List Node → Verdict

/-- What a single argument must be. -/
inductive Shape where
  /-- A name, quoted or not. -/
  | identifier
  /-- A form. -/
  | form
  /-- A form with an even number of items. -/
  | pairs
  /-- A form that starts with the given name. -/
  | headedBy (name : String)
deriving DecidableEq, Inhabited

namespace Shape

/-- Whether a node has the shape. -/
def accepts : Shape → Node → Bool
  | identifier, node => node.identifier?.isSome
  | form, node => node.form?.isSome
  | pairs, node => node.form?.any fun form => form.items.length % 2 = 0
  | headedBy name, node => node.form?.any fun form => form.headIs name

/-- The shape in words. -/
def text : Shape → String
  | identifier => "an identifier"
  | form => "a form"
  | pairs => "a form with an even number of items"
  | headedBy name => "a (" ++ name ++ " ...) form"

end Shape

/-- The rule for one form. -/
structure Rule where
  /-- How many arguments there may be. -/
  arity : Arity
  /-- What the arguments at some positions must be. -/
  shapes : List (Nat × Shape) := []
  /-- Whether the arguments come in pairs. -/
  even : Bool := false

namespace Rule

/-- The complaint about the first argument without its shape. -/
def misshape? (nodes : List Node) : List (Nat × Shape) → Option String
  | [] => none
  | (position, shape) :: shapes =>
    if nodes[position]?.all shape.accepts then misshape? nodes shapes
    else some ("argument " ++ Decimal.ofNat (position + 1) ++ " must be " ++ shape.text)

/-- Holds a list of nodes against the rule: first their number, then the pairs, then the shapes. -/
def judge (rule : Rule) (nodes : List Node) : Verdict :=
  match rule.arity.complaint? nodes.length with
  | some reason => .reject reason
  | none =>
    if rule.even && nodes.length % 2 ≠ 0 then
      .reject ("expected an even number of arguments, got " ++ Decimal.ofNat nodes.length)
    else
      match misshape? nodes rule.shapes with
      | some reason => .reject reason
      | none => .accept nodes.length

/-- The rules of the language by name. -/
def find? : String → Option Rule
  | "if" => some { arity := .between 2 3 }
  | "when" => some { arity := .atLeast 2 }
  | "cond" => some { arity := .atLeast 2, even := true }
  | "let" => some { arity := .atLeast 1, shapes := [(0, .pairs)] }
  | "fn" => some { arity := .atLeast 1, shapes := [(0, .form)] }
  | "def" | "def?" => some { arity := .exactly 2, shapes := [(0, .identifier)] }
  | "defn" | "defn?" =>
    some { arity := .atLeast 2, shapes := [(0, .identifier), (1, .form)] }
  | "import" | "require" => some { arity := .exactly 1, shapes := [(0, .identifier)] }
  | "try" => some { arity := .exactly 2, shapes := [(1, .headedBy "catch")] }
  | "catch" =>
    some { arity := .atLeast 3, shapes := [(0, .identifier), (1, .identifier), (2, .identifier)] }
  | "dot-form" => some { arity := .atLeast 1 }
  | _ => none

/-- The oracle of the language. -/
def standard : Oracle := fun name nodes =>
  match find? name with
  | some rule => rule.judge nodes
  | none => .reject ("no rule named '" ++ name ++ "'")

/-- The standard oracle with exceptions: rules that always refuse, with a reason, and after them
rules that accept anything. -/
def except (accepted : List String) (rejected : List (String × String)) : Oracle :=
  fun name nodes =>
    match rejected.lookup name with
    | some reason => .reject reason
    | none => if accepted.contains name then .accept nodes.length else standard name nodes

end Rule

end FrameLisp
