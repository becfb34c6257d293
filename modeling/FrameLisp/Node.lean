import FrameLisp.Text.Quoted
import FrameLisp.Token

/-!
# Trees of a program

A program is a list of trees.  A leaf is a `literal`, one token; an inner node is a `form`, a list
of nodes in brackets.  Every node carries properties: a quote mark adds `quoted:true`, a name after
`^` adds that name.  A form may be inline, that is, opened by `#(`.

A form made by hand may lack a location; its node is then where its head is.
-/

namespace FrameLisp

/-- A tree of a program. -/
inductive Node where
  /-- A leaf with its properties. -/
  | literal (token : Token) (properties : List String)
  /-- A bracketed list of nodes with its properties, its inline mark and the location of its
  opening bracket. -/
  | form (children : List Node) (properties : List String) (inline : Bool)
      (location : Option Location)
deriving Inhabited

/-- The property that a quote mark puts on a node. -/
def quotedProperty : String := "quoted:true"

/-- The head that a brace stands for. -/
def dictConstructor : String := "dicty"

/-- The head that a square bracket stands for. -/
def listConstructor : String := "listy"

namespace Node

/-- Where a node is: a form without a location of its own is where its head is. -/
def location? : Node → Option Location
  | literal token _ => some token.location
  | form _ _ _ (some location) => some location
  | form (head :: _) _ _ none => head.location?
  | form [] _ _ none => none

/-- The name of a node that is an identifier, quoted or not. -/
def identifier? : Node → Option String
  | literal token _ => if token.kind = .identifier then some token.text else none
  | form .. => none

/-! ### Written form -/

/-- The properties of a node as they stand before it. -/
def renderProperties (properties : List String) : String :=
  String.join (properties.map fun name =>
    if name = quotedProperty then "'" else "^" ++ name ++ " ")

/-- A token as it is written in a tree: a string in quotes, anything else as it is. -/
def renderToken (token : Token) : String :=
  if token.kind = .string then Text.quoted token.text else token.text

mutual

/-- The written form of a node. -/
def render : Node → String
  | literal token properties => renderProperties properties ++ renderToken token
  | form children properties inline _ =>
    renderProperties properties ++ (if inline then "#(" else "(") ++
      " ".intercalate (renderEach children) ++ ")"

/-- The written forms of a list of nodes. -/
def renderEach : List Node → List String
  | [] => []
  | node :: nodes => node.render :: renderEach nodes

end

theorem renderEach_eq_map (nodes : List Node) : renderEach nodes = nodes.map render := by
  induction nodes with
  | nil => rfl
  | cons node nodes ih => simp [renderEach, ih]

end Node

/-- The parts of a form, apart from the node that holds them. -/
structure Form where
  /-- The nodes in the brackets. -/
  children : List Node
  /-- The properties of the form. -/
  properties : List String := []
  /-- Whether the form is an inline function. -/
  inline : Bool := false
  /-- The location of the opening bracket. -/
  location : Option Location := none
deriving Inhabited

/-- The parts of a node that is a form. -/
def Node.form? : Node → Option Form
  | form children properties inline location => some ⟨children, properties, inline, location⟩
  | literal .. => none

namespace Form

/-- The node of a form. -/
def toNode (form : Form) : Node :=
  .form form.children form.properties form.inline form.location

@[simp]
theorem form?_toNode (form : Form) : form.toNode.form? = some form := rfl

/-- The first node of the form. -/
def head? (form : Form) : Option Node :=
  form.children.head?

/-- The nodes after the first. -/
def tail (form : Form) : List Node :=
  form.children.tail

/-- Whether the form is quoted. -/
def isQuoted (form : Form) : Bool :=
  form.properties.contains quotedProperty

/-- Whether the form starts with the given name, quoted or not. -/
def headIs (form : Form) (name : String) : Bool :=
  form.head?.bind Node.identifier? == some name

/-- Whether the form is written with braces, or as they are. -/
def isDict (form : Form) : Bool :=
  form.headIs dictConstructor

/-- The items of a form written with square brackets or with round ones. -/
def items (form : Form) : List Node :=
  if form.headIs listConstructor then form.tail else form.children

/-- Where the head of the form is, or the form itself if its head has no location. -/
def headLocation? (form : Form) : Option Location :=
  (form.head?.bind Node.location?).or form.location

end Form

end FrameLisp
