import FrameLisp.Evaluation.Choice

/-!
# Scopes

The special forms that make variables.  `let` binds its targets one after the other in one copy of
the frame around it, so each value sees the targets before it.  A target is a name or a pattern of
names, which are looked up in the value with whatever function `get` is bound to there.  `fn` makes
a function over the frame it stands in, and the definitions bind a variable in that frame itself.
-/

namespace FrameLisp

namespace Eval

/-- The name of a node that must be an identifier. -/
def identifier (form : String) (node : Node) : Eval String :=
  ofExcept (Stop.lift (node.identifierFor form))

end Eval

namespace Evaluation

/-! ### `let` -/

/-- Binds the names of a pattern, the first of which is at position `i`. -/
def bindNames (config : Config) (evaluate : Context → Evaluator) (frame : FrameId)
    (location : Option Location) (lookup value : Value) (byName : Bool) (i : Nat) :
    List Node → Eval Unit
  | [] => pure ()
  | node :: nodes => do
    let name ← Eval.identifier "let" node
    let key := if byName then Value.ofKeyword name else .ofNat i
    let item ← Eval.located location (lookup.call config.hosts evaluate [value, key, .nil])
    Eval.define frame name item
    bindNames config evaluate frame location lookup value byName (i + 1) nodes

/-- Binds the names of a pattern: by name if it is written with braces, else by position. -/
def destructure (config : Config) (evaluate : Context → Evaluator) (frame : FrameId)
    (location : Option Location) (pattern : Form) (value : Value) : Eval Unit := do
  let lookup ← Eval.orFail (.noPatternLookup location) (← Eval.lookup? frame "get")
  let names := if pattern.isDict then pattern.tail else pattern.items
  bindNames config evaluate frame location lookup value pattern.isDict 0 names

/-- Binds targets and values in turn. -/
def bindTargets (config : Config) (evaluate : Context → Evaluator) (frame : FrameId)
    (location : Option Location) : List Node → Eval Unit
  | [] => pure ()
  | [_] => Eval.fail (.targetWithoutValue location)
  | target :: node :: rest => do
    let value ← evaluate config.toContext node frame
    match target.form? with
    | some pattern => destructure config evaluate frame location pattern value
    | none =>
      let name ← Eval.identifier "let" target
      Eval.define frame name value
    bindTargets config evaluate frame location rest

/-- The form `(let [target value ...] body...)`. -/
def letBind (config : Config) (evaluate : Context → Evaluator) (form : Form) (frame : FrameId) :
    Eval Value := do
  let location := form.headLocation?
  config.validate "let" form.tail location
  let first ← Eval.inBounds form.tail[0]?
  let bindings ← Eval.orFail (.bindingsNotAForm location) first.form?
  let inner ← Eval.overlay frame []
  bindTargets config evaluate inner location bindings.items
  Eval.body (evaluate config.toContext) inner .nil (← Eval.sliceFrom 1 form.tail)

/-! ### Functions -/

/-- The name of a function without one. -/
def anonymous : String := "<anonymous function>"

/-- A function over a frame, which keeps the context it is made in. -/
def makeFunction (context : Context) (form name : String) (parameters : Node) (body : List Node)
    (frame : FrameId) (location : Option Location) : Eval Value := do
  let fault := .parametersNotAForm form parameters.render parameters.location?
  let parameters ← Eval.orFail fault parameters.form?
  let signature ← Eval.ofExcept (Signature.ofForm form location parameters)
  let ref ← Eval.freshRef
  return .function ref { name, signature, body, frame, context, location }

/-- The form `(fn [name ...] body...)`. -/
def function (config : Config) (form : Form) (frame : FrameId) : Eval Value := do
  let location := form.headLocation?
  config.validate "fn" form.tail location
  let parameters ← Eval.inBounds form.tail[0]?
  let body ← Eval.sliceFrom 1 form.tail
  makeFunction config.toContext "fn" anonymous parameters body frame location

/-- The function of an inline form, whose body is the form itself without its marks. -/
def inlineFunction (context : Context) (form : Form) (frame : FrameId) : Eval Value := do
  let body : Form := { children := form.children, location := form.location }
  let ref ← Eval.freshRef
  return .function ref {
    name := anonymous, signature := .inline, body := [body.toNode], frame, context
    location := form.headLocation? }

/-! ### Definitions -/

/-- Binds a variable to what a computation gives, which is also the result.  If `once` is set, a
variable that is bound already keeps its value and nothing is computed. -/
def defineBy (once : Bool) (frame : FrameId) (name : String) (compute : Eval Value) :
    Eval Value := do
  match ← Eval.lookup? frame name, once with
  | some existing, true => pure existing
  | _, _ =>
    let value ← compute
    Eval.define frame name value
    return value

/-- The forms `(def name value)` and `(def? name value)`. -/
def define (config : Config) (evaluate : Evaluator) (once : Bool) (form : Form)
    (frame : FrameId) : Eval Value := do
  let formName := if once then "def?" else "def"
  config.validate formName form.tail form.headLocation?
  let name ← Eval.identifier formName (← Eval.inBounds form.tail[0]?)
  defineBy once frame name do
    let node ← Eval.inBounds form.tail[1]?
    evaluate node frame

/-- The forms `(defn name [name ...] body...)` and `(defn? name [name ...] body...)`. -/
def defineFunction (config : Config) (once : Bool) (form : Form) (frame : FrameId) :
    Eval Value := do
  let formName := if once then "defn?" else "defn"
  let location := form.headLocation?
  config.validate formName form.tail location
  let name ← Eval.identifier formName (← Eval.inBounds form.tail[0]?)
  defineBy once frame name do
    let parameters ← Eval.inBounds form.tail[1]?
    let body ← Eval.sliceFrom 2 form.tail
    makeFunction config.toContext formName name parameters body frame location

/-- What follows the last separator of a path. -/
def lastSegment (separator : Char) (path : String) : String :=
  String.ofList (path.toList.reverse.takeWhile (· ≠ separator)).reverse

/-- The forms `(import path)` and `(require path)`: the module is bound to the last segment of its
path. -/
def defineModule (config : Config) (evaluate : Context → Evaluator) (formName : String)
    (resolver : Resolver) (form : Form) (frame : FrameId) : Eval Value := do
  let location := form.headLocation?
  config.validate formName form.tail location
  let path ← Eval.identifier formName (← Eval.inBounds form.tail[0]?)
  let fault := .noResolver formName resolver.name location
  let resolve ← Eval.orFail fault (← Eval.lookup? frame resolver.name)
  let found ← Eval.located location (resolve.call config.hosts evaluate [.str path])
  Eval.define frame (lastSegment resolver.separator path) found
  return .nil

end Evaluation

end FrameLisp
