import FrameLisp.Datum
import FrameLisp.Evaluation.Access
import FrameLisp.Evaluation.Recovery
import FrameLisp.Evaluation.Scope
import FrameLisp.Pipeline
import FrameLisp.SpecialForm

/-!
# Evaluation of nodes

A node is evaluated in a frame, under a context.  What is inside the node is evaluated under the
same context, the bodies of the functions called there under the contexts the functions were made
in.

`Node.evalAt` is given a number of levels and evaluates what is inside the node, and the bodies of
the functions, with one level less.  The machine's room counts the same levels: with as many of them
as there is room for, or more, it is the room that runs out.  `Node.eval` gives exactly that many.
-/

namespace FrameLisp

namespace Evaluation

/-- The value of a single token. -/
def evalToken (token : Token) (properties : List String) (frame : FrameId) : Eval Value := do
  match ← Eval.ofExcept (Stop.lift token.constant?) with
  | some value => pure value
  | none =>
    if properties.contains quotedProperty then pure (.symbol token.text)
    else if token.kind = .identifier then
      Eval.orFail (.undefinedName token.text token.location) (← Eval.lookup? frame token.text)
    else Eval.fail (.unexpectedToken token.text token.location)

/-- The value of a pipeline; without steps it is the value of its start. -/
def evalPipeline (evaluate : Evaluator) (thread : Thread) (form : Form) (frame : FrameId) :
    Eval Value :=
  match form.tail with
  | [] => pure .nil
  | start :: steps => evaluate (thread.nest start steps) frame

/-- The value of a special form. -/
def evalSpecial (config : Config) (evaluate : Context → Evaluator) (top : Bool)
    (special : SpecialForm) (form : Form) (frame : FrameId) : Eval Value :=
  let inside := evaluate config.toContext
  if special.topLevelOnly && !top then
    Eval.fail (.topLevelOnly special.name form.headLocation?)
  else
    match special with
    | .doAll => Eval.body inside frame .nil form.tail
    | .anyOf => anyOf inside frame .nil form.tail
    | .allOf => allOf inside frame (.bool true) form.tail
    | .tryCatch => tryCatch config inside form frame
    | .threadFirst => evalPipeline inside .first form frame
    | .threadLast => evalPipeline inside .last form frame
    | .ifElse => ifElse config inside form frame
    | .whenTrue => whenTrue config inside form frame
    | .condition => condition config inside form frame
    | .letBind => letBind config evaluate form frame
    | .function => function config form frame
    | .define => define config inside false form frame
    | .defineOnce => define config inside true form frame
    | .defineFunction => defineFunction config false form frame
    | .defineFunctionOnce => defineFunction config true form frame
    | .importModule => defineModule config evaluate "import" .imported form frame
    | .requireModule => defineModule config evaluate "require" .required form frame

/-- The value of a form with a given head. -/
def evalHead (config : Config) (evaluate : Context → Evaluator) (top : Bool) (head : Node)
    (form : Form) (frame : FrameId) : Eval Value :=
  match head with
  | .literal token properties =>
    if properties.contains quotedProperty then Eval.fail (.quotedHead token.location)
    else
      match token.kind with
      | .keyword => keywordForm config evaluate token.text form frame
      | .identifier =>
        match SpecialForm.ofName? token.text with
        | some special => evalSpecial config evaluate top special form frame
        | none =>
          if isDotName token.text then dotForm config evaluate token.text form frame
          else do
            let callee ← evaluate config.toContext head frame
            callForm config evaluate callee form frame
      | _ => Eval.fail (.headNotAName token.text token.location)
  | .form .. => do
    let callee ← evaluate config.toContext head frame
    callForm config evaluate callee form frame

/-- The value of a form. -/
def evalForm (config : Config) (evaluate : Context → Evaluator) (top : Bool) (form : Form)
    (frame : FrameId) : Eval Value :=
  if form.isQuoted then Eval.ofExcept (Stop.lift ((Node.data form.children).map .list))
  else if form.inline then inlineFunction config.toContext form frame
  else
    match form.head? with
    | none => Eval.fail (.emptyForm form.location)
    | some head => evalHead config evaluate top head form frame

/-- The value of a node, given how nodes are evaluated under each context. -/
def evalNode (config : Config) (evaluate : Context → Evaluator) (top : Bool) (node : Node)
    (frame : FrameId) : Eval Value :=
  match node with
  | .literal token properties => evalToken token properties frame
  | .form children properties inline location =>
    evalForm config evaluate top ⟨children, properties, inline, location⟩ frame

end Evaluation

/-- Evaluates a node with a number of levels. -/
def Node.evalAt (config : Config) (levels : Nat) (top : Bool) (node : Node) (frame : FrameId) :
    Eval Value :=
  Eval.within config.toContext node <|
    match levels with
    | 0 => throw .outOfLevels
    | levels + 1 =>
      let evaluate context inner := Node.evalAt (config.under context) levels false inner
      Evaluation.evalNode config evaluate top node frame

/-- Evaluates a node, at the top level of a program or below it. -/
def Node.eval (config : Config) (top : Bool) (node : Node) (frame : FrameId) : Eval Value := do
  node.evalAt config (← get).room top frame

/-- Evaluates nodes below the top level, under any context. -/
def Config.evaluators (config : Config) (context : Context) : Evaluator :=
  fun node frame => node.eval (config.under context) false frame

/-- Evaluates a node below the top level. -/
def Config.evaluator (config : Config) : Evaluator :=
  fun node frame => node.eval config false frame

end FrameLisp
