import FrameLisp.Evaluation.Scope

/-!
# Handling faults

`try` evaluates a node and hands a fault to its handler if the handler's class catches the kind of
the fault.  The class is evaluated first, before anything can fail.  An access out of bounds is no
fault and passes every handler.
-/

namespace FrameLisp.Evaluation

/-- The class a handler names. -/
def handledKind (node : Node) (value : Value) : Eval Fault.Kind :=
  match value with
  | .errorClass kind => pure kind
  | _ => Eval.fail (.notAnErrorClass value.typeName node.location?)

/-- The form `(try node (catch class name body...))`. -/
def tryCatch (config : Config) (evaluate : Evaluator) (form : Form) (frame : FrameId) :
    Eval Value := do
  let location := form.headLocation?
  config.validate "try" form.tail location
  let last ← Eval.inBounds form.tail[1]?
  let clause ← Eval.orFail (.handlerNotAForm location) last.form?
  config.validate "catch" clause.children location
  let classNode ← Eval.inBounds clause.children[1]?
  let kind ← handledKind classNode (← evaluate classNode frame)
  let name ← Eval.identifier "catch" (← Eval.inBounds clause.children[2]?)
  let node ← Eval.inBounds form.tail[0]?
  Eval.handling (fun fault => kind.catches fault.kind)
    (fun fault => do
      let ref ← Eval.freshRef
      let inner ← Eval.overlay frame [(name, .exception ref fault)]
      Eval.body evaluate inner .nil (← Eval.sliceFrom 3 clause.children))
    (evaluate node frame)

end FrameLisp.Evaluation
