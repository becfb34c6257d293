import FrameLisp.Evaluation.Choice

/-!
# Calls, keys and methods

The forms that are no special forms: a call of whatever the head evaluates to, a keyword that is
looked up in a collection, and a method of a receiver.  A fault of the called function that has no
location gets that of the head; faults of the arguments are left alone.
-/

namespace FrameLisp.Evaluation

/-- A call of a value that the head has been evaluated to.  A form in braces must have a value for
each key, which is checked here and not before, so that a quoted one is free. -/
def callForm (config : Config) (evaluate : Context → Evaluator) (callee : Value) (form : Form)
    (frame : FrameId) : Eval Value := do
  let location := form.headLocation?
  if form.isDict && form.tail.length % 2 ≠ 0 then Eval.fail (.keyWithoutValue location)
  else
    let args ← Eval.arguments (evaluate config.toContext) frame form.tail
    Eval.located location (callee.call config.hosts evaluate args)

/-- The form `(:key collection default?)`, a call of whatever `get` is bound to. -/
def keywordForm (config : Config) (evaluate : Context → Evaluator) (keyword : String) (form : Form)
    (frame : FrameId) : Eval Value := do
  let location := form.headLocation?
  let lookup ← Eval.orFail (.noKeywordLookup location) (← Eval.lookup? frame "get")
  match (Arity.between 1 2).complaint? form.tail.length with
  | some reason => Eval.fail (.ruleBroken keyword reason location)
  | none =>
    let collection ← evaluate config.toContext (← Eval.inBounds form.tail[0]?) frame
    let default ←
      match form.tail[1]? with
      | some node => evaluate config.toContext node frame
      | none => pure .nil
    let args := [collection, .ofKeyword keyword, default]
    Eval.located location (lookup.call config.hosts evaluate args)

/-- Whether a name is that of a method with its dot. -/
def isDotName (name : String) : Bool :=
  name.toList.head? = some '.' && name ≠ "..."

/-- The form `(.method receiver argument...)`.  The method is looked for before the arguments are
evaluated. -/
def dotForm (config : Config) (evaluate : Context → Evaluator) (name : String) (form : Form)
    (frame : FrameId) : Eval Value := do
  let location := form.headLocation?
  let method := String.ofList name.toList.tail
  if method.isEmpty then Eval.fail (.methodWithoutName location)
  else
    config.validate "dot-form" form.tail location
    let receiver ← evaluate config.toContext (← Eval.inBounds form.tail[0]?) frame
    let className ← Eval.orFail (.noClass receiver.shown location) receiver.className?
    let missing := .noMethod className method location
    let arguments := do
      Eval.arguments (evaluate config.toContext) frame (← Eval.sliceFrom 1 form.tail)
    match receiver.object? with
    | some object =>
      if object.has config.hosts method then
        let args ← arguments
        Eval.located location (object.call config.hosts evaluate method args)
      else Eval.fail missing
    | none =>
      let found ← Eval.orFail missing (receiver.method? method)
      let args ← arguments
      Eval.located location (Eval.ofExcept (found.run args))

end FrameLisp.Evaluation
