import FrameLisp.Call

/-!
# Choices

The special forms that evaluate some of their nodes, depending on the values of others.
-/

namespace FrameLisp

/-- Holds nodes against a rule of the session's oracle. -/
def Config.validate (config : Config) (rule : String) (nodes : List Node)
    (location : Option Location) : Eval Unit :=
  match config.oracle rule nodes with
  | .accept _ => pure ()
  | .reject reason => Eval.fail (.ruleBroken rule reason location)

namespace Evaluation

/-- The first value that counts as true, or else the last value. -/
def anyOf (evaluate : Evaluator) (frame : FrameId) (last : Value) : List Node → Eval Value
  | [] => pure last
  | node :: nodes => do
    let value ← evaluate node frame
    if value.isTruthy then pure value else anyOf evaluate frame value nodes

/-- The first value that does not count as true, or else the last value. -/
def allOf (evaluate : Evaluator) (frame : FrameId) (last : Value) : List Node → Eval Value
  | [] => pure last
  | node :: nodes => do
    let value ← evaluate node frame
    if value.isTruthy then allOf evaluate frame value nodes else pure value

/-- The form `(if test then else?)`. -/
def ifElse (config : Config) (evaluate : Evaluator) (form : Form) (frame : FrameId) :
    Eval Value := do
  config.validate "if" form.tail form.headLocation?
  let test ← Eval.inBounds form.tail[0]?
  if (← evaluate test frame).isTruthy then
    let chosen ← Eval.inBounds form.tail[1]?
    evaluate chosen frame
  else
    match form.tail[2]? with
    | some otherwise => evaluate otherwise frame
    | none => pure .nil

/-- The form `(when test body...)`. -/
def whenTrue (config : Config) (evaluate : Evaluator) (form : Form) (frame : FrameId) :
    Eval Value := do
  config.validate "when" form.tail form.headLocation?
  let test ← Eval.inBounds form.tail[0]?
  if (← evaluate test frame).isTruthy then
    Eval.body evaluate frame .nil (← Eval.sliceFrom 1 form.tail)
  else pure .nil

/-- The result after the first test that counts as true. -/
def firstTrue (evaluate : Evaluator) (frame : FrameId) : List Node → Eval Value
  | test :: result :: rest => do
    if (← evaluate test frame).isTruthy then evaluate result frame
    else firstTrue evaluate frame rest
  | _ => pure .nil

/-- The form `(cond test result ...)`, which may be empty. -/
def condition (config : Config) (evaluate : Evaluator) (form : Form) (frame : FrameId) :
    Eval Value :=
  if form.tail.isEmpty then pure .nil
  else do
    config.validate "cond" form.tail form.headLocation?
    firstTrue evaluate frame form.tail

end Evaluation

end FrameLisp
