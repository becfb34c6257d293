import FrameLisp.Node

/-!
# Pipelines

A pipeline is written as a start and steps after it.  It is turned into nested calls before it is
evaluated: each step becomes a call that has all before it as one more argument, in the first place
or in the last.  A step that is no form is a call without other arguments.
-/

namespace FrameLisp

/-- Where a step takes what the steps before it give. -/
inductive Thread where
  /-- Before the other arguments. -/
  | first
  /-- After the other arguments. -/
  | last
deriving DecidableEq, Inhabited

namespace Thread

/-- The form of a step. -/
def stepForm : Node → Form
  | .form children properties inline location => ⟨children, properties, inline, location⟩
  | .literal token properties =>
    { children := [.literal token properties], location := token.location }

/-- The nodes of a step with one more argument. -/
def place (target : Node) : Thread → List Node → List Node
  | first, [] => [target]
  | first, head :: args => head :: target :: args
  | last, nodes => nodes ++ [target]

/-- A step with what the steps before it give. -/
def step (thread : Thread) (target step : Node) : Node :=
  let form := stepForm step
  { form with children := thread.place target form.children }.toNode

/-- A whole pipeline as nested calls. -/
def nest (thread : Thread) (start : Node) (steps : List Node) : Node :=
  steps.foldl thread.step start

end Thread

end FrameLisp
