import FrameLisp.Event
import FrameLisp.Host

/-!
# The machine

All that evaluation reads and changes beside the program.  Variables live in frames.  A frame is
never linked to another: a function call copies the frame the function was made in and adds the
arguments to the copy, so a frame that exists is changed only by who holds its number.  Frames are
kept in the order in which they were made, and a `FrameId` is a position in that order.

The depth of an evaluation and the wish to interrupt it live in cells, which the contexts name.  An
evaluation under one context can call functions made under others, with counters of their own; what
bounds all of them together is `room`, the levels for which the evaluating thread has a stack.

`Eval` is a computation on the machine that may stop.  It keeps the machine when it stops, so what
was printed or defined before a fault stays.  Beside faults, which a program can see and handle,
there are two ways to stop that no program is meant to reach: `outOfBounds`, an access past the end
of a list of arguments, and `outOfLevels`, an evaluation for which the stack has no room left.
-/

namespace FrameLisp

/-! ### State -/

/-- The variables of one scope. -/
abbrev Frame := Bindings String Value

/-- The state of an evaluation. -/
structure Machine where
  /-- All frames, in the order in which they were made. -/
  frames : Array Frame := #[]
  /-- How many nodes are being evaluated, one inside the other, by counter. -/
  depth : Cells Nat := .all 0
  /-- Whether an interruption was asked for, by flag. -/
  interrupted : Cells Bool := .all false
  /-- For how many more levels of nodes the evaluating thread has a stack. -/
  room : Nat := 512
  /-- The next `ref` to give out. -/
  nextRef : Nat := 0
  /-- All that was printed. -/
  printed : String := ""
  /-- All that was reported. -/
  events : Array Event := #[]
  /-- The registered modules by their full path. -/
  modules : Bindings String Value := []
deriving Inhabited

namespace Machine

/-- The variables of a frame; a frame that does not exist has none. -/
def frame (machine : Machine) (id : FrameId) : Frame :=
  machine.frames[id]?.getD []

/-- The value of a variable in a frame. -/
def lookup? (machine : Machine) (id : FrameId) (name : String) : Option Value :=
  (machine.frame id).find? name

/-- Binds a variable in a frame. -/
def define (machine : Machine) (id : FrameId) (name : String) (value : Value) : Machine :=
  { machine with frames := machine.frames.modify id (Bindings.insert name value) }

/-- Adds a frame; its number is the number of frames before. -/
def addFrame (machine : Machine) (frame : Frame) : Machine :=
  { machine with frames := machine.frames.push frame }

/-- The machine one level further up, as a context counts. -/
def leave (machine : Machine) (context : Context) : Machine :=
  let depth := machine.depth context.counter - 1
  { machine with depth := machine.depth.set context.counter depth }

end Machine

/-- The settings of a session, which no program can change: the context of its programs, and the
host they run on. -/
structure Config extends Context where
  /-- What the functions and objects of the host do. -/
  hosts : Hosts := Hosts.basic

/-- The settings with another context. -/
def Config.under (config : Config) (context : Context) : Config :=
  { config with toContext := context }

@[simp]
theorem Config.toContext_under (config : Config) (context : Context) :
    (config.under context).toContext = context :=
  rfl

/-- The ways in which a computation stops. -/
inductive Stop where
  /-- A fault, which a program may handle. -/
  | fault (fault : Fault)
  /-- An access past the end of a list of arguments. -/
  | outOfBounds
  /-- An evaluation without room for another level. -/
  | outOfLevels
deriving DecidableEq, Inhabited

/-- A computation without effects, its fault as a way to stop. -/
def Stop.lift {α : Type} : Except Fault α → Except Stop α
  | .ok a => .ok a
  | .error f => .error (.fault f)

/-- A computation on the machine that may stop. -/
abbrev Eval := EStateM Stop Machine

/-- How a node is evaluated in a frame, below the top level. -/
abbrev Evaluator := Node → FrameId → Eval Value

namespace Eval

/-! ### Stopping -/

/-- Stops with a fault. -/
def fail {α : Type} (fault : Fault) : Eval α :=
  throw (.fault fault)

/-- The value of an optional one, or a fault. -/
def orFail {α : Type} (fault : Fault) : Option α → Eval α
  | some a => pure a
  | none => fail fault

/-- The value of an access that is meant to be in bounds. -/
def inBounds {α : Type} : Option α → Eval α
  | some a => pure a
  | none => throw .outOfBounds

/-- The items of a list from a position on that is meant to be in bounds. -/
def sliceFrom {α : Type} (position : Nat) (items : List α) : Eval (List α) :=
  if position ≤ items.length then pure (items.drop position) else throw .outOfBounds

/-- A computation without effects. -/
def ofExcept {α : Type} : Except Stop α → Eval α
  | .ok a => pure a
  | .error stop => throw stop

/-- Supplies a location to the faults of a called function that have none. -/
def located {α : Type} (location : Option Location) (x : Eval α) : Eval α := fun machine =>
  match x machine with
  | .error (.fault fault) machine => .error (.fault (fault.orAt location)) machine
  | result => result

/-- Hands the faults that `selects` picks to a handler. -/
def handling {α : Type} (selects : Fault → Bool) (handler : Fault → Eval α) (x : Eval α) :
    Eval α := fun machine =>
  match x machine with
  | .error (.fault fault) machine =>
    if selects fault then handler fault machine else .error (.fault fault) machine
  | result => result

/-! ### Frames -/

/-- The value of a variable in a frame. -/
def lookup? (frame : FrameId) (name : String) : Eval (Option Value) := do
  return (← get).lookup? frame name

/-- Binds a variable in a frame. -/
def define (frame : FrameId) (name : String) (value : Value) : Eval Unit :=
  modify fun machine => machine.define frame name value

/-- A new frame: a copy of another with some variables bound in it. -/
def overlay (frame : FrameId) (bindings : List (String × Value)) : Eval FrameId :=
  modifyGet fun machine =>
    let id := machine.frames.size
    let copy := (machine.frame frame).insertAll bindings
    (id, machine.addFrame copy)

/-- A new frame without variables. -/
def emptyFrame : Eval FrameId :=
  modifyGet fun machine =>
    let id := machine.frames.size
    (id, machine.addFrame [])

/-- Removes all variables from a frame. -/
def clear (frame : FrameId) : Eval Unit :=
  modify fun machine => { machine with frames := machine.frames.modify frame fun _ => [] }

/-! ### Everything else -/

/-- A `ref` that was not given out before. -/
def freshRef : Eval Nat :=
  modifyGet fun machine =>
    let ref := machine.nextRef
    (ref, { machine with nextRef := ref + 1 })

/-- Prints a line. -/
def printLine (text : String) : Eval Unit :=
  modify fun machine => { machine with printed := machine.printed ++ text ++ "\n" }

/-- Reports an event. -/
def report (event : Event) : Eval Unit :=
  modify fun machine => { machine with events := machine.events.push event }

/-- Asks for an interruption, or takes that back. -/
def setInterrupted (flag : Nat) (interrupted : Bool) : Eval Unit :=
  modify fun machine => { machine with interrupted := machine.interrupted.set flag interrupted }

/-- Stops if an interruption was asked for. -/
def checkInterrupt (context : Context) : Eval Unit := do
  if (← get).interrupted context.flag then fail .interrupted

/-- Goes one level deeper, unless the limit is reached. -/
def enter (context : Context) (location : Option Location) : Eval Unit := do
  let machine ← get
  let depth := machine.depth context.counter
  if context.maxDepth ≤ depth then fail (.overflow depth context.maxDepth location)
  else set { machine with depth := machine.depth.set context.counter (depth + 1) }

/-- Comes back up by one level. -/
def leave (context : Context) : Eval Unit :=
  modify fun machine => machine.leave context

/-- Runs a computation and comes back up by one level, however it ends. -/
def leaving {α : Type} (context : Context) (x : Eval α) : Eval α := fun machine =>
  match x machine with
  | .ok a machine => .ok a (machine.leave context)
  | .error stop machine => .error stop (machine.leave context)

/-- Runs a computation on a stack with room for one level less. -/
def descending {α : Type} (x : Eval α) : Eval α := fun machine =>
  match machine.room with
  | 0 => .error .outOfLevels machine
  | room + 1 =>
    match x { machine with room } with
    | .ok a machine => .ok a { machine with room := room + 1 }
    | .error stop machine => .error stop { machine with room := room + 1 }

/-- Runs a computation one level deeper, as the evaluation of a node. -/
def within {α : Type} (context : Context) (node : Node) (x : Eval α) : Eval α := do
  checkInterrupt context
  enter context node.location?
  leaving context do
    if context.trace then report (.entered ((← get).depth context.counter) node)
    descending x

end Eval

end FrameLisp
