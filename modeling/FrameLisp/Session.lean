import FrameLisp.Evaluation
import FrameLisp.Node.Builder
import FrameLisp.Prelude

/-!
# Sessions

A session is a machine with its settings.  Programs run one after the other in its root frame, the
first one made, and each sees what the programs before it defined.  A program is read as a whole
before any of it runs.  Its trees are evaluated in turn at the top level, on a thread of which the
stack has room for as many levels as the depth limit allows, or more; the last value is the value of
the program, and the first fault ends it.
-/

namespace FrameLisp

/-- The version of the language. -/
def version : String := "0.0.1"

/-- Why a program has no value. -/
inductive Failure where
  /-- Its source cannot be read. -/
  | misread (misread : Misread)
  /-- Its evaluation stopped. -/
  | stop (stop : Stop)
deriving DecidableEq, Inhabited

/-- A session: settings and a machine. -/
structure Session where
  /-- The settings. -/
  config : Config
  /-- The state. -/
  machine : Machine

/-- The frame in which programs run. -/
def Session.root : FrameId := 0

/-! ### Programs -/

/-- Evaluates trees in turn at the top level of a frame; the last value counts. -/
def Eval.program (config : Config) (frame : FrameId) (last : Value) : List Node → Eval Value
  | [] => pure last
  | node :: nodes => do
    report (.topLevel node)
    let value ← node.eval config true frame
    program config frame value nodes

/-- Makes room for a number of levels, unless there is more already. -/
def Eval.makeRoom (levels : Nat) : Eval Unit :=
  modify fun machine => { machine with room := max levels machine.room }

/-- Reports all that was left out of a source. -/
def Eval.reportNotices (source file : String) : Eval Unit :=
  modify fun machine =>
    let notices := (Token.notices source file).map Event.notice
    { machine with events := machine.events ++ notices.toArray }

namespace Session

/-- Runs a computation on the machine of a session. -/
def run {α : Type} (session : Session) (x : Eval α) : Except Stop α × Session :=
  match x session.machine with
  | .ok a machine => (.ok a, { session with machine })
  | .error stop machine => (.error stop, { session with machine })

/-- A session in which nothing is bound. -/
def bare : Session :=
  { config := {}, machine := { frames := #[[]] } }

/-- A session with the prelude and the module resolvers. -/
def standard (config : Config) : Session :=
  let session : Session := { config, machine := { bare.machine with room := config.maxDepth } }
  (session.run do
    Eval.loadPrelude root
    Eval.installResolvers root).2

/-- Reads a source with at most `limit` brackets open at a time. -/
def read (session : Session) (limit : Nat) (source file : String) :
    Except Misread (List Node) × Session :=
  let session := (session.run (Eval.reportNotices source file)).2
  (Node.build limit (Token.lex source file), session)

/-- Runs trees in the root frame. -/
def evalNodes (session : Session) (nodes : List Node) : Except Stop Value × Session :=
  session.run do
    Eval.makeRoom session.config.maxDepth
    Eval.program session.config root .nil nodes

/-- Reads a source with a limit and runs it. -/
def evalWithin (session : Session) (limit : Nat) (source file : String) :
    Except Failure Value × Session :=
  match session.read limit source file with
  | (.error misread, session) => (.error (.misread misread), session)
  | (.ok nodes, session) =>
    match session.evalNodes nodes with
    | (.error stop, session) => (.error (.stop stop), session)
    | (.ok value, session) => (.ok value, session)

/-- Reads a source and runs it. -/
def evalSource (session : Session) (source file : String) : Except Failure Value × Session :=
  session.evalWithin Node.defaultNesting source file

/-- Calls a value from outside of any program. -/
def call (session : Session) (callee : Value) (args : List Value)
    (kwargs : List (String × Value)) : Except Stop Value × Session :=
  session.run (callee.callWith session.config.hosts session.config.evaluators args kwargs)

/-! ### Modules -/

/-- Registers a value under the full path of a module. -/
def register (session : Session) (name : String) (value : Value) : Session :=
  let machine := session.machine
  { session with machine := { machine with modules := Bindings.insert name value machine.modules } }

/-- The paths of the registered modules in order. -/
def moduleNames (session : Session) : List String :=
  (Bindings.keys session.machine.modules).mergeSort fun a b => a ≤ b

end Session

/-- Runs a source in a session of its own. -/
def evalAlone (source file : String) : Except Failure Value × Session :=
  (Session.standard {}).evalSource source file

/-- A frame as a record of its names. -/
def Frame.recordText (frame : Frame) : String :=
  FrameLisp.recordText "Environment" [("names", quotedList (Bindings.keys frame))]

end FrameLisp
