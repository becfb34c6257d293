import FrameLisp.Location

/-!
# Faults

A `Fault` is the way in which an evaluation fails.  Every fault has a kind, and the kinds form a
family: a handler for a kind also handles the kinds below it.  `Exception` stands above all but
`Interrupt`, which no other kind is related to.

A fault may lack a location.  `orAt` supplies one where the fault was raised by a called function
that knows none, and leaves every other fault alone.
-/

namespace FrameLisp

namespace Fault

/-- The kinds of faults, which are also the error classes of the language. -/
inductive Kind where
  /-- Any fault but an interrupt. -/
  | exception
  /-- A program that is not well formed. -/
  | malformed
  /-- A wrong number of arguments. -/
  | arity
  /-- A name without a value. -/
  | unbound
  /-- A value of a wrong type. -/
  | mistyped
  /-- Something missing that is needed to go on. -/
  | runtime
  /-- Evaluation nested too deeply. -/
  | recursion
  /-- A number without a result. -/
  | arithmetic
  /-- A division by zero. -/
  | zeroDivision
  /-- A value of the right type that cannot be used. -/
  | badValue
  /-- An interruption from outside. -/
  | interrupt
deriving DecidableEq, Inhabited

namespace Kind

/-- All kinds, in the order in which they are declared. -/
def all : List Kind :=
  [.exception, .malformed, .arity, .unbound, .mistyped, .runtime, .recursion, .arithmetic,
    .zeroDivision, .badValue, .interrupt]

/-- The name of a kind in the language. -/
def name : Kind → String
  | exception => "Exception"
  | malformed => "StructureError"
  | arity => "ArityError"
  | unbound => "NameError"
  | mistyped => "TypeError"
  | runtime => "RuntimeError"
  | recursion => "RecursionError"
  | arithmetic => "ArithmeticError"
  | zeroDivision => "ZeroDivisionError"
  | badValue => "ValueError"
  | interrupt => "Interrupt"

/-- The kind of a name. -/
def ofName? (name : String) : Option Kind :=
  all.find? fun kind => kind.name = name

/-- A kind and the kinds above it, nearest first. -/
def lineage : Kind → List Kind
  | exception => [.exception]
  | interrupt => [.interrupt]
  | arity => [.arity, .malformed, .exception]
  | recursion => [.recursion, .runtime, .exception]
  | zeroDivision => [.zeroDivision, .arithmetic, .exception]
  | kind => [kind, .exception]

/-- The kind right above. -/
def parent? (kind : Kind) : Option Kind :=
  kind.lineage[1]?

/-- Whether a handler for a kind handles a fault of the kind `raised`. -/
def catches (kind raised : Kind) : Bool :=
  raised.lineage.contains kind

end Kind

end Fault

/-- The ways in which an evaluation fails. -/
inductive Fault where
  /-- The program is not well formed. -/
  | malformed (message : String) (location : Option Location)
  /-- A name has no value. -/
  | unbound (message : String) (location : Option Location)
  /-- A value has a wrong type. -/
  | mistyped (message : String) (location : Option Location)
  /-- Something is missing that is needed to go on. -/
  | runtime (message : String) (location : Option Location)
  /-- A callee was given a wrong number of arguments. -/
  | arity (callee : String) (reason : String) (location : Option Location)
  /-- A fault raised by a called function, or thrown by the program. -/
  | raised (kind : Fault.Kind) (message : String) (location : Option Location)
  /-- Evaluation at `depth` would go beyond `limit`. -/
  | overflow (depth limit : Nat) (location : Option Location)
  /-- The evaluation was interrupted. -/
  | interrupted
deriving DecidableEq, Inhabited

namespace Fault

/-- The kind of a fault. -/
def kind : Fault → Kind
  | malformed .. => .malformed
  | unbound .. => .unbound
  | mistyped .. => .mistyped
  | runtime .. => .runtime
  | arity .. => .arity
  | raised kind _ _ => kind
  | overflow .. => .recursion
  | interrupted => .interrupt

/-- The message of a fault, without its kind and location. -/
def message : Fault → String
  | malformed message _ => message
  | unbound message _ => message
  | mistyped message _ => message
  | runtime message _ => message
  | arity callee reason _ => callee ++ ": " ++ reason
  | raised _ message _ => message
  | overflow _ limit _ => "maximum depth " ++ Decimal.ofNat limit ++ " exceeded"
  | interrupted => "evaluation interrupted"

/-- Where a fault arose, if that is known. -/
def location? : Fault → Option Location
  | malformed _ location => location
  | unbound _ location => location
  | mistyped _ location => location
  | runtime _ location => location
  | arity _ _ location => location
  | raised _ _ location => location
  | overflow _ _ location => location
  | interrupted => none

/-- The location at the end of a written fault. -/
def atText : Option Location → String
  | some location => " at " ++ location.text
  | none => ""

/-- The written form of a fault. -/
def text (fault : Fault) : String :=
  match fault with
  | interrupted => fault.message
  | _ => fault.kind.name ++ ": " ++ fault.message ++ atText fault.location?

/-- Supplies a location to a fault of a called function that has none. -/
def orAt (here : Option Location) : Fault → Fault
  | arity callee reason none => arity callee reason here
  | raised kind message none => raised kind message here
  | fault => fault

end Fault

end FrameLisp
