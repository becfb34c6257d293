import FrameLisp.Method
import FrameLisp.Signature

/-!
# Calls

A function of the program is called in a frame of its own: a copy of the frame it was made in, as it
is by then, with the arguments bound in it.  Its body is evaluated there under the context the
function was made in, by an `Evaluator` that is given for each context.

A builtin checks the number of its arguments and then does its work at once.  `apply` and the
functions of the host call in turn, without a limit on how deep; that such a chain ends is known of
the host.
-/

namespace FrameLisp

namespace Eval

/-- Evaluates nodes one after the other; the last value counts. -/
def body (evaluate : Evaluator) (frame : FrameId) (last : Value) : List Node → Eval Value
  | [] => pure last
  | node :: nodes => do
    let value ← evaluate node frame
    body evaluate frame value nodes

/-- Evaluates nodes one after the other; all values count. -/
def arguments (evaluate : Evaluator) (frame : FrameId) : List Node → Eval (List Value)
  | [] => pure []
  | node :: nodes => do
    let value ← evaluate node frame
    return value :: (← arguments evaluate frame nodes)

end Eval

/-! ### Functions -/

namespace Closure

/-- The dict of keyword arguments. -/
def keywordDict (kwargs : List (String × Value)) : Value :=
  let pairs := kwargs.map fun pair => (Key.keyword (Value.keywordName pair.1), pair.2)
  .dict (Bindings.insertAll [] pairs)

/-- The variables a call adds to the frame of the function. -/
def bindings (closure : Closure) (args : List Value) (kwargs : List (String × Value)) :
    Except Stop (List (String × Value)) :=
  match closure.signature.arity.complaint? args.length with
  | some reason => .error (.fault (.arity closure.name reason closure.location))
  | none => do
    let bound ← closure.signature.bind args
    return bound ++ [(Signature.keywordArguments, keywordDict kwargs)]

/-- Calls a function.  Its body is evaluated under the context the function was made in. -/
def call (evaluate : Context → Evaluator) (closure : Closure) (args : List Value)
    (kwargs : List (String × Value)) : Eval Value := do
  let bindings ← Eval.ofExcept (closure.bindings args kwargs)
  let frame ← Eval.overlay closure.frame bindings
  Eval.body (evaluate closure.context) frame .nil closure.body

end Closure

/-! ### Builtins -/

/-- Finds a registered module. -/
def Eval.resolve (name : String) : Eval Value := do
  report (.resolving name)
  orFail (.noModule name) (Bindings.find? name (← get).modules)

/-- What a resolver gives for the name of a module. -/
def Resolver.run (name : Value) : Eval Value :=
  match name with
  | .str path | .symbol path => Eval.resolve path
  | _ => Eval.fail (.moduleNameNotText name.shown)

/-- What comes of a computation, a fault of it as well. -/
def Eval.outcome {α : Type} (x : Eval α) : Eval (Except Fault α) := fun machine =>
  match x machine with
  | .ok a machine => .ok (.ok a) machine
  | .error (.fault fault) machine => .ok (.error fault) machine
  | .error stop machine => .error stop machine

/-- Runs the code of a host, given how the calls it makes are carried out. -/
def HostCode.run : (code : HostCode) →
    (∀ callee args, code.Calls callee args → Eval Value) → Eval Value
  | give value, _ => pure value
  | fail fault, _ => Eval.fail fault
  | call callee args next, calls => do
    let answer ← Eval.outcome (calls callee args .here)
    (next answer).run fun callee args h => calls callee args (.call answer h)
  | print text next, calls => do
    Eval.printLine text
    next.run fun callee args h => calls callee args (.print h)
  | interrupt flag interrupted next, calls => do
    Eval.setInterrupted flag interrupted
    next.run fun callee args h => calls callee args (.interrupt h)
  | depth counter next, calls => do
    let depth := (← get).depth counter
    (next depth).run fun callee args h => calls callee args (.depth depth h)
  | fresh next, calls => do
    let ref ← Eval.freshRef
    (next ref).run fun callee args h => calls callee args (.fresh ref h)
  | lookup frame name next, calls => do
    let found ← Eval.lookup? frame name
    (next found).run fun callee args h => calls callee args (.lookup found h)
  | define frame name value next, calls => do
    Eval.define frame name value
    next.run fun callee args h => calls callee args (.define h)

/-- Refuses a number of arguments that a builtin does not take. -/
def Builtin.checkArity (builtin : Builtin) (args : List Value) : Except Stop Unit :=
  if builtin.arity < 0 then .ok ()
  else (Arity.exactly builtin.arity.toNat).check builtin.name args

/-- What a builtin does, given how the calls it makes are carried out. -/
def Builtin.run (hosts : Hosts) : (b : Builtin) → (args : List Value) →
    (∀ callee given, b.Calls hosts.toHostTable args callee given → Eval Value) → Eval Value
  | operation op, args, _ => Eval.ofExcept (op.run args)
  | printer _, args, _ => do
    Eval.printLine (Value.joined " " args)
    return .nil
  | apply, [callee, .list items], calls => calls callee items .apply
  | apply, [_, other], _ => Eval.fail (.argumentsNotAList other.typeName)
  | resolver _, [name], _ => Resolver.run name
  | host _ _ key, args, calls =>
    (hosts.function key args).run fun callee given h => calls callee given (.host h)
  | _, _, _ => throw .outOfBounds

/-- What a call does, given how the calls are carried out that a builtin makes in it. -/
def Value.callStep (hosts : Hosts) (evaluate : Context → Evaluator) :
    (call : Value × List Value) →
    (∀ inner, hosts.Reenters inner call → Eval Value) → Eval Value
  | (function _ closure, args), _ => closure.call evaluate args []
  | (builtin _ b, args), calls => do
    Eval.ofExcept (b.checkArity args)
    b.run hosts args fun callee given h => calls (callee, given) (.intro h)
  | (callee, _), _ => Eval.fail (.notCallable callee.typeName)

/-- Calls a value with arguments.  The recursion is on the calls that builtins make, of which no
chain goes on for ever. -/
def Value.call (hosts : Hosts) (evaluate : Context → Evaluator) (callee : Value)
    (args : List Value) : Eval Value :=
  hosts.grounded.fix (C := fun _ => Eval Value) (Value.callStep hosts evaluate) (callee, args)

theorem Value.call_eq (hosts : Hosts) (evaluate : Context → Evaluator) (callee : Value)
    (args : List Value) :
    callee.call hosts evaluate args =
      callStep hosts evaluate (callee, args) fun inner _ => inner.1.call hosts evaluate inner.2 :=
  hosts.grounded.fix_eq _ _

theorem Value.call_function (hosts : Hosts) (evaluate : Context → Evaluator) (ref : Nat)
    (closure : Closure) (args : List Value) :
    (function ref closure).call hosts evaluate args = closure.call evaluate args [] :=
  call_eq ..

theorem Value.call_builtin (hosts : Hosts) (evaluate : Context → Evaluator) (ref : Nat)
    (b : Builtin) (args : List Value) :
    (builtin ref b).call hosts evaluate args = (do
      Eval.ofExcept (b.checkArity args)
      b.run hosts args fun callee given _ => callee.call hosts evaluate given) :=
  call_eq ..

theorem Value.call_of_not_callable (hosts : Hosts) (evaluate : Context → Evaluator)
    {callee : Value} (h : callee.isCallable = false) (args : List Value) :
    callee.call hosts evaluate args = Eval.fail (.notCallable callee.typeName) := by
  cases callee <;> first | exact call_eq .. | cases h

/-- Calls a value with arguments and keyword arguments, which only functions of the program take. -/
def Value.callWith (hosts : Hosts) (evaluate : Context → Evaluator) (callee : Value)
    (args : List Value) (kwargs : List (String × Value)) : Eval Value :=
  if kwargs.isEmpty then callee.call hosts evaluate args
  else
    match callee with
    | function _ closure => closure.call evaluate args kwargs
    | builtin _ b => Eval.fail (.noKeywordArguments b.name)
    | _ => Eval.fail (.notCallable callee.typeName)

/-! ### Objects -/

/-- What a value answers as when a method of an object is called. -/
inductive Object where
  /-- An object of the host. -/
  | host (object : HostObject)
  /-- A module with its name and its members. -/
  | module (name : String) (members : List (String × Value))

/-- The object a value is. -/
def Value.object? : Value → Option Object
  | object _ o => some (.host o)
  | module _ name members => some (.module name members)
  | _ => none

namespace Object

/-- The class of an object. -/
def className : Object → String
  | host object => object.className
  | module .. => "module"

/-- Whether an object has a method. -/
def has (hosts : Hosts) (object : Object) (name : String) : Bool :=
  match object with
  | host object => hosts.has object name
  | module _ members => (Bindings.find? name members).isSome

/-- Calls a member of a module.  A member that is no function can only be asked for, without
arguments. -/
def callMember (hosts : Hosts) (evaluate : Context → Evaluator) (moduleName : String)
    (members : List (String × Value)) (name : String) (args : List Value) : Eval Value :=
  match Bindings.find? name members with
  | some member =>
    if member.isCallable then member.call hosts evaluate args
    else if args.isEmpty then pure member
    else Eval.fail (.memberNotCallable name moduleName)
  | none => Eval.fail (.noMember moduleName name)

/-- Calls a method of an object, whether it has it or not. -/
def call (hosts : Hosts) (evaluate : Context → Evaluator) (object : Object) (name : String)
    (args : List Value) : Eval Value :=
  match object with
  | host object =>
    (hosts.method object name args).run fun callee given _ => callee.call hosts evaluate given
  | module moduleName members => callMember hosts evaluate moduleName members name args

end Object

end FrameLisp
