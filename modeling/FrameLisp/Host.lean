import FrameLisp.Value

/-!
# Hosts

What a host adds to the language is code that is not written in it.  `HostCode` is that code as far
as a program can tell: a tree of requests, each with what to do next for every answer.  The code may
call a value and go on from its value or its fault, print, ask for an interruption, look at the
depth of the evaluation, make new values, and read or write variables of frames it knows of.

A `HostTable` says what code belongs to the functions and objects of a host.  Calls that builtins
make of one another enter no node, so no limit on the depth of an evaluation bounds them.
`HostTable.Reenters` is this relation of calls, and `Hosts` is a table together with the fact that
no chain of such calls goes on for ever.
-/

namespace FrameLisp

/-- The code of a host, as the requests it makes. -/
inductive HostCode where
  /-- Gives a value. -/
  | give (value : Value)
  /-- Fails with a fault. -/
  | fail (fault : Fault)
  /-- Calls a value with arguments and goes on from what comes of it. -/
  | call (callee : Value) (args : List Value) (next : Except Fault Value → HostCode)
  /-- Prints a line. -/
  | print (text : String) (next : HostCode)
  /-- Asks for an interruption through a flag, or takes that back. -/
  | interrupt (flag : Nat) (interrupted : Bool) (next : HostCode)
  /-- Reads a counter of nested evaluations. -/
  | depth (counter : Nat) (next : Nat → HostCode)
  /-- Takes a `ref` for a new value. -/
  | fresh (next : Nat → HostCode)
  /-- Reads a variable of a frame. -/
  | lookup (frame : FrameId) (name : String) (next : Option Value → HostCode)
  /-- Binds a variable in a frame. -/
  | define (frame : FrameId) (name : String) (value : Value) (next : HostCode)
deriving Inhabited

namespace HostCode

/-- The calls that code makes, whatever the answers to its requests are. -/
inductive Calls : HostCode → Value → List Value → Prop where
  /-- The call that comes next. -/
  | here {callee : Value} {args : List Value} {next : Except Fault Value → HostCode} :
    Calls (.call callee args next) callee args
  /-- A call after another one. -/
  | call {first : Value} {given : List Value} {next : Except Fault Value → HostCode}
    (answer : Except Fault Value) {callee : Value} {args : List Value}
    (h : Calls (next answer) callee args) : Calls (.call first given next) callee args
  /-- A call after a line is printed. -/
  | print {text : String} {next : HostCode} {callee : Value} {args : List Value}
    (h : Calls next callee args) : Calls (.print text next) callee args
  /-- A call after a flag is set. -/
  | interrupt {flag : Nat} {interrupted : Bool} {next : HostCode} {callee : Value}
    {args : List Value} (h : Calls next callee args) :
    Calls (.interrupt flag interrupted next) callee args
  /-- A call after a counter is read. -/
  | depth {counter : Nat} {next : Nat → HostCode} (depth : Nat) {callee : Value}
    {args : List Value} (h : Calls (next depth) callee args) :
    Calls (.depth counter next) callee args
  /-- A call after a `ref` is taken. -/
  | fresh {next : Nat → HostCode} (ref : Nat) {callee : Value} {args : List Value}
    (h : Calls (next ref) callee args) : Calls (.fresh next) callee args
  /-- A call after a variable is read. -/
  | lookup {frame : FrameId} {name : String} {next : Option Value → HostCode}
    (found : Option Value) {callee : Value} {args : List Value}
    (h : Calls (next found) callee args) : Calls (.lookup frame name next) callee args
  /-- A call after a variable is bound. -/
  | define {frame : FrameId} {name : String} {value : Value} {next : HostCode} {callee : Value}
    {args : List Value} (h : Calls next callee args) :
    Calls (.define frame name value next) callee args

end HostCode

/-! ### Tables -/

/-- What the functions and the objects of a host do. -/
structure HostTable where
  /-- The code of a function for its arguments. -/
  function : (key : String) → (args : List Value) → HostCode
  /-- Whether an object has a method. -/
  has : (object : HostObject) → (name : String) → Bool
  /-- The code of a method of an object for its arguments. -/
  method : (object : HostObject) → (name : String) → (args : List Value) → HostCode

/-- The calls that a builtin makes for its arguments. -/
inductive Builtin.Calls (table : HostTable) : Builtin → List Value → Value → List Value → Prop where
  /-- `apply` calls its first argument with the items of its second. -/
  | apply {callee : Value} {items : List Value} :
    Calls table .apply [callee, .list items] callee items
  /-- A function of the host calls what its code calls. -/
  | host {name : String} {arity : Int} {key : String} {args : List Value} {callee : Value}
    {given : List Value} (h : (table.function key args).Calls callee given) :
    Calls table (.host name arity key) args callee given

/-- The calls that the call of a builtin makes in turn. -/
inductive HostTable.Reenters (table : HostTable) :
    Value × List Value → Value × List Value → Prop where
  /-- The builtin makes a call for its arguments. -/
  | intro {ref : Nat} {builtin : Builtin} {args : List Value} {callee : Value} {given : List Value}
    (h : builtin.Calls table args callee given) :
    Reenters table (callee, given) (.builtin ref builtin, args)

/-- The functions and objects of a host, of which no chain of calls goes on for ever. -/
structure Hosts extends HostTable where
  /-- Builtins call one another finitely often before a node is evaluated or all of them return. -/
  grounded : WellFounded toHostTable.Reenters

namespace HostTable

/-- A function whose code passes on to others fewer and smaller arguments than it was given calls
finitely often. -/
theorem wellFounded_reenters {table : HostTable}
    (h : ∀ {key : String} {args : List Value} {callee : Value} {given : List Value},
      (table.function key args).Calls callee given → sizeOf given < sizeOf args) :
    WellFounded table.Reenters := by
  refine Subrelation.wf (r := InvImage (· < ·) fun call : Value × List Value => sizeOf call.2) ?_
    (InvImage.wf _ Nat.lt_wfRel.wf)
  rintro _ _ ⟨_ | hcalls⟩
  · simp +arith [InvImage]
  · exact h hcalls

end HostTable

/-- The same fact, proved in a way that takes the first steps of a chain without a look at it.  This
is for evaluation by the kernel, which follows the proof. -/
theorem guarded {α : Type} {r : α → α → Prop} (h : WellFounded r) : Nat → WellFounded r
  | 0 => h
  | n + 1 => ⟨fun a => .intro a fun b _ => (guarded h n).apply b⟩

/-! ### A basic host -/

namespace Hosts

/-- The functions of the basic host. -/
def basicFunction (key : String) (args : List Value) : HostCode :=
  match key, args with
  | "first", _ => .give (args.head?.getD .nil)
  | "args", _ => .give (.list args)
  | "count", _ => .give (.ofNat args.length)
  | "fail", _ => .fail (.mistyped "host failed" none)
  | "raise", _ => .fail (.valueError "host raised")
  | "call", callee :: rest =>
    .call callee rest fun
      | .ok value => .give value
      | .error fault => .fail fault
  | "interrupt", _ => .interrupt 0 true (.give .nil)
  | "depth", _ => .depth 0 fun depth => .give (.ofNat depth)
  | _, _ => .give .nil

/-- The methods of a probe; one it does not have raises. -/
def probeMethod (id name : String) (args : List Value) : HostCode :=
  match name with
  | "id" => .give (.str id)
  | "echo" => .give (.list args)
  | "fail" => .fail (.unbound "probe failed" none)
  | _ => .fail (.valueError "probe raised")

/-- A table with a few functions, and with probes, objects of which the key is the id. -/
def basicTable : HostTable where
  function := basicFunction
  has _ name := ["id", "echo", "fail", "raise"].contains name
  method object := probeMethod object.key

/-- A function of the basic host calls with fewer arguments than it was given. -/
theorem sizeOf_lt_of_basicFunction_calls {key : String} {args : List Value} {callee : Value}
    {given : List Value} (h : (basicFunction key args).Calls callee given) :
    sizeOf given < sizeOf args := by
  unfold basicFunction at h
  split at h
  case h_6 first rest =>
    cases h with
    | here => simp +arith
    | call answer h => cases answer <;> cases h
  all_goals repeat cases h <;> rename_i h

/-- A host with a few functions, and with probes. -/
def basic : Hosts where
  toHostTable := basicTable
  grounded := guarded (HostTable.wellFounded_reenters sizeOf_lt_of_basicFunction_calls) 8

/-- An object of the basic host. -/
def probe (id : String) : HostObject :=
  { className := "probe", debug := "Probe(" ++ id ++ ")", key := id }

end Hosts

end FrameLisp
