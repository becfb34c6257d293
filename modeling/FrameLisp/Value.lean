import FrameLisp.Arity
import FrameLisp.Bindings
import FrameLisp.Context
import FrameLisp.Fault.Wording
import FrameLisp.Node

/-!
# Values

The values of the language.  Numbers have 64 bits, texts are sequences of characters, lists and
dicts hold other values, and a dict keeps its entries in the order in which their keys first came.

Functions, builtins, caught exceptions, host objects and modules are told apart by a `ref`, a number
that is given out once, when the value comes to be.  A function holds no values of its own but the
number of the frame it was made in, so values stay finite trees even when a function can reach
itself.

What can be called beside functions is listed rather than embedded, by what it may do: an
`Operation` depends on its arguments alone, a `Printer` writes, `apply` calls, and a `Resolver`
looks into the registry of modules.  What a host adds, a function under a name and an arity of its
own or an object, is known here by a key only; what it does stands in the host's table.
-/

namespace FrameLisp

/-! ### Functions -/

/-- What the arguments of a function are bound to. -/
inductive Signature where
  /-- One name for each argument, and maybe a name for the list of all further ones. -/
  | named (positional : List String) (rest : Option String)
  /-- The numbered names of an inline function. -/
  | inline
deriving DecidableEq, Inhabited

/-- The number of a frame in the store. -/
abbrev FrameId := Nat

/-- A function of the program. -/
structure Closure where
  /-- The name the function goes by. -/
  name : String
  /-- What its arguments are bound to. -/
  signature : Signature
  /-- The nodes that are evaluated one after the other in a call. -/
  body : List Node
  /-- The frame the function was made in; a call reads it as it is by then. -/
  frame : FrameId
  /-- The context the function was made in; its body is evaluated under it. -/
  context : Context
  /-- Where the function was made. -/
  location : Option Location
deriving Inhabited

/-- The functions whose result depends on their arguments alone. -/
inductive Operation where
  /-- The sum of numbers; also puts texts, or lists, one after the other. -/
  | add
  /-- The difference of numbers. -/
  | subtract
  /-- The product of numbers. -/
  | multiply
  /-- The quotient of numbers, always a float. -/
  | divide
  /-- The modulus of numbers, with the sign of the divisor. -/
  | modulo
  /-- Whether all arguments are equal. -/
  | equal
  /-- Whether each argument is less than the next. -/
  | less
  /-- Whether each argument is greater than the next. -/
  | greater
  /-- Whether each argument is at most the next. -/
  | atMost
  /-- Whether each argument is at least the next. -/
  | atLeast
  /-- Whether the argument counts as false. -/
  | not
  /-- The list of the arguments. -/
  | list
  /-- The dict of keys and values in turn. -/
  | dict
  /-- What a collection has under a key, or else a default. -/
  | get
  /-- How much a collection holds. -/
  | count
  /-- The texts of the arguments put together. -/
  | str
  /-- The name of the argument's type. -/
  | type
  /-- Fails with an error class and a message. -/
  | throw
deriving DecidableEq, Inhabited

namespace Operation

/-- The name an operation is bound to. -/
def name : Operation → String
  | add => "+"
  | subtract => "-"
  | multiply => "*"
  | divide => "/"
  | modulo => "mod"
  | equal => "="
  | less => "<"
  | greater => ">"
  | atMost => "<="
  | atLeast => ">="
  | not => "not"
  | list => "listy"
  | dict => "dicty"
  | get => "get"
  | count => "count"
  | str => "str"
  | type => "type"
  | throw => "throw"

/-- The number of arguments of an operation, or `-1` if it checks them itself. -/
def arity : Operation → Int
  | not | count | type => 1
  | throw => 2
  | _ => -1

end Operation

/-- The functions that print their arguments; they differ in their names only. -/
inductive Printer where
  /-- Called `print`. -/
  | print
  /-- Called `println`. -/
  | println
  /-- Called `prn`. -/
  | prn
deriving DecidableEq, Inhabited

/-- The name a printer is bound to. -/
def Printer.name : Printer → String
  | print => "print"
  | println => "println"
  | prn => "prn"

/-- The functions that find a module by its path. -/
inductive Resolver where
  /-- Serves `require`, whose paths have slashes. -/
  | required
  /-- Serves `import`, whose paths have dots. -/
  | imported
deriving DecidableEq, Inhabited

namespace Resolver

/-- The name a resolver is bound to. -/
def name : Resolver → String
  | required => "__require__"
  | imported => "__import__"

/-- What stands between the segments of a path. -/
def separator : Resolver → Char
  | required => '/'
  | imported => '.'

end Resolver

/-- A function that is not written in the language. -/
inductive Builtin where
  /-- Computes a value from its arguments. -/
  | operation (operation : Operation)
  /-- Prints its arguments. -/
  | printer (printer : Printer)
  /-- Calls a function with the items of a list. -/
  | apply
  /-- Finds a module. -/
  | resolver (resolver : Resolver)
  /-- A function added by a host, under a name and an arity of its own; the key finds its code. -/
  | host (name : String) (arity : Int) (key : String)
deriving DecidableEq, Inhabited

namespace Builtin

/-- The name of a builtin. -/
def name : Builtin → String
  | operation op => op.name
  | printer p => p.name
  | apply => "apply"
  | resolver r => r.name
  | host name _ _ => name

/-- The number of arguments of a builtin; a negative number leaves them open. -/
def arity : Builtin → Int
  | operation op => op.arity
  | printer _ => -1
  | apply => 2
  | resolver _ => 1
  | host _ arity _ => arity

end Builtin

/-- An object of the host. -/
structure HostObject where
  /-- The name of its class. -/
  className : String
  /-- How it is shown. -/
  debug : String
  /-- The key that finds the code of its methods. -/
  key : String
deriving DecidableEq, Inhabited

/-! ### Values -/

/-- The values that can be keys of a dict. -/
inductive Key where
  /-- The value of nothing. -/
  | nil
  /-- A truth value. -/
  | bool (b : Bool)
  /-- A whole number of 64 bits. -/
  | int (n : Int64)
  /-- A text. -/
  | str (text : String)
  /-- A keyword, without its colon. -/
  | keyword (name : String)
  /-- A quoted name. -/
  | symbol (name : String)
deriving DecidableEq, Inhabited

/-- The values of the language. -/
inductive Value where
  /-- The value of nothing. -/
  | nil
  /-- A truth value. -/
  | bool (b : Bool)
  /-- A whole number of 64 bits. -/
  | int (n : Int64)
  /-- A float of 64 bits. -/
  | float (x : Float)
  /-- A text. -/
  | str (text : String)
  /-- A keyword, without its colon. -/
  | keyword (name : String)
  /-- A quoted name. -/
  | symbol (name : String)
  /-- A list. -/
  | list (items : List Value)
  /-- A dict, its entries in the order in which their keys first came. -/
  | dict (entries : List (Key × Value))
  /-- A function of the program. -/
  | function (ref : Nat) (closure : Closure)
  /-- A function that is not written in the language. -/
  | builtin (ref : Nat) (builtin : Builtin)
  /-- An error class. -/
  | errorClass (kind : Fault.Kind)
  /-- A caught fault. -/
  | exception (ref : Nat) (fault : Fault)
  /-- An object of the host. -/
  | object (ref : Nat) (object : HostObject)
  /-- A module with its members, in the order in which their names first came. -/
  | module (ref : Nat) (name : String) (members : List (String × Value))
deriving Inhabited

/-- The value of a key. -/
def Key.toValue : Key → Value
  | nil => .nil
  | bool b => .bool b
  | int n => .int n
  | str text => .str text
  | keyword name => .keyword name
  | symbol name => .symbol name

namespace Value

/-- The key of a value that can be one. -/
def key? : Value → Option Key
  | nil => some .nil
  | bool b => some (.bool b)
  | int n => some (.int n)
  | str text => some (.str text)
  | keyword name => some (.keyword name)
  | symbol name => some (.symbol name)
  | _ => none

@[simp]
theorem key?_toValue (key : Key) : key.toValue.key? = some key := by
  cases key <;> rfl

theorem key?_eq_some_iff {value : Value} {key : Key} :
    value.key? = some key ↔ value = key.toValue := by
  cases value <;> cases key <;> simp [key?, Key.toValue]

/-- The name of a value's type. -/
def typeName : Value → String
  | nil => "nil"
  | bool _ => "bool"
  | int _ => "int"
  | float _ => "float"
  | str _ => "str"
  | keyword _ => "keyword"
  | symbol _ => "symbol"
  | list _ => "list"
  | dict _ => "dict"
  | function .. | builtin .. => "function"
  | errorClass _ => "type"
  | exception .. => "exception"
  | object .. | module .. => "object"

/-- The class in which a value's methods are looked for; plain values have none. -/
def className? : Value → Option String
  | nil | bool _ | int _ | float _ | keyword _ | symbol _ => none
  | str _ => some "str"
  | list _ => some "list"
  | dict _ => some "dict"
  | function .. | builtin .. => some "function"
  | errorClass _ => some "type"
  | exception .. => some "exception"
  | object _ o => some o.className
  | module .. => some "module"

/-- The name a function goes by. -/
def displayName? : Value → Option String
  | function _ closure => some closure.name
  | builtin _ b => some b.name
  | _ => none

/-- Whether a value counts as true: nil, false, zero and whatever is empty do not. -/
def isTruthy : Value → Bool
  | nil => false
  | bool b => b
  | int n => n ≠ 0
  | float x => x != 0.0
  | str text => !text.isEmpty
  | list items => !items.isEmpty
  | dict entries => !entries.isEmpty
  | _ => true

/-- Whether a value is nil. -/
def isNil : Value → Bool
  | nil => true
  | _ => false

/-- Whether a value is a number. -/
def isNumeric : Value → Bool
  | int _ | float _ => true
  | _ => false

/-- Whether a value can be called. -/
def isCallable : Value → Bool
  | function .. | builtin .. => true
  | _ => false

/-- The whole number a value is. -/
def int? : Value → Option Int64
  | int n => some n
  | _ => none

/-- A number as a float; a whole number is rounded to the nearest float. -/
def float? : Value → Option Float
  | int n => some (Float.ofInt n.toInt)
  | float x => some x
  | _ => none

/-- The text a value is. -/
def str? : Value → Option String
  | str text => some text
  | _ => none

/-- The items of a list. -/
def items? : Value → Option (List Value)
  | list items => some items
  | _ => none

/-- The entries of a dict. -/
def entries? : Value → Option (List (Key × Value))
  | dict entries => some entries
  | _ => none

/-! ### Making values -/

/-- The name of a keyword that is written with or without its colon. -/
def keywordName (text : String) : String :=
  match text.toList with
  | ':' :: name => String.ofList name
  | _ => text

/-- The keyword that is written with or without its colon. -/
def ofKeyword (text : String) : Value :=
  keyword (keywordName text)

/-- A count as a value. -/
def ofNat (n : Nat) : Value :=
  int (Int64.ofNat n)

/-- Binds pairs one after the other in a dict, up to the first that has no key. -/
def insertPairs (entries : List (Key × Value)) :
    List (Value × Value) → Except Fault (List (Key × Value))
  | [] => .ok entries
  | (k, v) :: pairs =>
    match k.key? with
    | some key => insertPairs (Bindings.insert key v entries) pairs
    | none => .error (.unhashable k.typeName)

/-- The dict of a list of pairs: an equal key takes the later value and keeps its place. -/
def ofPairs (pairs : List (Value × Value)) : Except Fault Value :=
  (insertPairs [] pairs).map dict

end Value

end FrameLisp
