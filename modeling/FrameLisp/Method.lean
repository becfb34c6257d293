import FrameLisp.Operation
import FrameLisp.Text.Blank
import FrameLisp.Text.CaseMap
import FrameLisp.Text.Search

/-!
# Methods

The methods of texts, lists, dicts and exceptions.  Looking up a method by name in a value gives the
method together with what it works on, so a method never meets a receiver of another class.  A call
checks the number of arguments first.
-/

namespace FrameLisp

/-- The methods of texts. -/
inductive TextMethod where
  /-- The text in upper case. -/
  | upper
  /-- The text in lower case. -/
  | lower
  /-- The text without blanks at its ends. -/
  | strip
  /-- The words of the text, or its pieces around a separator. -/
  | split
  /-- Whether the text starts with another. -/
  | startsWith
  /-- Whether the text ends with another. -/
  | endsWith
  /-- The texts of a list with this one between them. -/
  | join
  /-- The text with one text in the place of another. -/
  | replace
deriving DecidableEq, Inhabited

/-- The methods of lists. -/
inductive ListMethod where
  /-- The position of the first item equal to a value. -/
  | index
  /-- How many items are equal to a value. -/
  | count
  /-- The list itself. -/
  | copy
deriving DecidableEq, Inhabited

/-- The methods of dicts. -/
inductive DictMethod where
  /-- The value under a key, or else a default. -/
  | get
  /-- The keys in order. -/
  | keys
  /-- The values in the order of their keys. -/
  | values
  /-- The entries in order, each a list of a key and a value. -/
  | items
  /-- The dict itself. -/
  | copy
deriving DecidableEq, Inhabited

/-- The methods of exceptions. -/
inductive ExceptionMethod where
  /-- The error class of the fault. -/
  | kind
  /-- The message of the fault. -/
  | message
deriving DecidableEq, Inhabited

/-- A method with what it works on. -/
inductive Method where
  /-- A method of a text. -/
  | text (method : TextMethod) (text : String)
  /-- A method of a list. -/
  | list (method : ListMethod) (items : List Value)
  /-- A method of a dict. -/
  | dict (method : DictMethod) (entries : List (Key × Value))
  /-- A method of a caught fault. -/
  | exception (method : ExceptionMethod) (fault : Fault)

/-! ### Texts -/

namespace TextMethod

/-- The methods of texts by name. -/
def find? : String → Option TextMethod
  | "upper" => some upper
  | "lower" => some lower
  | "strip" => some strip
  | "split" => some split
  | "startswith" => some startsWith
  | "endswith" => some endsWith
  | "join" => some join
  | "replace" => some replace
  | _ => none

/-- The name of the method. -/
def name : TextMethod → String
  | upper => "upper"
  | lower => "lower"
  | strip => "strip"
  | split => "split"
  | startsWith => "startswith"
  | endsWith => "endswith"
  | join => "join"
  | replace => "replace"

/-- How many arguments the method takes. -/
def arity : TextMethod → Arity
  | upper | lower | strip => .exactly 0
  | split => .between 0 1
  | startsWith | endsWith | join => .exactly 1
  | replace => .exactly 2

/-- An argument that must be a text. -/
def textArgument (method : String) (value : Value) : Except Fault String :=
  match value with
  | .str text => .ok text
  | _ => .error (.textExpected method value.typeName)

/-- The pieces of a text around a separator. -/
def pieces (text : String) (separator : Value) : Except Fault Value := do
  let mark ← textArgument "split" separator
  if mark.isEmpty then .error .emptySeparator
  else return .list ((Text.cut text mark).map .str)

/-- The texts of a list with another between them. -/
def joinAll (between : String) (value : Value) : Except Fault Value :=
  match value with
  | .list items => do
    let texts ← items.mapM (textArgument "join")
    return .str (between.intercalate texts)
  | _ => .error (.joinNotAList value.typeName)

/-- A text with one text in the place of another. -/
def replaceAll (text : String) (old new : Value) : Except Fault Value := do
  let old ← textArgument "replace" old
  let new ← textArgument "replace" new
  return .str (Text.replace text old new)

/-- What the method gives for a text and its arguments. -/
def run (method : TextMethod) (text : String) (args : List Value) : Except Stop Value := do
  method.arity.check method.name args
  match method, args with
  | upper, _ => return .str (Text.upper text)
  | lower, _ => return .str (Text.lower text)
  | strip, _ => return .str (Text.trim text)
  | split, [] => return .list ((Text.words text).map .str)
  | split, [separator] => Stop.lift (pieces text separator)
  | startsWith, [start] => do
    return .bool (Text.startsWith text (← Stop.lift (textArgument "startswith" start)))
  | endsWith, [finish] => do
    return .bool (Text.endsWith text (← Stop.lift (textArgument "endswith" finish)))
  | join, [items] => Stop.lift (joinAll text items)
  | replace, [old, new] => Stop.lift (replaceAll text old new)
  | _, _ => .error .outOfBounds

end TextMethod

/-! ### Lists -/

namespace ListMethod

/-- The methods of lists by name. -/
def find? : String → Option ListMethod
  | "index" => some index
  | "count" => some count
  | "copy" => some copy
  | _ => none

/-- The name of the method. -/
def name : ListMethod → String
  | index => "index"
  | count => "count"
  | copy => "copy"

/-- How many arguments the method takes. -/
def arity : ListMethod → Arity
  | index | count => .exactly 1
  | copy => .exactly 0

/-- The position of the first item equal to a value. -/
def indexOf (items : List Value) (value : Value) : Except Fault Value :=
  match items.findIdx? fun item => item.equal value with
  | some i => .ok (.ofNat i)
  | none => .error (.notInList value.shown)

/-- How many items are equal to a value. -/
def occurrences (items : List Value) (value : Value) : Nat :=
  items.countP fun item => item.equal value

/-- What the method gives for a list and its arguments. -/
def run (method : ListMethod) (items : List Value) (args : List Value) : Except Stop Value := do
  method.arity.check method.name args
  match method, args with
  | index, [value] => Stop.lift (indexOf items value)
  | count, [value] => return .ofNat (occurrences items value)
  | copy, _ => return .list items
  | _, _ => .error .outOfBounds

end ListMethod

/-! ### Dicts -/

namespace DictMethod

/-- The methods of dicts by name. -/
def find? : String → Option DictMethod
  | "get" => some get
  | "keys" => some keys
  | "values" => some values
  | "items" => some items
  | "copy" => some copy
  | _ => none

/-- The name of the method. -/
def name : DictMethod → String
  | get => "get"
  | keys => "keys"
  | values => "values"
  | items => "items"
  | copy => "copy"

/-- How many arguments the method takes. -/
def arity : DictMethod → Arity
  | get => .between 1 2
  | _ => .exactly 0

/-- What the method gives for a dict and its arguments. -/
def run (method : DictMethod) (entries : List (Key × Value)) (args : List Value) :
    Except Stop Value := do
  method.arity.check method.name args
  match method, args with
  | get, [key] => return (Operation.entry? entries key).getD .nil
  | get, [key, default] => return (Operation.entry? entries key).getD default
  | keys, _ => return .list (entries.map fun entry => entry.1.toValue)
  | values, _ => return .list (entries.map fun entry => entry.2)
  | items, _ => return .list (entries.map fun entry => .list [entry.1.toValue, entry.2])
  | copy, _ => return .dict entries
  | _, _ => .error .outOfBounds

end DictMethod

/-! ### Exceptions -/

namespace ExceptionMethod

/-- The methods of exceptions by name. -/
def find? : String → Option ExceptionMethod
  | "kind" => some kind
  | "message" => some message
  | _ => none

/-- The name of the method. -/
def name : ExceptionMethod → String
  | kind => "kind"
  | message => "message"

/-- What the method gives for a caught fault. -/
def run (method : ExceptionMethod) (fault : Fault) (args : List Value) : Except Stop Value := do
  (Arity.exactly 0).check method.name args
  match method with
  | kind => return .errorClass fault.kind
  | message => return .str fault.message

end ExceptionMethod

/-! ### All of them -/

namespace Method

/-- What a method gives for its arguments. -/
def run : Method → List Value → Except Stop Value
  | text method receiver => method.run receiver
  | list method receiver => method.run receiver
  | dict method receiver => method.run receiver
  | exception method receiver => method.run receiver

end Method

/-- The method of a name that a value's class has. -/
def Value.method? (receiver : Value) (name : String) : Option Method :=
  match receiver with
  | str text => (TextMethod.find? name).map fun method => .text method text
  | list items => (ListMethod.find? name).map fun method => .list method items
  | dict entries => (DictMethod.find? name).map fun method => .dict method entries
  | exception _ fault => (ExceptionMethod.find? name).map fun method => .exception method fault
  | _ => none

end FrameLisp
