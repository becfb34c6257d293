import FrameLisp.Decimal.Floating
import FrameLisp.Text.Quoted
import FrameLisp.Value

/-!
# The texts of values

A value has two texts.  `shown` is how it would be written in a program, with texts in quotes;
`plain` is what is printed: a text without its quotes, an exception without its brackets, and any
other value as it is shown.  Inside a list, a dict or a module values are always shown.
-/

namespace FrameLisp

/-! ### Records -/

/-- A text in the form `Name { field: value, field: value }`. -/
def recordText (name : String) (fields : List (String × String)) : String :=
  name ++ " \x7b " ++ ", ".intercalate (fields.map fun field => field.1 ++ ": " ++ field.2) ++
    " \x7d"

/-- A list of quoted texts in square brackets. -/
def quotedList (texts : List String) : String :=
  "[" ++ ", ".intercalate (texts.map Text.quoted) ++ "]"

/-- A text that may be missing. -/
def optionalText : Option String → String
  | some text => "Some(" ++ text ++ ")"
  | none => "None"

/-- A location as a record. -/
def Location.recordText (location : Location) : String :=
  FrameLisp.recordText "SourceLocation"
    [("file", Text.quoted location.file), ("line", Decimal.ofNat location.line),
      ("column", Decimal.ofNat location.column)]

/-- A signature as a record. -/
def Signature.recordText : Signature → String
  | named positional rest =>
    let params :=
      FrameLisp.recordText "Params"
        [("positional", quotedList positional), ("rest", optionalText (rest.map Text.quoted))]
    "Closure(" ++ params ++ ")"
  | inline => "Inline"

/-- A function as a record. -/
def Closure.recordText (closure : Closure) : String :=
  FrameLisp.recordText "FunctionValue"
    [("name", Text.quoted closure.name), ("kind", closure.signature.recordText),
      ("body", Decimal.ofNat closure.body.length),
      ("location", optionalText (closure.location.map Location.recordText))]

/-- A builtin as a record. -/
def Builtin.recordText (builtin : Builtin) : String :=
  "BuiltinFn(" ++ builtin.name ++ ")"

/-! ### Values -/

/-- The text of a truth value. -/
def boolText (b : Bool) : String :=
  if b then "true" else "false"

/-- A key as it would be written in a program. -/
def Key.shown : Key → String
  | nil => "nil"
  | bool b => boolText b
  | int n => Decimal.ofInt n.toInt
  | str text => Text.quoted text
  | keyword name => ":" ++ name
  | symbol name => name

namespace Value

mutual

/-- A value as it would be written in a program. -/
def shown : Value → String
  | nil => "nil"
  | bool b => boolText b
  | int n => Decimal.ofInt n.toInt
  | float x => Decimal.ofFloat x
  | str text => Text.quoted text
  | keyword name => ":" ++ name
  | symbol name => name
  | list items => "[" ++ " ".intercalate (shownItems items) ++ "]"
  | dict entries => "\x7b" ++ ", ".intercalate (shownEntries entries) ++ "\x7d"
  | function _ closure => "<fn " ++ closure.name ++ ">"
  | builtin _ b => "<builtin " ++ b.name ++ ">"
  | errorClass kind => "<class " ++ kind.name ++ ">"
  | exception _ fault => "<" ++ fault.kind.name ++ ": " ++ fault.message ++ ">"
  | object _ o => "<" ++ o.className ++ " " ++ o.debug ++ ">"
  | module _ name members =>
    let members := "\x7b" ++ ", ".intercalate (shownMembers members) ++ "\x7d"
    "<module " ++ recordText "Module" [("name", Text.quoted name), ("members", members)] ++ ">"

/-- The items of a list as they would be written. -/
def shownItems : List Value → List String
  | [] => []
  | item :: items => item.shown :: shownItems items

/-- The entries of a dict as they would be written. -/
def shownEntries : List (Key × Value) → List String
  | [] => []
  | (key, value) :: entries =>
    (key.shown ++ " " ++ value.shown) :: shownEntries entries

/-- The members of a module as they are shown. -/
def shownMembers : List (String × Value) → List String
  | [] => []
  | (name, value) :: members =>
    (Text.quoted name ++ ": " ++ value.shown) :: shownMembers members

end

theorem shown_toValue (key : Key) : key.toValue.shown = key.shown := by
  cases key <;> rfl

/-- A value as it is printed. -/
def plain : Value → String
  | str text => text
  | exception _ fault => fault.kind.name ++ ": " ++ fault.message
  | value => value.shown

/-- The printed texts of several values with something between them. -/
def joined (between : String) (values : List Value) : String :=
  between.intercalate (values.map plain)

end Value

end FrameLisp
