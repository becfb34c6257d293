import FrameLisp.Fault

/-!
# The wording of faults

One constructor for each cause of a fault, with its words.  The faults of special forms say where
they are; those raised by called functions have no location of their own, and the call supplies
one.
-/

namespace FrameLisp.Fault

/-! ### Programs that are not well formed -/

/-- The arguments of a form break its rule. -/
def ruleBroken (rule reason : String) (location : Option Location) : Fault :=
  malformed (rule ++ ": " ++ reason) location

/-- A number has more than 64 bits. -/
def numberOutOfRange (text : String) (location : Option Location) : Fault :=
  malformed ("integer literal out of range: " ++ text) location

/-- A bracket or a quote mark stands where a value is needed. -/
def unexpectedToken (text : String) (location : Option Location) : Fault :=
  malformed ("unexpected token " ++ text) location

/-- A form without a head is evaluated. -/
def emptyForm (location : Option Location) : Fault :=
  malformed "cannot evaluate an empty expression" location

/-- A form has a quoted head. -/
def quotedHead (location : Option Location) : Fault :=
  malformed "head of an expression cannot be quoted" location

/-- A form has a head that cannot be called. -/
def headNotAName (text : String) (location : Option Location) : Fault :=
  malformed ("head of an expression should be an identifier, got " ++ text) location

/-- A definition stands inside another form. -/
def topLevelOnly (form : String) (location : Option Location) : Fault :=
  malformed (form ++ ": can only be used at the top level of a program") location

/-- A node should have been a name. -/
def notAnIdentifier (form node : String) (location : Option Location) : Fault :=
  malformed (form ++ ": expected an identifier, got " ++ node) location

/-- A dict in braces has a key without a value. -/
def keyWithoutValue (location : Option Location) : Fault :=
  malformed "dicty: every key must be followed by a value" location

/-- The handler of a `try` is not a form. -/
def handlerNotAForm (location : Option Location) : Fault :=
  malformed "try: second argument must be a catch clause" location

/-- The bindings of a `let` are not a form. -/
def bindingsNotAForm (location : Option Location) : Fault :=
  malformed "let: bindings must be a form" location

/-- A `let` has a target without a value. -/
def targetWithoutValue (location : Option Location) : Fault :=
  malformed "let: every binding target needs a value" location

/-- The parameters of a function are not a form. -/
def parametersNotAForm (form node : String) (location : Option Location) : Fault :=
  malformed (form ++ ": parameter list must be a form, got " ++ node) location

/-- Parameters have more than one `&`. -/
def repeatedCollector (form : String) (location : Option Location) : Fault :=
  malformed (form ++ ": only one '&' is allowed in a parameter list") location

/-- No name follows the `&` of parameters. -/
def collectorWithoutName (form : String) (location : Option Location) : Fault :=
  malformed (form ++ ": '&' must be followed by a name for the extra arguments") location

/-- Several names follow the `&` of parameters. -/
def namesAfterCollector (form : String) (location : Option Location) : Fault :=
  malformed (form ++ ": only one name may follow '&'") location

/-- A dot stands without the name of a method. -/
def methodWithoutName (location : Option Location) : Fault :=
  malformed "dot-form: method name is mandatory" location

/-! ### Names, types and what is missing -/

/-- A name is not bound. -/
def undefinedName (name : String) (location : Option Location) : Fault :=
  unbound ("name '" ++ name ++ "' is not defined") location

/-- A class has no method of a name. -/
def noMethod (className method : String) (location : Option Location) : Fault :=
  unbound ("an '" ++ className ++ "' object has no method '" ++ method ++ "'") location

/-- A module has no member of a name. -/
def noMember (module member : String) : Fault :=
  unbound ("module '" ++ module ++ "' has no member '" ++ member ++ "'") none

/-- A handler names something that is not an error class. -/
def notAnErrorClass (type : String) (location : Option Location) : Fault :=
  mistyped ("catch: expected an error class, got '" ++ type ++ "'") location

/-- A method is asked of a value without a class. -/
def noClass (shown : String) (location : Option Location) : Fault :=
  mistyped
    ("dot-form: " ++ shown ++
      " has no class identity; call module members as (.member module ...)")
    location

/-- A keyword is called where `get` is not bound. -/
def noKeywordLookup (location : Option Location) : Fault :=
  runtime "unable to use a keyword as a function without a `get` function" location

/-- A pattern is bound where `get` is not bound. -/
def noPatternLookup (location : Option Location) : Fault :=
  runtime "let: destructuring requires a `get` function" location

/-- A module is asked for where its resolver is not bound. -/
def noResolver (form resolver : String) (location : Option Location) : Fault :=
  runtime (form ++ ": no `" ++ resolver ++ "` resolver is installed") location

/-! ### Raised by called functions -/

/-- A type error raised by a called function. -/
def typeError (message : String) : Fault :=
  raised .mistyped message none

/-- A value error raised by a called function. -/
def valueError (message : String) : Fault :=
  raised .badValue message none

/-- A division by zero. -/
def zeroDivision (message : String) : Fault :=
  raised .zeroDivision message none

/-- A builtin is given keyword arguments. -/
def noKeywordArguments (name : String) : Fault :=
  typeError (name ++ "() takes no keyword arguments")

/-- A value that is no function is called. -/
def notCallable (type : String) : Fault :=
  typeError ("'" ++ type ++ "' object is not callable")

/-- An operator is given nothing. -/
def noOperands (operator : String) : Fault :=
  typeError (operator ++ " expects at least 1 argument, got 0")

/-- An operator is given values of types it does not combine. -/
def unsupportedOperands (operator left right : String) : Fault :=
  typeError
    ("unsupported operand type(s) for " ++ operator ++ ": '" ++ left ++ "' and '" ++ right ++ "'")

/-- The result of an operator does not fit into 64 bits. -/
def integerOverflow (operator : String) : Fault :=
  raised .arithmetic ("integer overflow in " ++ operator) none

/-- Values without an order are compared. -/
def unordered (operator left right : String) : Fault :=
  typeError
    ("'" ++ operator ++ "' not supported between instances of '" ++ left ++ "' and '" ++ right ++
      "'")

/-- A dict is made of an odd number of arguments. -/
def oddEntries (count : Nat) : Fault :=
  valueError ("dicty expects an even number of arguments, got " ++ Decimal.ofNat count)

/-- A value that cannot be a key is used as one. -/
def unhashable (type : String) : Fault :=
  typeError ("unhashable type: '" ++ type ++ "'")

/-- A value without a count is counted. -/
def noCount (type : String) : Fault :=
  typeError ("object of type '" ++ type ++ "' has no count")

/-- The arguments to apply a function to are not a list. -/
def argumentsNotAList (type : String) : Fault :=
  typeError ("apply expects a list of arguments, got '" ++ type ++ "'")

/-- Something is thrown that is no error class. -/
def notThrowable (type : String) : Fault :=
  typeError ("exceptions must be error classes, got '" ++ type ++ "'")

/-- No module of a name is registered. -/
def noModule (name : String) : Fault :=
  raised .runtime ("no module named '" ++ name ++ "'") none

/-- The name of a module is not a text. -/
def moduleNameNotText (shown : String) : Fault :=
  typeError ("module name must be a string, got " ++ shown)

/-- A member of a module is called that is no function. -/
def memberNotCallable (member module : String) : Fault :=
  typeError ("member '" ++ member ++ "' of module '" ++ module ++ "' is not callable")

/-- A method of texts is given something else. -/
def textExpected (method type : String) : Fault :=
  typeError (method ++ " expects a str argument, got '" ++ type ++ "'")

/-- A text is to be cut at an empty one. -/
def emptySeparator : Fault :=
  valueError "empty separator"

/-- The texts to join are not in a list. -/
def joinNotAList (type : String) : Fault :=
  typeError ("join expects a list, got '" ++ type ++ "'")

/-- A value is looked for in a list that does not have it. -/
def notInList (shown : String) : Fault :=
  valueError (shown ++ " is not in list")

end FrameLisp.Fault
