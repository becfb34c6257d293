/-!
# The names of special forms

A form whose head is one of these names is not a call.  The definitions among them may stand at the
top level of a program only.
-/

namespace FrameLisp

/-- The special forms. -/
inductive SpecialForm where
  /-- Evaluates nodes one after the other. -/
  | doAll
  /-- The first value that counts as true. -/
  | anyOf
  /-- The first value that does not count as true. -/
  | allOf
  /-- Handles faults. -/
  | tryCatch
  /-- A pipeline that goes through the first arguments. -/
  | threadFirst
  /-- A pipeline that goes through the last arguments. -/
  | threadLast
  /-- A choice of two. -/
  | ifElse
  /-- A condition on several nodes. -/
  | whenTrue
  /-- A choice of many. -/
  | condition
  /-- Variables for some nodes. -/
  | letBind
  /-- A function. -/
  | function
  /-- A definition. -/
  | define
  /-- A definition of what is not defined yet. -/
  | defineOnce
  /-- A definition of a function. -/
  | defineFunction
  /-- A definition of a function that is not defined yet. -/
  | defineFunctionOnce
  /-- A definition of a module with a dotted path. -/
  | importModule
  /-- A definition of a module with a slashed path. -/
  | requireModule
deriving DecidableEq, Inhabited

namespace SpecialForm

/-- All special forms, in the order in which they are declared. -/
def all : List SpecialForm :=
  [.doAll, .anyOf, .allOf, .tryCatch, .threadFirst, .threadLast, .ifElse, .whenTrue, .condition,
    .letBind, .function, .define, .defineOnce, .defineFunction, .defineFunctionOnce,
    .importModule, .requireModule]

/-- The name of a special form. -/
def name : SpecialForm → String
  | doAll => "do"
  | anyOf => "or"
  | allOf => "and"
  | tryCatch => "try"
  | threadFirst => "->"
  | threadLast => "->>"
  | ifElse => "if"
  | whenTrue => "when"
  | condition => "cond"
  | letBind => "let"
  | function => "fn"
  | define => "def"
  | defineOnce => "def?"
  | defineFunction => "defn"
  | defineFunctionOnce => "defn?"
  | importModule => "import"
  | requireModule => "require"

/-- The special form of a name. -/
def ofName? (name : String) : Option SpecialForm :=
  all.find? fun form => form.name = name

/-- Whether the form may stand at the top level only. -/
def topLevelOnly : SpecialForm → Bool
  | define | defineOnce | defineFunction | defineFunctionOnce | importModule | requireModule =>
    true
  | _ => false

end SpecialForm

end FrameLisp
