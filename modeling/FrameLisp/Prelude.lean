import FrameLisp.Call

/-!
# The prelude

The variables every program starts with, in the order in which they are bound: the builtins, then
the error classes.  There is no class for interrupts, so no program can throw or catch one.  The two
module resolvers are bound apart, by whoever has a registry of modules to offer.
-/

namespace FrameLisp

namespace Prelude

/-- The builtins of the prelude. -/
def builtins : List Builtin :=
  [.operation .add, .operation .subtract, .operation .multiply, .operation .divide,
    .operation .modulo, .operation .equal, .operation .less, .operation .greater,
    .operation .atMost, .operation .atLeast, .operation .not, .operation .list, .operation .dict,
    .operation .get, .operation .count, .printer .print, .printer .println, .printer .prn,
    .operation .str, .apply, .operation .type, .operation .throw]

/-- The error classes of the prelude. -/
def classes : List Fault.Kind :=
  Fault.Kind.all.filter (· ≠ .interrupt)

/-- The module resolvers. -/
def resolvers : List Builtin :=
  [.resolver .required, .resolver .imported]

end Prelude

namespace Eval

/-- Binds a builtin under its name. -/
def defineBuiltin (frame : FrameId) (builtin : Builtin) : Eval Unit := do
  let ref ← freshRef
  define frame builtin.name (.builtin ref builtin)

/-- Binds builtins one after the other. -/
def defineBuiltins (frame : FrameId) : List Builtin → Eval Unit
  | [] => pure ()
  | builtin :: builtins => do
    defineBuiltin frame builtin
    defineBuiltins frame builtins

/-- Binds error classes under their names. -/
def defineClasses (frame : FrameId) : List Fault.Kind → Eval Unit
  | [] => pure ()
  | kind :: kinds => do
    define frame kind.name (.errorClass kind)
    defineClasses frame kinds

/-- Binds the prelude in a frame. -/
def loadPrelude (frame : FrameId) : Eval Unit := do
  defineBuiltins frame Prelude.builtins
  defineClasses frame Prelude.classes

/-- Binds the module resolvers in a frame. -/
def installResolvers (frame : FrameId) : Eval Unit :=
  defineBuiltins frame Prelude.resolvers

end Eval

end FrameLisp
