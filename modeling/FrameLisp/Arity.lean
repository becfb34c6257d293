import FrameLisp.Decimal

/-!
# How many arguments

An `Arity` says how many arguments are taken.  A count that does not fit is refused with a reason
that names both.
-/

namespace FrameLisp

/-- How many arguments are taken. -/
inductive Arity where
  /-- This many and no other number. -/
  | exactly (count : Nat)
  /-- This many or more. -/
  | atLeast (count : Nat)
  /-- From the first number to the second, both included. -/
  | between (least most : Nat)
deriving DecidableEq, Inhabited

namespace Arity

/-- Whether a number of arguments fits. -/
def allows : Arity → Nat → Bool
  | exactly n, count => count = n
  | atLeast n, count => n ≤ count
  | between least most, count => least ≤ count && count ≤ most

/-- A number of arguments in words. -/
def arguments (n : Nat) : String :=
  Decimal.ofNat n ++ if n = 1 then " argument" else " arguments"

/-- The arity in words. -/
def text : Arity → String
  | exactly n => "exactly " ++ arguments n
  | atLeast n => "at least " ++ arguments n
  | between least most =>
    "between " ++ Decimal.ofNat least ++ " and " ++ Decimal.ofNat most ++ " arguments"

/-- Why a number of arguments is refused, if it is. -/
def complaint? (arity : Arity) (count : Nat) : Option String :=
  if arity.allows count then none
  else some ("expected " ++ arity.text ++ ", got " ++ Decimal.ofNat count)

theorem complaint?_eq_none_iff {arity : Arity} {count : Nat} :
    arity.complaint? count = none ↔ arity.allows count = true := by
  unfold complaint?
  split <;> simp_all

end Arity

end FrameLisp
