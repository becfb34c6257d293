import FrameLisp.Value

/-!
# Equality of values

Plain values are equal if they are the same, a whole number also equals the float of its value.
Lists are equal item by item, dicts entry by entry in any order.  Functions, exceptions, objects and
modules are equal only to themselves.  Since no float is equal to not-a-number, neither is a list
that holds one.

The keys of a dict are found by their hashes, which see the variant of a value and, in plain values,
what they hold.
-/

namespace FrameLisp.Value

mutual

/-- Whether two values are equal. -/
def equal : Value → Value → Bool
  | nil, nil => true
  | bool a, bool b => a == b
  | int a, int b => a == b
  | float a, float b => a == b
  | int a, float b => Float.ofInt a.toInt == b
  | float a, int b => Float.ofInt b.toInt == a
  | str a, str b => a == b
  | keyword a, keyword b => a == b
  | symbol a, symbol b => a == b
  | list a, list b => equalItems a b
  | dict a, dict b => a.length == b.length && equalEntries a b
  | function a _, function b _ => a == b
  | builtin a _, builtin b _ => a == b
  | errorClass a, errorClass b => a == b
  | exception a _, exception b _ => a == b
  | object a _, object b _ => a == b
  | module a _ _, module b _ _ => a == b
  | _, _ => false

/-- Whether two lists are equal item by item. -/
def equalItems : List Value → List Value → Bool
  | [], [] => true
  | a :: as, b :: bs => equal a b && equalItems as bs
  | _, _ => false

/-- Whether each entry of the first list has an equal value under its key in the second. -/
def equalEntries : List (Key × Value) → List (Key × Value) → Bool
  | [], _ => true
  | (key, value) :: entries, others =>
    (match Bindings.find? key others with
      | some other => equal value other
      | none => false) && equalEntries entries others

end

/-- A part of what a hash sees. -/
inductive HashPart where
  /-- The variant of a value. -/
  | variant (n : Nat)
  /-- A truth value. -/
  | truth (b : Bool)
  /-- A whole number. -/
  | whole (n : Int64)
  /-- A text or a name. -/
  | text (text : String)
deriving DecidableEq

/-- The number of a value's variant.  Modules are objects too. -/
def variant : Value → Nat
  | nil => 0
  | bool _ => 1
  | int _ => 2
  | float _ => 3
  | str _ => 4
  | keyword _ => 5
  | symbol _ => 6
  | list _ => 7
  | dict _ => 8
  | function .. => 9
  | builtin .. => 10
  | errorClass _ => 11
  | exception .. => 12
  | object .. | module .. => 13

/-- What the hash of a value sees. -/
def hashParts (value : Value) : List HashPart :=
  .variant value.variant ::
    match value with
    | bool b => [.truth b]
    | int n => [.whole n]
    | str text | keyword text | symbol text => [.text text]
    | _ => []

/-- Keys are equal as values only if they are the same. -/
theorem equal_toValue_iff (a b : Key) : a.toValue.equal b.toValue = true ↔ a = b := by
  cases a <;> cases b <;> simp [Key.toValue, equal]

end FrameLisp.Value
