import FrameLisp.Decimal

/-!
# Places in a source text

A `Place` is a line and a column, both counted from one.  Reading a character moves the place: a
newline starts the next line at column one, every other character, wide or narrow, is one column.
A `Location` is a place in a named file; it is written `file:line:column`.
-/

namespace FrameLisp

/-- A line and a column, both counted from one. -/
structure Place where
  /-- The line, counted from one. -/
  line : Nat
  /-- The column, counted from one in characters. -/
  column : Nat
deriving DecidableEq, Inhabited

namespace Place

/-- The place where every text starts. -/
def start : Place := ⟨1, 1⟩

/-- The place after reading one character. -/
def advance (place : Place) (c : Char) : Place :=
  if c = '\n' then ⟨place.line + 1, 1⟩ else ⟨place.line, place.column + 1⟩

/-- The place after reading a run of characters. -/
def after (place : Place) (cs : List Char) : Place :=
  cs.foldl advance place

@[simp]
theorem after_nil (place : Place) : place.after [] = place := rfl

@[simp]
theorem after_cons (place : Place) (c : Char) (cs : List Char) :
    place.after (c :: cs) = (place.advance c).after cs := rfl

theorem after_append (place : Place) (cs ds : List Char) :
    place.after (cs ++ ds) = (place.after cs).after ds :=
  List.foldl_append

end Place

/-- A place in a named source. -/
structure Location where
  /-- The name of the source. -/
  file : String
  /-- The line, counted from one. -/
  line : Nat
  /-- The column, counted from one in characters. -/
  column : Nat
deriving DecidableEq, Inhabited

/-- The location of a place in the source called `file`. -/
def Place.inFile (place : Place) (file : String) : Location :=
  ⟨file, place.line, place.column⟩

/-- The written form `file:line:column`. -/
def Location.text (location : Location) : String :=
  location.file ++ ":" ++ Decimal.ofNat location.line ++ ":" ++ Decimal.ofNat location.column

end FrameLisp
