import FrameLisp.Text.CaseMap.Table

/-!
# Upper and lower case

Each character is mapped by itself, possibly to several characters, with one exception: a capital
sigma becomes the final form in lower case where it ends a word, that is, where a cased character
stands before it and none after it, characters without a say in case being looked through.
-/

namespace FrameLisp.Text

/-- The characters of a list of code points. -/
def charsOf (codes : List Nat) : List Char :=
  codes.map Char.ofNat

/-- A character under a case mapping given by expansions and runs. -/
def mapCase (expansions : List (Nat × List Nat)) (runs : List CaseRun) (c : Char) : List Char :=
  match expansions.lookup c.toNat with
  | some codes => charsOf codes
  | none =>
    match runs.findSome? fun run => run.apply? c.toNat with
    | some code => [Char.ofNat code]
    | none => [c]

/-- The upper case of a character. -/
def upperChar (c : Char) : List Char :=
  mapCase upperExpansions upperRuns c

/-- The lower case of a character that does not depend on its neighbours. -/
def lowerChar (c : Char) : List Char :=
  mapCase lowerExpansions lowerRuns c

/-- The upper case of a text. -/
def upper (text : String) : String :=
  String.ofList (text.toList.flatMap upperChar)

/-- Whether the first character with a say in case is cased. -/
def casedNext (cs : List Char) : Bool :=
  match cs.dropWhile caseIgnorable.has with
  | [] => false
  | c :: _ => cased.has c

/-- The lower case of the rest of a text, given the characters before it, the nearest first. -/
def lowerFrom (before : List Char) : List Char → List Char
  | [] => []
  | c :: rest =>
    (if c = 'Σ' then
      if casedNext before && !casedNext rest then ['ς'] else ['σ']
    else lowerChar c) ++ lowerFrom (c :: before) rest

/-- The lower case of a text. -/
def lower (text : String) : String :=
  String.ofList (lowerFrom [] text.toList)

end FrameLisp.Text
