/-!
# Blank characters

The characters that separate words: the 25 code points of the Unicode property `White_Space`.  The
lexer passes over them, and texts are trimmed and cut into words at them.
-/

namespace FrameLisp.Text

/-- Whether a character is blank. -/
def isBlank (c : Char) : Bool :=
  (0x09 ≤ c.toNat && c.toNat ≤ 0x0d) || c.toNat == 0x20 || c.toNat == 0x85 || c.toNat == 0xa0 ||
    c.toNat == 0x1680 || (0x2000 ≤ c.toNat && c.toNat ≤ 0x200a) || c.toNat == 0x2028 ||
    c.toNat == 0x2029 || c.toNat == 0x202f || c.toNat == 0x205f || c.toNat == 0x3000

/-- Drops blank characters at both ends. -/
def trim (text : String) : String :=
  let inner := text.toList.dropWhile isBlank
  String.ofList (inner.reverse.dropWhile isBlank).reverse

/-- The maximal runs of characters that are not blank, given the run before the rest. -/
def wordsFrom (run : List Char) : List Char → List (List Char)
  | [] => if run.isEmpty then [] else [run.reverse]
  | c :: rest =>
    if isBlank c then
      if run.isEmpty then wordsFrom [] rest else run.reverse :: wordsFrom [] rest
    else wordsFrom (c :: run) rest

/-- The words of a text: its maximal runs of characters that are not blank. -/
def words (text : String) : List String :=
  (wordsFrom [] text.toList).map String.ofList

end FrameLisp.Text
