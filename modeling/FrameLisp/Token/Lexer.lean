import FrameLisp.Token.Lexeme

/-!
# Reading a text as tokens

The lexer takes one lexeme after the other and gives each its location.  Besides tokens it reports
`Notice`s, the two ways in which a part of the text is left out: a stray character, and a string
without an end.  Reading never fails.
-/

namespace FrameLisp

/-- A part of the text that was left out. -/
inductive Notice where
  /-- A character that starts no token. -/
  | stray (c : Char) (location : Location)
  /-- A string without a closing quote, which takes the rest of the text. -/
  | unterminated (location : Location)
deriving DecidableEq, Inhabited

/-- One thing the lexer found: a token or a notice. -/
inductive Finding where
  /-- A token. -/
  | token (token : Token)
  /-- A notice. -/
  | notice (notice : Notice)
deriving DecidableEq, Inhabited

namespace Finding

/-- The token of a finding. -/
def token? : Finding → Option Token
  | .token found => some found
  | .notice _ => none

/-- The notice of a finding. -/
def notice? : Finding → Option Notice
  | .token _ => none
  | .notice found => some found

end Finding

/-- What a lexeme at a location adds to the findings. -/
def Lexeme.findings (location : Location) : Lexeme → List Finding
  | .blank => []
  | .token kind text => [.token ⟨kind, text, location⟩]
  | .sugar constructor =>
    [.token ⟨.opening, "(", location⟩, .token ⟨.identifier, constructor, location⟩]
  | .unterminated => [.notice (.unterminated location)]
  | .stray c => [.notice (.stray c location)]

namespace Token

/-- Everything found in a text that starts at `place` of the source called `file`. -/
def scan (file : String) (place : Place) : List Char → List Finding
  | [] => []
  | c :: rest =>
    let found := Lexeme.first c rest
    found.1.findings (place.inFile file) ++
      scan file (place.after (c :: rest.take found.2)) (rest.drop found.2)
termination_by text => text.length
decreasing_by
  rw [List.length_drop, List.length_cons]
  omega

/-- Everything found in a source. -/
def findings (source file : String) : List Finding :=
  scan file .start source.toList

/-- The tokens of a source. -/
def lex (source file : String) : List Token :=
  (findings source file).filterMap Finding.token?

/-- The notices of a source. -/
def notices (source file : String) : List Notice :=
  (findings source file).filterMap Finding.notice?

end Token

end FrameLisp
