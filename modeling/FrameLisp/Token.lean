import FrameLisp.Location

/-!
# Tokens

A source text is read as a flat sequence of tokens.  Each token has a kind, a text and the location
where it starts.  The text is what the source has there, except that a string has its escapes
resolved and that the three closing brackets are one and the same.
-/

namespace FrameLisp

/-- The kinds of tokens. -/
inductive Token.Kind where
  /-- A whole number with an optional sign. -/
  | number
  /-- A name. -/
  | identifier
  /-- A text in double quotes. -/
  | string
  /-- The word `nil`. -/
  | nil
  /-- One of the words `true` and `false`. -/
  | boolean
  /-- A name that starts with a colon. -/
  | keyword
  /-- A quote mark, which quotes what follows it. -/
  | quote
  /-- An opening bracket. -/
  | opening
  /-- A closing bracket. -/
  | closing
deriving DecidableEq, Inhabited

/-- A token with its location. -/
structure Token where
  /-- What the token is. -/
  kind : Token.Kind
  /-- The text of the token. -/
  text : String
  /-- Where the token starts. -/
  location : Location
deriving DecidableEq, Inhabited

namespace Token

/-- Whether the token is the given name. -/
def isIdentifier (token : Token) (name : String) : Bool :=
  token.kind = .identifier && token.text = name

/-- Whether the token opens an inline function. -/
def opensInline (token : Token) : Bool :=
  token.kind = .opening && token.text = "#("

/-- The property that a name with a leading `^` puts on the node after it. -/
def property? (token : Token) : Option String :=
  match token.kind, token.text.toList with
  | .identifier, '^' :: name => some (String.ofList name)
  | _, _ => none

end Token

end FrameLisp
