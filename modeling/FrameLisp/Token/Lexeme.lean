import FrameLisp.Text.Blank
import FrameLisp.Token

/-!
# The lexeme at the start of a text

`Lexeme.first` looks at the start of a text and says what stands there and how many characters it
takes.  It knows nothing of lines and columns, and it never fails: a character that starts nothing
is a `stray` lexeme of its own.

Three lexemes are not tokens.  A `blank` is passed over: a blank character, or a comment from `;`
or `#` through the end of its line.  An `unterminated` string takes the rest of the text.  A `sugar`
bracket is one character that stands for two tokens: `[` for `(listy` and `{` for `(dicty`.
-/

namespace FrameLisp

/-- What stands at one place of a text. -/
inductive Lexeme where
  /-- A blank character or a comment. -/
  | blank
  /-- One token. -/
  | token (kind : Token.Kind) (text : String)
  /-- A bracket that opens a call of the given constructor. -/
  | sugar (constructor : String)
  /-- A string without a closing quote. -/
  | unterminated
  /-- A character that starts nothing. -/
  | stray (c : Char)
deriving DecidableEq, Inhabited

namespace Lexeme

/-! ### Classes of characters -/

/-- The characters beside letters that a name may start with. -/
def symbols : List Char :=
  ['+', '-', '*', '/', '=', '<', '>', '?', '!', '.', '_', '&', ':', '^', '%']

/-- Whether a name may start with the character. -/
def startsName (c : Char) : Bool :=
  c.isAlpha || symbols.contains c

/-- Whether a name may go on with the character. -/
def inName (c : Char) : Bool :=
  startsName c || c.isDigit

/-! ### Lexemes of several characters -/

/-- The kind of a name: three words and the names with a leading colon have kinds of their own. -/
def nameKind (name : List Char) : Token.Kind :=
  if name = ['n', 'i', 'l'] then .nil
  else if name = ['t', 'r', 'u', 'e'] ∨ name = ['f', 'a', 'l', 's', 'e'] then .boolean
  else if name.head? = some ':' then .keyword
  else .identifier

/-- The number of characters up to and including the next newline. -/
def lineLength (cs : List Char) : Nat :=
  min ((cs.takeWhile (· ≠ '\n')).length + 1) cs.length

/-- The characters an escape stands for: a newline for `n`, a quote for itself, none otherwise. -/
def unescape (c : Char) : List Char :=
  if c = 'n' then ['\n'] else if c = '"' then ['"'] else []

/-- The characters of a string after its opening quote, and how many characters of the text they
and the closing quote take.  There are none if the text ends first. -/
def stringBody : List Char → Option (List Char × Nat)
  | [] => none
  | '"' :: _ => some ([], 1)
  | ['\\'] => none
  | '\\' :: e :: rest => (stringBody rest).map fun body => (unescape e ++ body.1, body.2 + 2)
  | c :: rest => (stringBody rest).map fun body => (c :: body.1, body.2 + 1)

/-! ### The first lexeme -/

/-- A number or a name that starts with `c`, with what it takes of the rest. -/
def run (kind : List Char → Token.Kind) (part : Char → Bool) (c : Char) (rest : List Char) :
    Lexeme × Nat :=
  let word := c :: rest.takeWhile part
  (.token (kind word) (String.ofList word), (rest.takeWhile part).length)

/-- The lexeme at the start of `c :: rest`, and how many characters after `c` it takes. -/
def first (c : Char) (rest : List Char) : Lexeme × Nat :=
  if c = '#' ∧ rest.head? = some '(' then (.token .opening "#(", 1)
  else if c = ';' ∨ c = '#' then (.blank, lineLength rest)
  else if c.isDigit then run (fun _ => .number) Char.isDigit c rest
  else if (c = '+' ∨ c = '-') ∧ rest.head?.any Char.isDigit then
    run (fun _ => .number) Char.isDigit c rest
  else if startsName c then run nameKind inName c rest
  else if c = '"' then
    match stringBody rest with
    | some (text, taken) => (.token .string (String.ofList text), taken)
    | none => (.unterminated, rest.length)
  else if c = '\'' then (.token .quote "'", 0)
  else if c = '(' then (.token .opening "(", 0)
  else if c = ')' ∨ c = '}' ∨ c = ']' then (.token .closing ")", 0)
  else if c = '{' then (.sugar "dicty", 0)
  else if c = '[' then (.sugar "listy", 0)
  else if Text.isBlank c then (.blank, 0)
  else (.stray c, 0)

end Lexeme

end FrameLisp
