import FrameLisp.Text.Printable

/-!
# Quoted texts and characters

The form in which a text is shown inside double quotes and a character inside single ones.  The
enclosing quote and the backslash are escaped, a newline, carriage return, tab and zero have an
escape of one letter, any other character that is not printable is shown as its code point in
braces, and everything else stands for itself.
-/

namespace FrameLisp.Text

/-- The code point of a character as `\u{…}`, in lower-case hexadecimal digits. -/
def codeEscape (c : Char) : List Char :=
  ['\\', 'u', '\x7b'] ++ Nat.toDigits 16 c.toNat ++ ['\x7d']

/-- A character as it is shown between two `quote` marks. -/
def escape (quote : Char) (c : Char) : List Char :=
  if c = quote ∨ c = '\\' then ['\\', c]
  else if c = '\n' then ['\\', 'n']
  else if c = '\r' then ['\\', 'r']
  else if c = '\t' then ['\\', 't']
  else if c = '\x00' then ['\\', '0']
  else if isPrintable c then [c]
  else codeEscape c

/-- A text in double quotes. -/
def quoted (text : String) : String :=
  String.ofList ('"' :: text.toList.flatMap (escape '"') ++ ['"'])

/-- A character in single quotes. -/
def quotedChar (c : Char) : String :=
  String.ofList ('\'' :: escape '\'' c ++ ['\''])

end FrameLisp.Text
