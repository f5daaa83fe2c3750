import CheckedScript.Text.Printable

/-!
# Quoted text

The written form of a text inside a message: single quotes, unless the text
holds a single quote and no double quote; the enclosing quote, the backslash
and everything that is not printable is escaped.
-/

namespace CheckedScript

namespace Text

/-- The last `width` hexadecimal digits of a number. -/
def hexDigits : Nat → Nat → List Char
  | 0, _ => []
  | width + 1, number =>
      hexDigits width (number / 16) ++ [Nat.digitChar (number % 16)]

/-- The shortest numeric escape that can hold a code point. -/
def numericEscape (code : Nat) : List Char :=
  if code < 0x100 then '\\' :: 'x' :: hexDigits 2 code
  else if code < 0x10000 then '\\' :: 'u' :: hexDigits 4 code
  else '\\' :: 'U' :: hexDigits 8 code

/-- One character between the given quotes. -/
def escape (quote character : Char) : List Char :=
  if character = quote || character = '\\' then ['\\', character]
  else if character = '\n' then ['\\', 'n']
  else if character = '\r' then ['\\', 'r']
  else if character = '\t' then ['\\', 't']
  else if isPrintable character then [character]
  else numericEscape character.toNat

/-- The quote that encloses a text. -/
def quoteFor (characters : List Char) : Char :=
  if characters.contains '\'' && !characters.contains '"' then '"' else '\''

/-- A text between quotes. -/
def quoted (text : String) : String :=
  let quote := quoteFor text.toList
  String.ofList (quote :: text.toList.flatMap (escape quote) ++ [quote])

end Text

end CheckedScript
