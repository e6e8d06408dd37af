import BraceFormat.Text.Hex
import BraceFormat.Text.Unprintable

/-!
The quoted form of a text: single quotes around it, or double quotes if the text has single quotes
and no double ones. A backslash and the quote in use are escaped by a backslash, line feed, carriage
return and tab by their letters, and any other unprintable character by its code point in the
fewest of two, four or eight hexadecimal digits that hold it.
-/

set_option autoImplicit false
set_option relaxedAutoImplicit false

namespace BraceFormat

def quoteFor (text : Text) : Char :=
  if '\'' ∈ text ∧ '"' ∉ text then '"' else '\''

def escapeChar (quote c : Char) : Text :=
  if c = quote ∨ c = '\\' then ['\\', c]
  else if c = '\n' then ['\\', 'n']
  else if c = '\r' then ['\\', 'r']
  else if c = '\t' then ['\\', 't']
  else if isPrintable c then [c]
  else if c.toNat ≤ 0xFF then '\\' :: 'x' :: hexDigits 2 c.toNat
  else if c.toNat ≤ 0xFFFF then '\\' :: 'u' :: hexDigits 4 c.toNat
  else '\\' :: 'U' :: hexDigits 8 c.toNat

def quoted (text : Text) : Text :=
  let quote := quoteFor text
  quote :: text.flatMap (escapeChar quote) ++ [quote]

/-- The quoted texts in brackets, with a comma and a space between two. -/
def quotedList (texts : List Text) : Text :=
  '[' :: [',', ' '].intercalate (texts.map quoted) ++ [']']

end BraceFormat
