import BraceFormat.Json
import BraceFormat.Number.Shortest
import BraceFormat.Text.Hex

/-!
The text of a JSON value, without blanks. A string escapes quotes, backslashes and control
characters, these by a letter if they have one. A binary64 number has its shortest text, and words
stand for those that are not finite.
-/

set_option autoImplicit false
set_option relaxedAutoImplicit false

namespace BraceFormat.Json

/-- The letter that stands behind a backslash for a control character. -/
def controlLetter? (c : Char) : Option Char :=
  if c = '\x08' then some 'b'
  else if c = '\x0C' then some 'f'
  else if c = '\n' then some 'n'
  else if c = '\r' then some 'r'
  else if c = '\t' then some 't'
  else none

def escapeUnit (c : Char) : Text :=
  if c = '\x22' ∨ c = '\\' then ['\\', c]
  else if c.toNat < 0x20 then
    match controlLetter? c with
    | some letter => ['\\', letter]
    | none => '\\' :: 'u' :: hexDigits 4 c.toNat
  else [c]

def printString (text : Text) : Text :=
  '\x22' :: text.flatMap escapeUnit ++ ['\x22']

def printFloat : Binary64 → Text
  | .nan => "NaN".toList
  | .infinity false => "Infinity".toList
  | .infinity true => "-Infinity".toList
  | x => x.shortest

mutual

def print : Json → Text
  | null => "null".toList
  | bool true => "true".toList
  | bool false => "false".toList
  | integer n => Numeral.ofInt n
  | float x => printFloat x
  | string text => printString text
  | array items => '[' :: printItems items ++ [']']
  | object members => '{' :: printMembers members ++ ['}']

def printItems : List Json → Text
  | [] => []
  | [item] => item.print
  | item :: rest => item.print ++ ',' :: printItems rest

def printMembers : List (Text × Json) → Text
  | [] => []
  | [member] => printMember member
  | member :: rest => printMember member ++ ',' :: printMembers rest

def printMember : Text × Json → Text
  | (name, value) => printString name ++ ':' :: value.print

end

end BraceFormat.Json
