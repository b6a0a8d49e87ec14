/-
# The compact text of a JSON value

No white space.  In a string the quote, the backslash and the control characters are
escaped, the ones with a two-character form in that form; every other character
stands for itself.  A double is written by its shortest decimal.
-/

import ServiceBroker.Json.Value
import ServiceBroker.Decimal.Shortest
import ServiceBroker.Text.Quoted

namespace ServiceBroker
namespace Json

/-- Doubles are positional from `1e-5` up to below `1e16`, and a positive exponent has its sign. -/
def numberLayout : Decimal.Layout := ⟨-5, 15, true⟩

/-- What one character of a string is written as. -/
def escapeChar (c : Char) : List Char :=
  if c = '"' then ['\\', '"']
  else if c = '\\' then ['\\', '\\']
  else if c = '\x08' then ['\\', 'b']
  else if c = '\x0c' then ['\\', 'f']
  else if c = '\n' then ['\\', 'n']
  else if c = '\r' then ['\\', 'r']
  else if c = '\t' then ['\\', 't']
  else if c.toNat < 0x10 then ['\\', 'u', '0', '0', '0'] ++ Text.hexDigits c.toNat
  else if c.toNat < 0x20 then ['\\', 'u', '0', '0'] ++ Text.hexDigits c.toNat
  else [c]

/-- A string between quotes. -/
def stringText (s : String) : List Char := '"' :: s.toList.flatMap escapeChar ++ ['"']

mutual

/-- The characters of the compact text of a value. -/
def chars : Json → List Char
  | .null => ['n', 'u', 'l', 'l']
  | .bool true => ['t', 'r', 'u', 'e']
  | .bool false => ['f', 'a', 'l', 's', 'e']
  | .integer n => (toString n).toList
  | .double d => (Decimal.textOf numberLayout d).toList
  | .string s => stringText s
  | .array elements => '[' :: elementChars elements ++ [']']
  | .object members => '\x7b' :: memberChars members ++ ['\x7d']

/-- The elements of an array, separated by commas. -/
def elementChars : List Json → List Char
  | [] => []
  | [v] => v.chars
  | v :: rest => v.chars ++ ',' :: elementChars rest

/-- The members of an object, separated by commas. -/
def memberChars : List (String × Json) → List Char
  | [] => []
  | [(k, v)] => stringText k ++ ':' :: v.chars
  | (k, v) :: rest => stringText k ++ ':' :: v.chars ++ ',' :: memberChars rest

end

/-- The compact text of a value. -/
def text (v : Json) : String := String.ofList v.chars

end Json
end ServiceBroker
