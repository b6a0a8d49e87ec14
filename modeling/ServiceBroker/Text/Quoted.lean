/-
# Quoted text

How a message shows a text whose ends and contents have to be visible: between
double quotes, with a backslash before a quote or a backslash, the usual two-
character forms of tab, line feed, carriage return and NUL, and every other
character without a visible form of its own by its number in braces.
-/

import ServiceBroker.Text.Invisible

namespace ServiceBroker
namespace Text

/-- The lower-case hexadecimal digits of a number, without leading zeros. -/
def hexDigits (n : Nat) : List Char := Nat.toDigits 16 n

/-- What one character of a quoted text is written as. -/
def quoteChar (c : Char) : List Char :=
  if c = '"' then ['\\', '"']
  else if c = '\\' then ['\\', '\\']
  else if c = '\t' then ['\\', 't']
  else if c = '\n' then ['\\', 'n']
  else if c = '\r' then ['\\', 'r']
  else if c = '\x00' then ['\\', '0']
  else if isInvisible c then ['\\', 'u', '\x7b'] ++ hexDigits c.toNat ++ ['\x7d']
  else [c]

/-- A text between double quotes, each character as `quoteChar` writes it. -/
def quote (s : String) : String :=
  String.ofList ('"' :: s.toList.flatMap quoteChar ++ ['"'])

/-- Quotes, backslashes and line feeds are escaped; an apostrophe is not. -/
example : quote "a\"b\\c\n'" = "\"a\\\"b\\\\c\\n'\"" := by decide +kernel

/-- A no-break space is written by its number. -/
example : quote "\u00a0" = "\"\\u\x7ba0\x7d\"" := by decide +kernel

end Text
end ServiceBroker
