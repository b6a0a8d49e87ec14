/-
# JSON tokens

The lexical form of a JSON text: punctuation, words, numerals and strings, white
space between them dropped.  A string token keeps its content as written, as raw
bytes and code units, so that a text can be accepted whose strings nobody reads;
`StringUnit.text?` is the reading.

The scanner is an automaton: one step per byte, and the tokens found so far.
-/

import ServiceBroker.Json.Numeral
import ServiceBroker.Text.Bytes
import ServiceBroker.Text.Hex

namespace ServiceBroker
namespace Json

/-- One element of a string as written: a byte, or a UTF-16 code unit given by its number. -/
inductive StringUnit where
  | byte (value : UInt8)
  | unit (value : Nat)
deriving Repr, DecidableEq

namespace StringUnit

/-- A code unit that has to be followed by a low surrogate. -/
def isHighSurrogate (n : Nat) : Bool := 0xd800 ≤ n && n ≤ 0xdbff

def isLowSurrogate (n : Nat) : Bool := 0xdc00 ≤ n && n ≤ 0xdfff

/-- The code point of a surrogate pair. -/
def pairValue (high low : Nat) : Nat := 0x10000 + (high - 0xd800) * 0x400 + (low - 0xdc00)

/-- The UTF-8 bytes of a code point that is no surrogate. -/
def encode (n : Nat) : Bytes := Bytes.ofText (String.singleton (Char.ofNat n))

/-- The bytes of a string, the last ones first: pairs of surrogates are joined, and a surrogate
alone has no bytes. -/
def bytes? : List StringUnit → Bytes → Option Bytes
  | [], found => some found
  | .byte b :: rest, found => bytes? rest (b :: found)
  | .unit n :: rest, found =>
    if isLowSurrogate n then none
    else if isHighSurrogate n then
      match rest with
      | .unit m :: rest' =>
        if isLowSurrogate m then bytes? rest' ((encode (pairValue n m)).reverse ++ found) else none
      | _ => none
    else bytes? rest ((encode n).reverse ++ found)

/-- The text of a string, if its content is UTF-8 and its surrogates are paired. -/
def text? (units : List StringUnit) : Option String :=
  (bytes? units []).bind fun found => Bytes.text? found.reverse

end StringUnit

/-- A token of a JSON text. -/
inductive Token where
  | openArray
  | closeArray
  | openObject
  | closeObject
  | comma
  | colon
  | null
  | bool (value : Bool)
  | numeral (value : Numeral)
  | string (content : List StringUnit)
deriving Repr

/-- Where the scanner stands: between tokens, in a word or a numeral (its characters so far, the
last one first), or in a string (its content so far, the last element first). -/
inductive Scan where
  | between
  | word (seen : List Char)
  | numeral (seen : List Char)
  | string (content : List StringUnit)
  | escape (content : List StringUnit)
  | hex (content : List StringUnit) (digits : Nat) (value : Nat)

namespace Scan

def isBlank (b : UInt8) : Bool := b = 0x20 || b = 0x09 || b = 0x0a || b = 0x0d

def isLower (b : UInt8) : Bool := 0x61 ≤ b && b ≤ 0x7a

/-- A byte that may continue a numeral. -/
def isNumeralByte (b : UInt8) : Bool :=
  (0x30 ≤ b && b ≤ 0x39) || b = 0x2b || b = 0x2d || b = 0x2e || b = 0x45 || b = 0x65

def charOf (b : UInt8) : Char := Char.ofNat b.toNat

/-- The word tokens. -/
def word? (seen : List Char) : Option Token :=
  match String.ofList seen.reverse with
  | "null" => some .null
  | "true" => some (.bool true)
  | "false" => some (.bool false)
  | _ => none

/-- What a two-character escape stands for. -/
def escaped? (b : UInt8) : Option UInt8 :=
  match charOf b with
  | '"' => some 0x22
  | '\\' => some 0x5c
  | '/' => some 0x2f
  | 'b' => some 0x08
  | 'f' => some 0x0c
  | 'n' => some 0x0a
  | 'r' => some 0x0d
  | 't' => some 0x09
  | _ => none

/-- The scanner after a byte that begins a token or stands between two. -/
def start (tokens : List Token) (b : UInt8) : Option (Scan × List Token) :=
  if isBlank b then some (.between, tokens)
  else if isLower b then some (.word [charOf b], tokens)
  else if isNumeralByte b then some (.numeral [charOf b], tokens)
  else
    match charOf b with
    | '"' => some (.string [], tokens)
    | '[' => some (.between, .openArray :: tokens)
    | ']' => some (.between, .closeArray :: tokens)
    | '\x7b' => some (.between, .openObject :: tokens)
    | '\x7d' => some (.between, .closeObject :: tokens)
    | ',' => some (.between, .comma :: tokens)
    | ':' => some (.between, .colon :: tokens)
    | _ => none

/-- The scanner after one more byte; the tokens found so far stand with the last one first. -/
def step (state : Scan × List Token) (b : UInt8) : Option (Scan × List Token) :=
  let (scan, tokens) := state
  match scan with
  | .between => start tokens b
  | .word seen =>
    if isLower b then some (.word (charOf b :: seen), tokens)
    else (word? seen).bind fun token => start (token :: tokens) b
  | .numeral seen =>
    if isNumeralByte b then some (.numeral (charOf b :: seen), tokens)
    else (Numeral.ofChars? seen.reverse).bind fun n => start (.numeral n :: tokens) b
  | .string content =>
    if b = 0x22 then some (.between, .string content.reverse :: tokens)
    else if b = 0x5c then some (.escape content, tokens)
    else if b < 0x20 then none
    else some (.string (.byte b :: content), tokens)
  | .escape content =>
    if b = 0x75 then some (.hex content 0 0, tokens)
    else (escaped? b).map fun e => (.string (.byte e :: content), tokens)
  | .hex content digits value =>
    (Hex.value? b).map fun d =>
      if digits = 3 then (.string (.unit (16 * value + d) :: content), tokens)
      else (.hex content (digits + 1) (16 * value + d), tokens)

/-- The tokens at the end of the text. -/
def finish : Scan × List Token → Option (List Token)
  | (.between, tokens) => some tokens.reverse
  | (.word seen, tokens) => (word? seen).map fun token => (token :: tokens).reverse
  | (.numeral seen, tokens) =>
    (Numeral.ofChars? seen.reverse).map fun n => (.numeral n :: tokens).reverse
  | _ => none

end Scan

/-- The tokens of a text. -/
def tokens? (text : Bytes) : Option (List Token) :=
  (text.foldlM Scan.step (.between, [])).bind Scan.finish

end Json
end ServiceBroker
