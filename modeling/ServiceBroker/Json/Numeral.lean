/-
# Numerals

A JSON number as it is written, and the value it stands for.  A numeral without
fraction and exponent that fits 64 bits, unsigned or signed, is an integer; `-0` and
every other numeral is a double.  The double is the significant digits that fit 64
bits, scaled by a power of ten in binary64 arithmetic; a numeral too large for that
has no value, one too small is zero.
-/

import ServiceBroker.Json.Value

namespace ServiceBroker
namespace Json

/-- A number as written: sign, digits before and after the point, exponent. -/
structure Numeral where
  negative : Bool
  whole : List Char
  fraction : List Char := []
  /-- Sign and digits of the exponent. -/
  exponent : Option (Bool × List Char) := none
deriving Repr, DecidableEq

namespace Numeral

/-- The number that decimal digits stand for. -/
def digitsValue (digits : List Char) : Nat :=
  digits.foldl (fun n c => 10 * n + (c.toNat - '0'.toNat)) 0

/-- The exponent part of a numeral, at the end of it. -/
def exponent? : List Char → Option (Option (Bool × List Char))
  | [] => some none
  | e :: rest =>
    if e ≠ 'e' ∧ e ≠ 'E' then none
    else
      let (negative, digits) := match rest with
        | '-' :: digits => (true, digits)
        | '+' :: digits => (false, digits)
        | digits => (false, digits)
      if digits ≠ [] ∧ digits.all Char.isDigit then some (some (negative, digits)) else none

/-- A numeral from its characters: an optional minus sign, digits without a leading zero, an
optional fraction and an optional exponent, each with at least one digit. -/
def ofChars? (chars : List Char) : Option Numeral :=
  let (negative, unsigned) := match chars with
    | '-' :: rest => (true, rest)
    | rest => (false, rest)
  let whole := unsigned.takeWhile Char.isDigit
  if whole = [] ∨ (whole.head? = some '0' ∧ whole.length ≠ 1) then none
  else
    match unsigned.dropWhile Char.isDigit with
    | '.' :: rest =>
      let fraction := rest.takeWhile Char.isDigit
      if fraction = [] then none
      else (exponent? (rest.dropWhile Char.isDigit)).map fun e => ⟨negative, whole, fraction, e⟩
    | rest => (exponent? rest).map fun e => ⟨negative, whole, [], e⟩

/-- The largest unsigned 64-bit number. -/
def maxWord : Nat := UInt64.size - 1

/-- Digits taken into a significand as long as it fits 64 bits; the second number counts the digits
left out. -/
def absorb (significand : Nat) : List Char → Nat × Nat
  | [] => (significand, 0)
  | c :: rest =>
    let next := 10 * significand + (c.toNat - '0'.toNat)
    if next ≤ maxWord then absorb next rest else (significand, rest.length + 1)

/-- `10 ^ k` as the nearest double, for `k` up to 308. -/
def powerOfTen (k : Nat) : Float := Float.ofScientific 1 false k

/-- A significand scaled by a power of ten in binary64 arithmetic, `none` where it leaves the
range.  Scaling down goes by at most `1e308` at a time; three times make any significand zero. -/
def scale? (f : Float) (exponent : Int) : Nat → Option Float
  | 0 => some f
  | fuel + 1 =>
    if exponent.natAbs ≤ 308 then
      if 0 ≤ exponent then
        let scaled := f * powerOfTen exponent.natAbs
        if scaled.isInf then none else some scaled
      else some (f / powerOfTen exponent.natAbs)
    else if f == 0 then some f
    else if 0 ≤ exponent then none
    else scale? (f / powerOfTen 308) (exponent + 308) fuel

/-- The largest exponent that is read as a number. -/
def maxExponent : Nat := Int32.maxValue.toInt.toNat

/-- The double that a numeral stands for. -/
def double? (n : Numeral) : Option Double :=
  let (whole, omitted) := absorb 0 n.whole
  let (significand, dropped) := absorb whole n.fraction
  let shift : Int := (omitted : Int) - (n.fraction.length - dropped : Nat)
  let magnitude : Option Float :=
    match n.exponent with
    | none => scale? (UInt64.ofNat significand).toFloat shift 5
    | some (negative, digits) =>
      let e := digitsValue digits
      if maxExponent < e then
        if significand ≠ 0 ∧ ¬negative then none else some 0
      else scale? (UInt64.ofNat significand).toFloat (shift + if negative then -(e : Int) else e) 5
  magnitude.map fun f => Double.ofFloat (if n.negative then -f else f)

/-- The integer that a numeral stands for, if it stands for one. -/
def integer? (n : Numeral) : Option Int :=
  let magnitude := digitsValue n.whole
  if n.fraction ≠ [] ∨ n.exponent ≠ none then none
  else if n.negative then
    if magnitude ≠ 0 ∧ magnitude ≤ Int64.minValue.toInt.natAbs then some (-(magnitude : Int))
    else none
  else if magnitude ≤ maxWord then some magnitude
  else none

/-- The value of a numeral. -/
def value? (n : Numeral) : Option Json :=
  match n.integer? with
  | some k => some (.integer k)
  | none => n.double?.map .double

end Numeral
end Json
end ServiceBroker
