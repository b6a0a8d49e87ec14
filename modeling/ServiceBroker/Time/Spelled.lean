/-
# Durations as people write them

One or more numbers with a unit, such as `1h 30m`, added up.  A number has decimal
digits and may have a fraction after a point, which has to come out as whole
nanoseconds, or as whole seconds from an hour on; white space may stand before a
number, within it, before its unit and after it.  Units are told apart by case: `m`
is a minute and `M` a month.

The reader is an automaton over characters.
-/

import ServiceBroker.Text.Blank
import ServiceBroker.Time.Duration

namespace ServiceBroker
namespace Duration

/-- A unit of time. -/
inductive TimeUnit where
  | nanosecond
  | microsecond
  | millisecond
  | second
  | minute
  | hour
  | day
  | week
  | month
  | year
deriving DecidableEq, Repr

namespace TimeUnit

/-- The length of a unit; a month is a twelfth of a year of 365.25 days, cut to 30.44 days. -/
def length : TimeUnit → Duration
  | nanosecond => 1
  | microsecond => 1000
  | millisecond => 1000000
  | second => seconds 1
  | minute => seconds 60
  | hour => seconds 3600
  | day => seconds 86400
  | week => seconds 604800
  | month => seconds 2630016
  | year => seconds 31557600

/-- What a fraction of a unit is counted in: seconds from an hour on, nanoseconds below.  Nothing is
shorter than a nanosecond. -/
def grain? : TimeUnit → Option Duration
  | nanosecond => none
  | microsecond | millisecond | second | minute => some 1
  | hour | day | week | month | year => some (seconds 1)

/-- The spellings of the units. -/
def spellings : List (TimeUnit × List String) :=
  [(nanosecond, ["ns", "nsec", "nanos"]), (microsecond, ["us", "usec", "µs"]),
    (millisecond, ["ms", "msec", "millis"]),
    (second, ["s", "sec", "secs", "second", "seconds"]),
    (minute, ["m", "min", "mins", "minute", "minutes"]),
    (hour, ["h", "hr", "hrs", "hour", "hours"]), (day, ["d", "day", "days"]),
    (week, ["w", "wk", "wks", "week", "weeks"]), (month, ["M", "month", "months"]),
    (year, ["y", "yr", "yrs", "year", "years"])]

/-- The unit with this spelling. -/
def ofSpelling? (s : String) : Option TimeUnit :=
  (spellings.find? fun (_, names) => names.contains s).map (·.1)

end TimeUnit

/-- The largest number of a spelled duration, and of the steps in adding it up. -/
def maxWord : Nat := UInt64.size - 1

/-- A value of 64 bits, or nothing. -/
def word? (n : Nat) : Option Nat := if n ≤ maxWord then some n else none

/-- The fraction of a number: `numerator` over ten to the number of its digits. -/
structure Fraction where
  numerator : Nat
  places : Nat
deriving DecidableEq, Repr

/-- Seconds and nanoseconds added to a total, each part within 64 bits. -/
def plus? (total : Duration) (secs nanos : Nat) : Option Duration := do
  let part ← word? (subsecond total + nanos)
  let whole ← word? (wholeSeconds total + secs + part / nanosecondsPerSecond)
  return seconds whole + part % nanosecondsPerSecond

/-- A number of pieces of one length, each a part of a second or whole seconds, added to a total. -/
def plusPieces? (total : Duration) (number : Nat) (length : Duration) : Option Duration :=
  if length < nanosecondsPerSecond then do
    plus? total 0 (← word? (number * length))
  else do
    plus? total (← word? (number * wholeSeconds length)) 0

/-- A fraction of a unit added to a total; it has to be a whole number of grains. -/
def plusFraction? (total : Duration) (fraction : Fraction) (timeUnit : TimeUnit) :
    Option Duration := do
  let grain ← timeUnit.grain?
  let scaled ← word? (fraction.numerator * (timeUnit.length / grain))
  let denominator := Nat.pow 10 fraction.places
  if scaled % denominator = 0 then plusPieces? total (scaled / denominator) grain else none

/-- A number of a unit added to a total. -/
def plusUnit? (total : Duration) (number : Nat) (fraction : Option Fraction) (spelling : String) :
    Option Duration := do
  let timeUnit ← TimeUnit.ofSpelling? spelling
  let whole ← plusPieces? total number timeUnit.length
  match fraction with
  | none => return whole
  | some fraction => plusFraction? whole fraction timeUnit

/-- Where the reader of a spelled duration stands. -/
inductive Spelling where
  /-- Before a number; at the very start one has to come. -/
  | beforeNumber (first : Bool) (total : Duration)
  | inNumber (total : Duration) (number : Nat)
  | inFraction (total : Duration) (number : Nat) (fraction : Fraction)
  /-- In a unit, whose characters so far stand with the last one first. -/
  | inUnit (total : Duration) (number : Nat) (fraction : Option Fraction) (seen : List Char)

namespace Spelling

/-- A character of a unit. -/
def isUnitChar (c : Char) : Bool := c.isAlpha || c = 'µ'

def digitOf (c : Char) : Nat := c.toNat - '0'.toNat

/-- The reader after one more character. -/
def step : Spelling → Char → Option Spelling
  | .beforeNumber first total, c =>
    if c.isDigit then some (.inNumber total (digitOf c))
    else if Text.isBlank c then some (.beforeNumber first total)
    else none
  | .inNumber total number, c =>
    if c.isDigit then (word? (10 * number + digitOf c)).map (.inNumber total)
    else if Text.isBlank c then some (.inNumber total number)
    else if isUnitChar c then some (.inUnit total number none [c])
    else if c = '.' then some (.inFraction total number ⟨0, 0⟩)
    else none
  | .inFraction total number fraction, c =>
    if c.isDigit then do
      let numerator ← word? (10 * fraction.numerator + digitOf c)
      let _ ← word? (Nat.pow 10 (fraction.places + 1))
      return .inFraction total number ⟨numerator, fraction.places + 1⟩
    else if Text.isBlank c then some (.inFraction total number fraction)
    else if isUnitChar c ∧ fraction.places ≠ 0 then some (.inUnit total number (some fraction) [c])
    else none
  | .inUnit total number fraction seen, c =>
    if c.isDigit then
      (plusUnit? total number fraction (String.ofList seen.reverse)).map fun sum =>
        .inNumber sum (digitOf c)
    else if Text.isBlank c then
      (plusUnit? total number fraction (String.ofList seen.reverse)).map fun sum =>
        .beforeNumber false sum
    else if isUnitChar c then some (.inUnit total number fraction (c :: seen))
    else none

/-- The duration at the end of the text. -/
def finish : Spelling → Option Duration
  | .beforeNumber false total => some total
  | .inUnit total number fraction seen =>
    plusUnit? total number fraction (String.ofList seen.reverse)
  | _ => none

end Spelling

/-- The duration that a text spells; `0` needs no unit. -/
def ofSpelled? (s : String) : Option Duration :=
  if s = "0" then some 0
  else (s.toList.foldlM Spelling.step (.beforeNumber true 0)).bind Spelling.finish

example : ofSpelled? "1h 30m" = some (seconds 5400) ∧ ofSpelled? "1.5s" = some (milliseconds 1500) := by
  decide +kernel

example : ofSpelled? "0.015m" = some (milliseconds 900) ∧ ofSpelled? "0.00025h" = none := by
  decide +kernel

example : ofSpelled? "5" = none ∧ ofSpelled? "1s s" = none ∧ ofSpelled? " " = none := by
  decide +kernel

end Duration
end ServiceBroker
