/-
# Durations

Lengths of time in nanoseconds, and the text that a message shows for one: below a
second the largest unit that leaves a whole part, from a second on seconds, with a
decimal fraction only where there is one.
-/

namespace ServiceBroker

/-- A length of time in nanoseconds. -/
abbrev Duration := Nat

/-- A point of time, in nanoseconds since the start of a run. -/
abbrev Instant := Nat

namespace Duration

def nanosecondsPerSecond : Nat := 1000000000

/-- A number of seconds as a duration. -/
def seconds (n : Nat) : Duration := n * nanosecondsPerSecond

/-- A number of milliseconds as a duration. -/
def milliseconds (n : Nat) : Duration := n * 1000000

/-- The whole milliseconds of a duration. -/
def toMilliseconds (d : Duration) : Nat := d / 1000000

/-- The whole seconds of a duration. -/
def wholeSeconds (d : Duration) : Nat := d / nanosecondsPerSecond

/-- What a duration has beyond its whole seconds. -/
def subsecond (d : Duration) : Nat := d % nanosecondsPerSecond

/-- The decimal digits of `n`, at least `width` of them. -/
def paddedDigits (width n : Nat) : List Char :=
  let digits := Nat.toDigits 10 n
  List.replicate (width - digits.length) '0' ++ digits

/-- A fraction of `10 ^ width` parts without its trailing zeros, after a point; nothing for zero. -/
def fraction (width part : Nat) : List Char :=
  match ((paddedDigits width part).reverse.dropWhile (· = '0')).reverse with
  | [] => []
  | digits => '.' :: digits

/-- A duration as a message shows it: `0ns`, `30ms`, `1.5s`, `1200s`. -/
def text (d : Duration) : String :=
  let shown (width : Nat) (unit : String) : String :=
    let scale := Nat.pow 10 width
    String.ofList (Nat.toDigits 10 (d / scale) ++ fraction width (d % scale)) ++ unit
  if d ≥ 1000000000 then shown 9 "s"
  else if d ≥ 1000000 then shown 6 "ms"
  else if d ≥ 1000 then shown 3 "µs"
  else shown 0 "ns"

example : text 0 = "0ns" ∧ text (milliseconds 30) = "30ms" ∧ text (seconds 1200) = "1200s" := by
  decide +kernel

example : text (milliseconds 1001) = "1.001s" ∧ text (milliseconds 1234567) = "1234.567s" := by
  decide +kernel

end Duration
end ServiceBroker
