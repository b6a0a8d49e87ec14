/-
# The shortest decimal that reads back

Among the decimals that round to a given double, the ones with the fewest
significant digits, and among those the nearest.  Everything is exact arithmetic on
natural numbers: with `v = m * 2 ^ q` the reals that round to `v` form an interval
whose ends are a quarter or a half of `2 ^ q` away, and on the grid of decimals with
`n` digits only the two neighbours of `v` can be the nearest point inside.
-/

import ServiceBroker.Decimal.Double

namespace ServiceBroker

/-- The decimal number `digits * 10 ^ exponent`. -/
structure Decimal where
  digits : Nat
  exponent : Int
deriving DecidableEq, Repr, Inhabited

namespace Decimal

/-- A non-negative fraction of naturals. -/
structure Ratio where
  numerator : Nat
  denominator : Nat

namespace Ratio

/-- `n * b ^ e`. -/
def scaled (n b : Nat) (e : Int) : Ratio :=
  match e with
  | .ofNat k => ⟨n * b.pow k, 1⟩
  | .negSucc k => ⟨n, b.pow (k + 1)⟩

def lt (x y : Ratio) : Bool := x.numerator * y.denominator < y.numerator * x.denominator

def le (x y : Ratio) : Bool := x.numerator * y.denominator ≤ y.numerator * x.denominator

/-- The distance between two fractions. -/
def distance (x y : Ratio) : Ratio :=
  let a := x.numerator * y.denominator
  let b := y.numerator * x.denominator
  ⟨(a - b) + (b - a), x.denominator * y.denominator⟩

/-- The exponent of the leading decimal digit of a positive fraction. -/
def leadingExponent (x : Ratio) : Int :=
  if x.denominator ≤ x.numerator then
    ((Nat.toDigits 10 (x.numerator / x.denominator)).length : Int) - 1
  else
    let ceiling := (x.denominator + x.numerator - 1) / x.numerator
    Int.negOfNat (Nat.toDigits 10 (ceiling - 1)).length

/-- The largest `d` with `d * 10 ^ k ≤ x`. -/
def floorAt (x : Ratio) (k : Int) : Nat :=
  match k with
  | .ofNat n => x.numerator / (x.denominator * Nat.pow 10 n)
  | .negSucc n => x.numerator * Nat.pow 10 (n + 1) / x.denominator

end Ratio

/-- The value of a decimal. -/
def ratio (d : Decimal) : Ratio := Ratio.scaled d.digits 10 d.exponent

/-- The value of a double without its sign. -/
def ofDouble (d : Double) : Ratio := Ratio.scaled d.significand 2 d.binaryExponent

/-- Whether a fraction rounds to the given double: it lies in the interval around it, whose ends
count when the significand is even. -/
def roundsTo (x : Ratio) (d : Double) : Bool :=
  let lower := Ratio.scaled (4 * d.significand - if d.hasNarrowLowerGap then 1 else 2) 2
    (d.binaryExponent - 2)
  let upper := Ratio.scaled (4 * d.significand + 2) 2 (d.binaryExponent - 2)
  if d.significand % 2 = 0 then lower.le x && x.le upper else lower.lt x && x.lt upper

/-- Of the two decimals with `n` digits around a double, the one that rounds to it; of two such the
nearer, and of two equally near ones the one with an even last digit. -/
def candidate? (d : Double) (n : Nat) : Option Decimal :=
  let v := ofDouble d
  let exponent := v.leadingExponent - n + 1
  let low : Decimal := ⟨v.floorAt exponent, exponent⟩
  let high : Decimal := ⟨low.digits + 1, exponent⟩
  match roundsTo low.ratio d, roundsTo high.ratio d with
  | true, true =>
    let below := v.distance low.ratio
    let above := v.distance high.ratio
    if below.lt above then some low
    else if above.lt below then some high
    else if low.digits % 2 = 0 then some low else some high
  | true, false => some low
  | false, true => some high
  | false, false => none

/-- Trailing zeros of the digits moved into the exponent. -/
def normalized (d : Decimal) : Decimal :=
  if h : d.digits ≠ 0 ∧ d.digits % 10 = 0 then normalized ⟨d.digits / 10, d.exponent + 1⟩ else d
termination_by d.digits
decreasing_by omega

/-- The shortest decimal that rounds to a finite double, its sign aside. -/
def shortest (d : Double) : Decimal :=
  if d.significand = 0 then ⟨0, 0⟩
  else
    match (List.range 17).findSome? fun n => candidate? d (n + 1) with
    | some decimal => decimal.normalized
    | none => ⟨0, 0⟩

/-- How a number is laid out: the decimal exponents of the leading digit for which it is written
positionally, and whether a positive exponent carries its sign. -/
structure Layout where
  positionalFrom : Int
  positionalTo : Int
  signedExponent : Bool

/-- The digits laid out without a sign.  A positional number always has a point, with a zero after
it where it has no fraction. -/
def layOut (layout : Layout) (d : Decimal) : List Char :=
  let digits := Nat.toDigits 10 d.digits
  let leading : Int := d.exponent + digits.length - 1
  if d.digits = 0 then ['0', '.', '0']
  else if leading < layout.positionalFrom ∨ layout.positionalTo < leading then
    let mantissa := match digits with
      | [] => []
      | [c] => [c]
      | c :: rest => c :: '.' :: rest
    let sign := if leading < 0 then ['-'] else if layout.signedExponent then ['+'] else []
    mantissa ++ 'e' :: sign ++ Nat.toDigits 10 leading.natAbs
  else if 0 ≤ d.exponent then
    digits ++ List.replicate d.exponent.toNat '0' ++ ['.', '0']
  else
    let places := (-d.exponent).toNat
    if places < digits.length then
      digits.take (digits.length - places) ++ '.' :: digits.drop (digits.length - places)
    else '0' :: '.' :: List.replicate (places - digits.length) '0' ++ digits

/-- A finite double laid out, with a minus sign for negative zero too. -/
def textOf (layout : Layout) (d : Double) : String :=
  let unsigned := layOut layout (shortest d)
  String.ofList (if d.isNegative then '-' :: unsigned else unsigned)

end Decimal
end ServiceBroker
