import Cardfile.Real64

/-! # The shortest decimal of a number

Of all decimals that are nearer to a number than to any other, or as near as its rounding allows,
one with the fewest digits is written, the nearest of these, the larger of two.
It is written without an exponent and, if it is an integer, without a point.
-/

namespace Cardfile.Real64

/-- A decimal `digits * 10 ^ exponent`. -/
structure Decimal where
  digits : Nat
  exponent : Int

/-- The reals that round to one magnitude, all over `4 * 2 ^ 1074`: the number itself, its lower
and its upper end, and whether the ends belong to it. -/
structure Rounding where
  value : Nat
  lower : Nat
  upper : Nat
  closed : Bool

/-- Below a power of two the next number is half as far away as above it. -/
def rounding (magnitude : Nat) : Rounding :=
  let m := significand magnitude
  let e := exponent magnitude
  let gap := if m = binade && 0 < e then 1 else 2
  { value := 4 * m * Nat.pow 2 e
    lower := (4 * m - gap) * Nat.pow 2 e
    upper := (4 * m + 2) * Nat.pow 2 e
    closed := m % 2 = 0 }

/-- Whether `n / d` rounds to the magnitude. -/
def Rounding.holds (r : Rounding) (n d : Nat) : Bool :=
  if r.closed then r.lower * d ≤ n && n ≤ r.upper * d else r.lower * d < n && n < r.upper * d

/-- A power of ten as a quotient. -/
def tenPower (e : Int) : Nat × Nat :=
  if e < 0 then (1, Nat.pow 10 e.natAbs) else (Nat.pow 10 e.natAbs, 1)

/-- The best decimal on the grid of multiples of `10 ^ e`, if one of the two neighbours of the
number on it rounds to the number. -/
def onGrid? (r : Rounding) (e : Int) : Option Decimal :=
  let (up, down) := tenPower e
  -- one step of the grid over the common denominator
  let step := up * (4 * Nat.pow 2 1074)
  let below := r.value * down / step
  let low := r.holds (below * step) down
  let high := r.holds ((below + 1) * step) down
  let near := 2 * (r.value * down % step) < step
  if low && (!high || near) then some ⟨below, e⟩
  else if high then some ⟨below + 1, e⟩
  else none

/-- The number of digits before the point of `n / d`, negative for leading zeros behind it. -/
def leadingPlace (n d : Nat) : Int :=
  let k : Int := (Nat.toDigits 10 n).length - (Nat.toDigits 10 d).length
  let (up, down) := tenPower k
  if n * down < up * d then k else k + 1

/-- Tries one digit more at a time; seventeen always suffice. -/
def shortestFrom (r : Rounding) (place : Int) (count : Nat) : Nat → Decimal
  | 0 => ⟨0, 0⟩
  | tries + 1 =>
    match onGrid? r (place - count) with
    | some d => d
    | none => shortestFrom r place (count + 1) tries

/-- Rounding up to a power of ten leaves a last digit of zero, which is dropped. -/
def Decimal.reduced (d : Decimal) : Decimal :=
  if d.digits % 10 = 0 then ⟨d.digits / 10, d.exponent + 1⟩ else d

/-- The shortest decimal of a finite magnitude. -/
def shortest (magnitude : Nat) : Decimal :=
  if magnitude = 0 then ⟨0, 0⟩
  else
    let r := rounding magnitude
    (shortestFrom r (leadingPlace r.value (4 * Nat.pow 2 1074)) 1 17).reduced

/-- Digits without an exponent. -/
def Decimal.positional (d : Decimal) : List Char :=
  let digits := Nat.toDigits 10 d.digits
  if 0 ≤ d.exponent then
    if d.digits = 0 then ['0'] else digits ++ List.replicate d.exponent.natAbs '0'
  else
    let places := d.exponent.natAbs
    let padded := List.replicate (places + 1 - digits.length) '0' ++ digits
    padded.take (padded.length - places) ++ '.' :: padded.drop (padded.length - places)

def toText (x : Real64) : String :=
  if x.isNaN then "NaN"
  else
    let sign := if x.negative then "-" else ""
    if x.isInfinite then sign ++ "inf" else sign ++ String.ofList (shortest x.magnitude).positional

end Cardfile.Real64
