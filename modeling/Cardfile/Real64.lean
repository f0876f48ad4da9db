/-! # Double precision numbers

A number is a sign and a magnitude, the 63 bits below the sign read as a natural number: larger
magnitudes are larger numbers, infinity is the largest of them, and what lies above is not a
number. Every operation works on exact quotients and rounds once, to nearest, ties to even.
-/

namespace Cardfile

structure Real64 where
  negative : Bool
  magnitude : Nat
  deriving DecidableEq

namespace Real64

/-- How many magnitudes have one exponent: `2 ^ 52`. -/
def binade : Nat := 0x10000000000000

def infinity : Nat := 0x7FF * binade

def zero : Real64 := ⟨false, 0⟩

instance : Inhabited Real64 := ⟨zero⟩

def isNaN (x : Real64) : Bool := infinity < x.magnitude

def isInfinite (x : Real64) : Bool := x.magnitude = infinity

/-- The place of a number in the total order, in which the negative zero comes before zero and
numbers that are none come at both ends. -/
def rank (x : Real64) : Int :=
  if x.negative then -(x.magnitude : Int) - 1 else x.magnitude

/-- The place on the real line, where both zeros are one. -/
def place (x : Real64) : Int := if x.negative then -(x.magnitude : Int) else x.magnitude

/-- The arithmetic order, to which what is not a number does not belong. -/
def le (x y : Real64) : Bool := !x.isNaN && !y.isNaN && x.place ≤ y.place

/-- A finite magnitude is `significand * 2 ^ (exponent - 1074)`. -/
def significand (magnitude : Nat) : Nat :=
  if magnitude / binade = 0 then magnitude else binade + magnitude % binade

def exponent (magnitude : Nat) : Nat := magnitude / binade - 1

/-- The nearest integer to `n / d`, the even one of two. -/
def roundQuotient (n d : Nat) : Nat :=
  let q := n / d
  let r := n % d
  if 2 * r < d || (2 * r = d && q % 2 = 0) then q else q + 1

/-- The exponent at which the significand of `n / d` has its full length, if it is at least zero. -/
def exponentOf (n d : Nat) : Nat :=
  -- the quotient scaled so that exponent zero stands for units
  let scaled := n * Nat.pow 2 1074 / d
  scaled.log2 - 52

/-- The magnitude nearest to `n / d`. -/
def ofQuotient (n d : Nat) : Nat :=
  if n = 0 || d = 0 then 0
  else
    let e := exponentOf n d
    min infinity (e * binade + roundQuotient (n * Nat.pow 2 1074) (d * Nat.pow 2 e))

/-- Numerator of a finite magnitude over `2 ^ 1074`. -/
def numerator (magnitude : Nat) : Nat := significand magnitude * Nat.pow 2 (exponent magnitude)

def ofNat (n : Nat) : Real64 := ⟨false, ofQuotient n 1⟩

def ofInt (n : Int) : Real64 := ⟨n < 0, ofQuotient n.natAbs 1⟩

/-- The nearest number to a digit string with a power of ten. Exponents so far from the digits
that the number is zero or infinite are not worked out. -/
def ofDecimal (digits : Nat) (exponent : Int) : Nat :=
  if digits = 0 then 0
  else
    let size := (Nat.toDigits 10 digits).length
    if exponent + size < -330 then 0
    else if 310 < exponent + size then infinity
    else if exponent < 0 then ofQuotient digits (Nat.pow 10 exponent.natAbs)
    else ofQuotient (digits * Nat.pow 10 exponent.natAbs) 1

/-- The product of two finite magnitudes, rounded. -/
def mul (x y : Nat) : Nat := ofQuotient (numerator x * numerator y) (Nat.pow 2 2148)

/-- The quotient of two finite magnitudes, rounded. -/
def div (x y : Nat) : Nat := ofQuotient (numerator x) (numerator y)

end Real64

end Cardfile
