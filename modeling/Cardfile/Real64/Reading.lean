import Cardfile.Real64
import Cardfile.Text.Blank

/-! # Reading numbers

Integers are a sign and digits. Real numbers may have a point, with digits on at least one side,
and an exponent, or be one of the words for infinity and for what is not a number.
-/

namespace Cardfile

def digitOf (c : Char) : Nat := c.toNat - '0'.toNat

/-- The number that a row of digits denotes. -/
def digitsValue (ds : List Char) : Nat := ds.foldl (fun n c => 10 * n + digitOf c) 0

/-- A sign, if there is one, and what follows it. -/
def splitSign : List Char → Bool × List Char
  | '-' :: cs => (true, cs)
  | '+' :: cs => (false, cs)
  | cs => (false, cs)

def signed (negative : Bool) (n : Nat) : Int := if negative then -(n : Int) else n

def int64Min : Int := -0x8000000000000000

def int64Max : Int := 0x7FFFFFFFFFFFFFFF

def fitsInt64 (n : Int) : Bool := int64Min ≤ n && n ≤ int64Max

/-- A 64-bit integer in decimal, with an optional sign. -/
def int64OfText? (cs : List Char) : Option Int :=
  let (negative, ds) := splitSign cs
  if ds.isEmpty || !ds.all Char.isDigit then none
  else
    let n := signed negative (digitsValue ds)
    if fitsInt64 n then some n else none

namespace Real64

/-- The digits before and after a point and what follows them. -/
def splitFraction (cs : List Char) : List Char × List Char × List Char :=
  let whole := cs.takeWhile Char.isDigit
  match cs.dropWhile Char.isDigit with
  | '.' :: rest => (whole, rest.takeWhile Char.isDigit, rest.dropWhile Char.isDigit)
  | rest => (whole, [], rest)

/-- The exponent that a text consists of, zero if it is empty. -/
def exponentOfText? : List Char → Option Int
  | [] => some 0
  | e :: cs =>
    if e = 'e' || e = 'E' then
      let (negative, ds) := splitSign cs
      if ds.isEmpty || !ds.all Char.isDigit then none else some (signed negative (digitsValue ds))
    else none

def magnitudeOfText? (cs : List Char) : Option Nat :=
  match String.ofList (cs.map Char.toLower) with
  | "inf" | "infinity" => some infinity
  | "nan" => some (infinity + binade / 2)
  | _ =>
    let (whole, fraction, rest) := splitFraction cs
    if whole.isEmpty && fraction.isEmpty then none
    else
      (exponentOfText? rest).map fun e =>
        ofDecimal (digitsValue (whole ++ fraction)) (e - fraction.length)

def ofText? (cs : List Char) : Option Real64 :=
  let (negative, rest) := splitSign cs
  (magnitudeOfText? rest).map (⟨negative, ·⟩)

end Real64

end Cardfile
