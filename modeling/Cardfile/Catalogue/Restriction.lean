import Cardfile.Error
import Cardfile.Pattern.Meaning
import Cardfile.Real64

/-! # Restrictions

Which values of a basic type belong to a restricted one.
-/

namespace Cardfile

/-- A pattern that whole texts match, and the greatest number of characters, if there is one. -/
structure StringPattern where
  source : String
  maxLength : Option Nat
  whole : Pattern

namespace StringPattern

/-- The pattern as one group between the start and the end of the text. -/
def wrap (source : String) : String := "^(?:" ++ source ++ ")$"

def ofText (source : String) (maxLength : Option Nat) : Except Error StringPattern :=
  match Pattern.ofText? (wrap source) with
  | some whole => .ok ⟨source, maxLength, whole⟩
  | none => .error .badPattern

def contains (p : StringPattern) (value : String) : Bool :=
  let cs := value.toList
  (match p.maxLength with
    | none => true
    | some n => cs.length ≤ n) && p.whole.isMatch cs

end StringPattern

/-- Numbers with a number of digits in all and one of digits behind the point. -/
structure DecimalSpec where
  precision : Nat
  scale : Nat
  deriving DecidableEq

namespace DecimalSpec

def dropTrailingZeros (ds : List Char) : List Char := (ds.reverse.dropWhile (· = '0')).reverse

/-- Zeros in front of the number and at the end of its fraction do not count as digits. -/
def contains (d : DecimalSpec) (literal : String) : Bool :=
  let unsigned := (Text.trimChars literal.toList).dropWhile fun c => c = '-' || c = '+'
  let (whole, fraction) := (Text.splitOnce? ['.'] unsigned).getD (unsigned, [])
  if whole.isEmpty && fraction.isEmpty then false
  else if !(whole ++ fraction).all Char.isDigit then false
  else
    (dropTrailingZeros fraction).length ≤ d.scale &&
      (whole.dropWhile (· = '0')).length ≤ d.precision - d.scale

end DecimalSpec

def integerBetween (low high n : Int) : Bool := low ≤ n && n ≤ high

def Real64.between (low high x : Real64) : Bool := low.le x && x.le high

def Date.between (low high d : Date) : Bool := low.le d && d.le high

def TimeOfDay.between (low high t : TimeOfDay) : Bool := low.le t && t.le high

end Cardfile
