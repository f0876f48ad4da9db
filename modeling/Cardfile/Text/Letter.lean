import Cardfile.Unicode.Case
import Cardfile.Unicode.Category
import Cardfile.Unicode.Property

/-! # Letters and their case

What counts as a letter or number, and the lowercase form of a text, in which the capital sigma
depends on where in a word it stands.
-/

namespace Cardfile.Text

def isAlphabetic (c : Char) : Bool :=
  if c.toNat < 128 then c.isAlpha else Property.alphabetic.contains c

def isAlphanumeric (c : Char) : Bool :=
  if c.toNat < 128 then c.isAlphanum
  else Property.alphabetic.contains c || (Category.ofChar c).group = 'N'

def isUppercase (c : Char) : Bool :=
  if c.toNat < 128 then c.isUpper else Property.uppercase.contains c

def isLowercase (c : Char) : Bool :=
  if c.toNat < 128 then c.isLower else Property.lowercase.contains c

/-- Whether the first character that is not case-ignorable has a case. -/
def casedAhead (cs : List Char) : Bool :=
  match cs.find? (!Property.caseIgnorable.contains ·) with
  | some c => Property.cased.contains c
  | none => false

/-- The capital sigma is final after a cased letter and before none. -/
def lowercaseSigma (before after : List Char) : Char :=
  if casedAhead before && !casedAhead after then 'ς' else 'σ'

/-- Lowercases `cs`; `before` is what came before it, last character first. -/
def lowercaseFrom (before : List Char) : List Char → List Char
  | [] => []
  | c :: cs =>
    (if c = 'Σ' then [lowercaseSigma before cs] else Case.lowercase c) ++
      lowercaseFrom (c :: before) cs

def lowercase (s : String) : String := String.ofList (lowercaseFrom [] s.toList)

end Cardfile.Text
