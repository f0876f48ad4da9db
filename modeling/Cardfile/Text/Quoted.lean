import Cardfile.Unicode.Category
import Cardfile.Unicode.Property

/-! # Quoted text

A text between double quotes. Quotes, backslashes and the usual control characters are written
with a backslash; what cannot be printed, or would join the character before it, by its code.
-/

namespace Cardfile.Text

/-- Letters, marks, numbers, punctuation and symbols can be printed, of the blanks only the space. -/
def isPrintable (c : Char) : Bool :=
  let group := (Category.ofChar c).group
  c = ' ' || (group ≠ 'C' && group ≠ 'Z')

def codeEscape (c : Char) : List Char :=
  ['\\', 'u', '\x7b'] ++ Nat.toDigits 16 c.toNat ++ ['\x7d']

def quoteChar (c : Char) : List Char :=
  if c = '"' then ['\\', '"']
  else if c = '\\' then ['\\', '\\']
  else if c = '\n' then ['\\', 'n']
  else if c = '\r' then ['\\', 'r']
  else if c = '\t' then ['\\', 't']
  else if c.toNat = 0 then ['\\', '0']
  else if Property.graphemeExtend.contains c then codeEscape c
  else if isPrintable c then [c]
  else codeEscape c

def quote (s : String) : String :=
  String.ofList ('"' :: s.toList.flatMap quoteChar ++ ['"'])

end Cardfile.Text
