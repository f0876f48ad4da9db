import Cardfile.Dict
import Cardfile.Json
import Cardfile.Real64.Shortest

/-! # Writing trees

The text of a tree without blanks. The members of an object stand in the order of their names; of
those with one name the last is written. A text or number that cannot be read is written as empty
or as nothing.
-/

namespace Cardfile

/-- Quotes, backslashes and control characters are escaped. -/
def Json.quoted (s : String) : String :=
  let escape (c : Char) : List Char :=
    if c = '"' || c = '\\' then ['\\', c]
    else if c.toNat < 32 then
      let hex := Nat.toDigits 16 c.toNat
      ['\\', 'u'] ++ List.replicate (4 - hex.length) '0' ++ hex
    else [c]
  "\"" ++ String.ofList (s.toList.flatMap escape) ++ "\""

/-- The shortest decimal, with an exponent from the seventeenth place on. -/
def Real64.toNumeral (x : Real64) : String :=
  let d := shortest x.magnitude
  let sign := if x.negative then "-" else ""
  let digits := Nat.toDigits 10 d.digits
  let point := d.exponent + digits.length
  if x.magnitude = 0 then sign ++ "0.0"
  else if -5 < point && point ≤ 16 then
    let text := String.ofList d.positional
    sign ++ (if d.exponent < 0 then text else text ++ ".0")
  else
    sign ++ String.ofList (digits.take 1) ++
      (if digits.length = 1 then "" else "." ++ String.ofList (digits.drop 1)) ++
      "e" ++ toString (point - 1)

def Numeral.toText (n : Numeral) : String :=
  match n.number? with
  | some (.integer v) => toString v
  | some (.real x) => x.toNumeral
  | none => "null"

namespace Json

mutual

def toText : Json → String
  | null => "null"
  | bool b => if b then "true" else "false"
  | number n => n.toText
  | text s => quoted (s.getD "")
  | array items => "[" ++ String.intercalate "," (itemTexts items) ++ "]"
  | object members =>
    let written := (Dict.ofList (memberTexts members)).entries.mergeSort fun a b => a.1 ≤ b.1
    let texts := written.map fun m => quoted m.1 ++ ":" ++ m.2
    "\x7b" ++ String.intercalate "," texts ++ "\x7d"

def itemTexts : List Json → List String
  | [] => []
  | j :: rest => toText j :: itemTexts rest

def memberTexts : List (Option String × Json) → List (String × String)
  | [] => []
  | (name, j) :: rest => (name.getD "", toText j) :: memberTexts rest

end

end Json

end Cardfile
