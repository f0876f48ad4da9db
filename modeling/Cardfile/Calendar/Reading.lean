import Cardfile.Calendar.Date
import Cardfile.Text.Blank

/-! # Reading dates and times

A form is a row of numbers with fixed characters between them. Blanks before a number are passed
over, and a number may have fewer digits than its form, a year with a sign any number of digits.
-/

namespace Cardfile.Calendar

/-- Why a text is not a date or a time. -/
inductive Fault
  | invalid | outOfRange | tooShort | trailing
  deriving DecidableEq

def Fault.message : Fault → String
  | invalid => "input contains invalid characters"
  | outOfRange => "input is out of range"
  | tooShort => "premature end of input"
  | trailing => "trailing input"

/-- Readers take characters from the front of a text. -/
abbrev Reader := StateT (List Char) (Except Fault)

/-- At most `width` digits, at least one. -/
def digits (width : Nat) : Reader Nat := fun cs =>
  let found := (cs.take width).takeWhile Char.isDigit
  let value := found.foldl (fun n c => 10 * n + (c.toNat - '0'.toNat)) 0
  if cs.isEmpty then .error .tooShort
  else if found.isEmpty then .error .invalid
  else if 0x8000000000000000 ≤ value then .error .outOfRange
  else .ok (value, cs.drop found.length)

def blanks : Reader Unit := fun cs => .ok ((), Text.trimLeft cs)

def literal (c : Char) : Reader Unit := fun cs =>
  match cs with
  | [] => .error .tooShort
  | d :: rest => if d = c then .ok ((), rest) else .error .invalid

/-- A number of at most two digits within bounds. -/
def field (low high : Nat) : Reader Nat := do
  blanks
  let n ← digits 2
  if low ≤ n && n ≤ high then pure n else throw .outOfRange

/-- Without a sign a year has at most four digits. -/
def year : Reader Int := do
  blanks
  let cs ← get
  let n : Int ← match cs with
    | '-' :: rest => do set rest; let n ← digits rest.length; pure (-(n : Int))
    | '+' :: rest => do set rest; let n ← digits rest.length; pure (n : Int)
    | _ => do let n ← digits 4; pure (n : Int)
  if -0x80000000 ≤ n && n < 0x80000000 then pure n else throw .outOfRange

/-- Runs a reader that has to use up the whole text. -/
def whole {α : Type} (r : Reader α) (cs : List Char) : Except Fault α := do
  let (a, rest) ← r.run cs
  if rest.isEmpty then pure a else throw .trailing

def dateParts : Reader (Int × Nat × Nat) := do
  let y ← year
  literal '-'
  let m ← field 1 12
  literal '-'
  let d ← field 1 31
  pure (y, m, d)

def hourMinute : Reader TimeOfDay := do
  let h ← field 0 23
  literal ':'
  let m ← field 0 59
  pure ⟨h, m, 0⟩

def hourMinuteSecond : Reader TimeOfDay := do
  let t ← hourMinute
  literal ':'
  let s ← field 0 60
  pure { t with second := s }

end Cardfile.Calendar

namespace Cardfile

open Calendar

def Date.ofText (cs : List Char) : Except Fault Date := do
  let (y, m, d) ← whole dateParts cs
  match Date.ofParts? y m d with
  | some date => pure date
  | none => throw .outOfRange

def TimeOfDay.ofText (cs : List Char) : Except Fault TimeOfDay := whole hourMinuteSecond cs

/-- The seconds may be left out. -/
def TimeOfDay.ofShortText (cs : List Char) : Except Fault TimeOfDay :=
  match whole hourMinuteSecond cs with
  | .ok t => .ok t
  | .error _ => whole hourMinute cs

end Cardfile
