import Cardfile.Calendar.Reading

/-! # Instants

A date and a time of day at the meridian, to the nanosecond. A text gives them with an offset, as
in `2020-01-02T03:04:05.5+01:00`, with blanks allowed around the parts.
-/

namespace Cardfile

structure Instant where
  date : Date
  time : TimeOfDay
  nanos : Nat
  deriving DecidableEq

namespace Calendar

/-- A fraction of a second in nanoseconds; digits after the ninth are dropped. -/
def fraction : Reader Nat := fun cs =>
  match cs with
  | '.' :: rest =>
    let found := rest.takeWhile Char.isDigit
    let kept := found.take 9
    if rest.isEmpty then .error .tooShort
    else if found.isEmpty then .error .invalid
    else
      let value := kept.foldl (fun n c => 10 * n + (c.toNat - '0'.toNat)) 0
      .ok (value * Nat.pow 10 (9 - kept.length), rest.drop found.length)
  | _ => .ok (0, cs)

/-- Blanks may stand before the marks between the numbers. -/
def looseDate : Reader (Int × Nat × Nat) := do
  let y ← year
  blanks
  literal '-'
  let m ← field 1 12
  blanks
  literal '-'
  let d ← field 1 31
  pure (y, m, d)

def looseTime : Reader (TimeOfDay × Nat) := do
  let h ← field 0 23
  blanks
  literal ':'
  let m ← field 0 59
  blanks
  literal ':'
  let s ← field 0 60
  let n ← fraction
  blanks
  pure (⟨h, m, s⟩, n)

def separator : Reader Unit := fun cs =>
  match cs with
  | [] => .error .tooShort
  | c :: rest => if c = 't' || c = 'T' || c = ' ' then .ok ((), rest) else .error .invalid

/-- Exactly two digits. -/
def pair : Reader (Nat × Nat) := fun cs =>
  match cs with
  | a :: b :: rest =>
    if a.isDigit && b.isDigit then .ok ((a.toNat - '0'.toNat, b.toNat - '0'.toNat), rest)
    else .error .invalid
  | _ => .error .tooShort

/-- Minutes east of the meridian. -/
def offset : Reader Int := do
  let cs ← get
  let east : Option Bool := match cs with
    | '+' :: _ => some true
    | '-' :: _ => some false
    | '−' :: _ => some false
    | _ => none
  match cs with
  | [] => throw .tooShort
  | c :: rest =>
    if c = 'Z' || c = 'z' then
      set rest
      pure 0
    else if (cs.take 3).map Char.toLower = ['u', 't', 'c'] then
      set (cs.drop 3)
      pure 0
    else
      match east with
      | none => throw .invalid
      | some east =>
        set rest
        let (h, h') ← pair
        modify fun cs => cs.dropWhile fun c => c = ':' || Text.isBlank c
        let (m, m') ← pair
        if 6 ≤ m then throw .outOfRange
        let minutes : Int := 60 * (10 * h + h') + (10 * m + m')
        pure (if east then minutes else -minutes)

end Calendar

namespace Instant

open Calendar

/-- Moves a date and a time of day by less than a day of minutes. -/
def shifted? (d : Date) (t : TimeOfDay) (nanos : Nat) (minutes : Int) : Option Instant :=
  let m := 60 * (t.hour : Int) + t.minute + minutes
  let day := if m < 0 then d.previous? else if 1440 ≤ m then d.next? else some d
  let m' := (m % 1440).toNat
  day.map fun d => ⟨d, ⟨m' / 60, m' % 60, t.second⟩, nanos⟩

def ofText (cs : List Char) : Except Fault Instant := do
  let read : Reader ((Int × Nat × Nat) × (TimeOfDay × Nat) × Int) := do
    let d ← looseDate
    separator
    let t ← looseTime
    let o ← offset
    blanks
    pure (d, t, o)
  let ((y, m, d), (t, n), o) ← whole read cs
  if o ≤ -1440 || 1440 ≤ o then throw .outOfRange
  match (Date.ofParts? y m d).bind (shifted? · t n (-o)) with
  | some i => pure i
  | none => throw .outOfRange

/-- The fraction in the fewest groups of three digits that write it exactly. -/
def fractionText (nanos : Nat) : String :=
  if nanos = 0 then ""
  else if nanos % 1000000 = 0 then "." ++ padded 3 (nanos / 1000000)
  else if nanos % 1000 = 0 then "." ++ padded 6 (nanos / 1000)
  else "." ++ padded 9 nanos

def toText (i : Instant) : String :=
  i.date.toText ++ "T" ++ i.time.toText ++ fractionText i.nanos ++ "Z"

end Instant

end Cardfile
