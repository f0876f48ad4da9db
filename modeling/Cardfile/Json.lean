import Cardfile.Real64

/-! # Raw trees

The tree of a JSON text as it is written: members of an object in their order, a repeated name
twice, and numbers by their digits. What a tree stands for is up to its reader.
-/

namespace Cardfile

/-- A number as written: the digits before the point, those after it, the exponent. -/
structure Numeral where
  negative : Bool
  whole : List Char
  fraction : Option (List Char)
  exponent : Option (Bool × List Char)

/-- A text is `none` when it has an escape for half of a pair only. -/
inductive Json
  | null
  | bool (b : Bool)
  | number (n : Numeral)
  | text (s : Option String)
  | array (items : List Json)
  | object (members : List (Option String × Json))

instance : Inhabited Json := ⟨.null⟩

namespace Numeral

inductive Number
  | integer (n : Int)
  | real (x : Real64)

def digit (c : Char) : Nat := c.toNat - '0'.toNat

/-- Appends digits to a number as long as it stays below `2 ^ 64`. -/
def append (n : Nat) : List Char → Nat × List Char
  | [] => (n, [])
  | c :: cs =>
    if 10 * n + digit c < 0x10000000000000000 then append (10 * n + digit c) cs else (n, c :: cs)

/-- Scales a magnitude by a power of ten with one rounding for each factor up to `10 ^ 308`. -/
def scale (m : Nat) (e : Int) : Nat → Option Nat
  | 0 => some 0
  | steps + 1 =>
    if 0 ≤ e then
      if e ≤ 308 then
        let r := Real64.mul m (Real64.ofDecimal 1 e)
        if r = Real64.infinity then none else some r
      else if m = 0 then some 0 else none
    else if -308 ≤ e then some (Real64.div m (Real64.ofDecimal 1 (-e)))
    else if m = 0 then some 0
    else scale (Real64.div m (Real64.ofDecimal 1 308)) (e + 308) steps

/-- A real number: the leading digits that fit in 64 bits are rounded, then scaled. -/
def real? (n : Numeral) : Option Real64 :=
  let (lead, dropped) := append 0 n.whole
  let (significand, rest) := append lead (n.fraction.getD [])
  let start : Int := dropped.length - ((n.fraction.getD []).length - rest.length)
  let sign (m : Nat) : Real64 := ⟨n.negative, m⟩
  let rounded := Real64.ofQuotient significand 1
  match n.exponent with
  | none => (scale rounded start 4).map sign
  | some (below, ds) =>
    let e := ds.foldl (fun e c => 10 * e + digit c) 0
    if 0x80000000 ≤ e then
      if significand ≠ 0 && !below then none else some (sign 0)
    else (scale rounded (start + if below then -(e : Int) else e) 4).map sign

/-- What a numeral stands for, nothing if it is too large. A minus sign before zero makes a real. -/
def number? (n : Numeral) : Option Number :=
  if n.fraction.isNone && n.exponent.isNone then
    let v := n.whole.foldl (fun v c => 10 * v + digit c) 0
    if n.negative then
      if v = 0 || 0x8000000000000000 < v then n.real?.map .real else some (.integer (-(v : Int)))
    else if v < 0x10000000000000000 then some (.integer v)
    else n.real?.map .real
  else n.real?.map .real

end Numeral

namespace Json

/-- How many arrays and objects may stand inside each other. -/
def maxDepth : Nat := 127

mutual

/-- Whether every part of a tree can be read: texts are whole, numbers are in range, and at most
`room` arrays and objects stand inside each other. -/
def isSound (room : Nat) : Json → Bool
  | null => true
  | bool _ => true
  | number n => n.number?.isSome
  | text s => s.isSome
  | array items => match room with
    | 0 => false
    | room + 1 => areSound room items
  | object members => match room with
    | 0 => false
    | room + 1 => membersAreSound room members

def areSound (room : Nat) : List Json → Bool
  | [] => true
  | j :: rest => isSound room j && areSound room rest

def membersAreSound (room : Nat) : List (Option String × Json) → Bool
  | [] => true
  | (k, j) :: rest => k.isSome && isSound room j && membersAreSound room rest

end

def text? : Json → Option String
  | text s => s
  | _ => none

def bool? : Json → Option Bool
  | bool b => some b
  | _ => none

/-- An unsigned integer of 64 bits. -/
def nat? : Json → Option Nat
  | number n => match n.number? with
    | some (.integer v) => if 0 ≤ v then some v.natAbs else none
    | _ => none
  | _ => none

def real? : Json → Option Real64
  | number n => n.number?.map fun
    | .integer v => Real64.ofInt v
    | .real x => x
  | _ => none

/-- The items of an array, which takes one level of `room`. -/
def items? (room : Nat) : Json → Option (List Json)
  | array items => if room = 0 then none else some items
  | _ => none

def names? (room : Nat) (j : Json) : Option (List String) := do
  (← j.items? room).mapM text?

/-- The members of an object, which takes one level of `room`. -/
def members? (room : Nat) : Json → Option (List (String × Json))
  | object members =>
    if room = 0 then none else members.mapM fun m => m.1.map fun k => (k, m.2)
  | _ => none

/-- The only member of a name, if there is at most one. -/
def onlyMember? (members : List (String × Json)) (name : String) : Option (Option Json) :=
  match members.filter (·.1 = name) with
  | [] => some none
  | [m] => some (some m.2)
  | _ => none

/-- The fields of a record, each given once at most. A record is an object with a member for each
field or an array of the fields in order, of which the last may be missing; a closed record has
no other members. -/
def fields? (room : Nat) (closed : Bool) (names : List String) (j : Json) :
    Option (List (Option Json)) :=
  match j with
  | array items =>
    if room = 0 || names.length < items.length then none
    else some (items.map some ++ List.replicate (names.length - items.length) none)
  | _ => do
    let members ← j.members? room
    if closed && members.any fun m => !names.contains m.1 then none
    names.mapM (onlyMember? members)

end Json

end Cardfile
