import Cardfile.Declaration
import Cardfile.Json.Reading

/-! # Reading models

A value is read as the first of a truth value, an integer, a number, a text, a list and a
declaration that it can be. A declaration is an object with a text `kind` and possibly an object
`properties`, or an array of the two.
-/

namespace Cardfile

/-- What a tree can be read as inside of another. -/
structure Readings where
  text? : Option String
  properties? : Option Properties
  value? : Option Value

namespace Readings

/-- Of two values for one name the later counts. -/
def collect : List (String × Value) → Properties := fun entries =>
  entries.foldl (fun p e => Dict.assign e.1 e.2 p) []

def entry? (member : Option String × Readings) : Option (String × Value) := do
  pure (← member.1, ← member.2.value?)

def ofMembers (members : List (Option String × Readings)) : Readings where
  text? := none
  properties? := (members.mapM entry?).map collect
  value? :=
    match members.filter (·.1 = some "kind"), members.filter (·.1 = some "properties") with
    | [(_, kind)], [] => kind.text?.map fun kind => .node kind []
    | [(_, kind)], [(_, properties)] => do pure (.node (← kind.text?) (← properties.properties?))
    | _, _ => none

/-- An array of values is a list; any other may be a declaration. -/
def ofItems (items : List Readings) : Readings where
  text? := none
  properties? := none
  value? :=
    match items.mapM Readings.value? with
    | some values => some (.list values)
    | none =>
      match items with
      | [kind, properties] => do pure (.node (← kind.text?) (← properties.properties?))
      | _ => none

def ofScalar (value : Value) : Readings := ⟨none, none, some value⟩

def ofNumber : Numeral.Number → Readings
  | .integer n => if fitsInt64 n then ofScalar (.integer n) else ofScalar (.real (Real64.ofInt n))
  | .real x => ofScalar (.real x)

mutual

def ofJson : Json → Readings
  | .null => ⟨none, none, none⟩
  | .bool b => ofScalar (.bool b)
  | .number n =>
    match n.number? with
    | some number => ofNumber number
    | none => ⟨none, none, none⟩
  | .text s => ⟨s, none, s.map .text⟩
  | .array items => ofItems (ofJsonItems items)
  | .object members => ofMembers (ofJsonMembers members)

def ofJsonItems : List Json → List Readings
  | [] => []
  | j :: rest => ofJson j :: ofJsonItems rest

def ofJsonMembers : List (Option String × Json) → List (Option String × Readings)
  | [] => []
  | (name, j) :: rest => (name, ofJson j) :: ofJsonMembers rest

end

end Readings

/-- A value is looked at as a whole before it is read, so every part of it has to be sound. -/
def Value.ofJson? (room : Nat) (j : Json) : Option Value :=
  if j.isSound room then (Readings.ofJson j).value? else none

def Properties.ofJson? (room : Nat) (j : Json) : Option Properties := do
  let members ← j.members? room
  let entries ← members.mapM fun m => do pure (m.1, ← Value.ofJson? (room - 1) m.2)
  pure (Readings.collect entries)

def Declaration.ofJson? (room : Nat) (j : Json) : Option Declaration := do
  match ← j.fields? room false ["kind", "properties"] with
  | [some kind, none] => pure ⟨← kind.text?, []⟩
  | [some kind, some properties] =>
    pure ⟨← kind.text?, ← Properties.ofJson? (room - 1) properties⟩
  | _ => none

def Model.ofJson? (j : Json) : Option Model := do
  match ← j.fields? Json.maxDepth false ["declarations"] with
  | [some declarations] =>
    (← declarations.items? (Json.maxDepth - 1)).mapM
      (Declaration.ofJson? (Json.maxDepth - 2))
  | _ => none

def Value.ofText? (text : String) : Option Value :=
  (Json.ofText? text).bind (Value.ofJson? Json.maxDepth)

def Model.ofText? (text : String) : Option Model := (Json.ofText? text).bind Model.ofJson?

end Cardfile
