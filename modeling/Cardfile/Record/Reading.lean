import Cardfile.Json
import Cardfile.Record

/-! # Reading records

A record is an object with a type, the list of its supertypes and an object of fields. A value is
an object with one member, which names the kind of the value.
-/

namespace Cardfile

namespace FieldValue

mutual

def ofJson? : Json → Option FieldValue
  | .object [(some kind, content)] => ofMember? kind content
  | _ => none

def ofMember? (kind : String) : Json → Option FieldValue
  | .text s => do
    let s ← s
    if kind = "Text" then pure (.text s)
    else if kind = "Date" then date <$> (Instant.ofText s.toList).toOption
    else none
  | .bool b => if kind = "Boolean" then some (.boolean b) else none
  | .array items => if kind = "List" then list <$> ofItems? items else none
  | .number n => if kind = "Number" then number <$> (Json.number n).real? else none
  | _ => none

def ofItems? : List Json → Option (List FieldValue)
  | [] => some []
  | j :: rest => do
    let v ← ofJson? j
    let vs ← ofItems? rest
    pure (v :: vs)

end

end FieldValue

namespace Record

def fieldNames : List String := ["record_type", "supertypes", "fields"]

def fieldsOfJson? (room : Nat) (j : Json) : Option (Dict String FieldValue) := do
  let entries ← (← j.members? room).mapM fun m => do pure (m.1, ← FieldValue.ofJson? m.2)
  pure (Dict.ofList entries)

def ofJson? (j : Json) : Option Record := do
  let room := Json.maxDepth - 1
  match ← j.fields? Json.maxDepth false fieldNames with
  | [some type, some supertypes, some fields] => do
    pure ⟨← type.text?, ← supertypes.names? room, ← fieldsOfJson? room fields⟩
  | _ => none

end Record

end Cardfile
