import Cardfile.Calendar.Instant
import Cardfile.Dict
import Cardfile.Real64.Shortest

/-! # Records

A record has a type, the types above it that it reports itself, and fields by name. The same shape
serves for the full record, from which text is taken, and for the summary that an index keeps.
-/

namespace Cardfile

inductive FieldValue
  | text (s : String)
  | number (x : Real64)
  | date (i : Instant)
  | boolean (b : Bool)
  | list (items : List FieldValue)

namespace FieldValue

mutual

/-- The text that analysis gets to see. -/
def indexText : FieldValue → String
  | text s => s
  | number x => x.toText
  | date i => i.date.toText
  | boolean b => if b then "true" else "false"
  | list items => String.intercalate " " (indexTexts items)

def indexTexts : List FieldValue → List String
  | [] => []
  | v :: rest => indexText v :: indexTexts rest

end

def number? : FieldValue → Option Real64
  | number x => some x
  | _ => none

end FieldValue

structure Record where
  type : String
  supertypes : List String
  fields : Dict String FieldValue

namespace Record

def field? (r : Record) (name : String) : Option FieldValue := r.fields.get? name

/-- The number in a field; zero if there is no field, or no number in it. -/
def rating (r : Record) (field : Option String) : Real64 :=
  ((field.bind r.field?).bind FieldValue.number?).getD .zero

end Record

end Cardfile
