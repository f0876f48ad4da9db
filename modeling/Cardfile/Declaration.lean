import Cardfile.Dict
import Cardfile.Real64.Reading
import Cardfile.Text.Blank

/-! # Declarations

A model is a list of declarations. A declaration has a kind and properties, and a property may
hold further declarations; what of it is meant and whether it makes sense is decided later.
-/

namespace Cardfile

inductive Value
  | bool (b : Bool)
  | integer (n : Int)
  | real (x : Real64)
  | text (s : String)
  | list (items : List Value)
  | node (kind : String) (properties : List (String × Value))

instance : Inhabited Value := ⟨.bool false⟩

/-- Properties by name, each name once. -/
abbrev Properties := List (String × Value)

structure Declaration where
  kind : String
  properties : Properties

abbrev Model := List Declaration

namespace Value

def text? : Value → Option String
  | text s => some s
  | _ => none

/-- An integer or the text of one. -/
def integer? : Value → Option Int
  | integer n => some n
  | text s => int64OfText? (Text.trimChars s.toList)
  | _ => none

/-- A number or the text of one. -/
def real? : Value → Option Real64
  | real x => some x
  | integer n => some (Real64.ofInt n)
  | text s => Real64.ofText? (Text.trimChars s.toList)
  | _ => none

def boolOfText? (s : String) : Option Bool :=
  if s = "true" || s = "yes" then some true
  else if s = "false" || s = "no" then some false
  else none

def bool? : Value → Option Bool
  | bool b => some b
  | text s => boolOfText? (Text.trim s)
  | _ => none

/-- A list of texts, or a text of names with commas between them. -/
def names? : Value → Option (List String)
  | list items => items.mapM text?
  | text s => some (Text.commaParts s)
  | _ => none

def declaration? : Value → Option Declaration
  | node kind properties => some ⟨kind, properties⟩
  | _ => none

end Value

namespace Properties

def get? (p : Properties) (name : String) : Option Value := Dict.lookup name p

def text? (p : Properties) (name : String) : Option String := (p.get? name).bind Value.text?

def integer? (p : Properties) (name : String) : Option Int := (p.get? name).bind Value.integer?

def real? (p : Properties) (name : String) : Option Real64 := (p.get? name).bind Value.real?

/-- Whether a property is true; one that is no truth value is not. -/
def flag (p : Properties) (name : String) : Bool := ((p.get? name).bind Value.bool?).getD false

def names? (p : Properties) (name : String) : Option (List String) :=
  (p.get? name).bind Value.names?

/-- The declarations in a list, other items left out. -/
def nodes (p : Properties) (name : String) : List Declaration :=
  match p.get? name with
  | some (.list items) => items.filterMap Value.declaration?
  | _ => []

/-- The value of the first of some names under which one can be read. -/
def first? {α : Type} (read : Properties → String → Option α) (p : Properties)
    (names : List String) : Option α :=
  names.findSome? (read p)

end Properties

namespace Declaration

def name? (d : Declaration) : Option String := d.properties.text? "name"

end Declaration

namespace Model

/-- The kinds in the order in which they come first. -/
def kinds (m : Model) : List String := (m.map Declaration.kind).eraseDups

def ofKind (m : Model) (kind : String) : List Declaration := m.filter (·.kind = kind)

end Model

end Cardfile
