import Cardfile.Catalogue.Relationship
import Cardfile.Catalogue.Restriction
import Cardfile.Catalogue.ValueSet
import Cardfile.Dict
import Cardfile.Kind

/-! # Types

What a catalogue holds under a name. Types refer to each other by their places in the catalogue,
or by name as long as there is no such place.
-/

namespace Cardfile

/-- A reference by name is pending until all types are known, and dangling if none has the name. -/
inductive TypeRef
  | resolved (id : Nat)
  | pending (name : String)
  | dangling (name : String)
  deriving DecidableEq

namespace TypeRef

def isPending : TypeRef → Bool
  | pending _ => true
  | _ => false

def id? : TypeRef → Option Nat
  | resolved id => some id
  | _ => none

end TypeRef

inductive FieldKind
  | simple | reference | collection
  deriving DecidableEq

structure Field where
  name : String
  kind : FieldKind
  type : TypeRef
  otherName : Option String
  deriving DecidableEq

structure ComponentType where
  fields : List Field
  naturalKey : List String
  ancestors : List TypeRef
  deriving DecidableEq

namespace ComponentType

def field? (c : ComponentType) (name : String) : Option Field := c.fields.find? (·.name = name)

def fieldNames (c : ComponentType) : List String := c.fields.map Field.name

end ComponentType

structure EntityType where
  component : ComponentType
  externalId : Bool
  relationships : Dict String Relationship

structure FactType where
  entity : EntityType
  measures : Dict String Measure

structure CollectionType where
  kind : CollectionKind
  element : TypeRef
  key : Option TypeRef
  deriving DecidableEq

inductive TypeBody
  | basic (host : Host)
  | integerRange (min max : Int)
  | realRange (min max : Real64)
  | stringPattern (p : StringPattern)
  | dateRange (start stop : Date)
  | timeRange (start stop : TimeOfDay)
  | decimal (spec : DecimalSpec)
  | enumeration (e : Enumeration)
  | hierarchy (h : Hierarchy)
  | collection (c : CollectionType)
  | component (c : ComponentType)
  | entity (e : EntityType)
  | dimension (e : EntityType)
  | fact (f : FactType)
  | view (c : ComponentType)

namespace TypeBody

def label : TypeBody → String
  | basic _ => "basic"
  | integerRange _ _ => "restricted int"
  | realRange _ _ => "restricted real"
  | stringPattern _ => "restricted string"
  | dateRange _ _ => "restricted date"
  | timeRange _ _ => "restricted time"
  | decimal _ => "restricted decimal"
  | enumeration _ => "enumeration"
  | hierarchy _ => "hierarchy"
  | collection c => if c.kind = .map then "map" else "collection"
  | component _ => "component"
  | entity _ => "entity"
  | dimension _ => "dimension"
  | fact _ => "fact"
  | view _ => "view"

def host? : TypeBody → Option Host
  | basic host => some host
  | integerRange _ _ => some .long
  | realRange _ _ => some .double
  | stringPattern _ => some .text
  | enumeration _ => some .text
  | hierarchy _ => some .text
  | dateRange _ _ => some .date
  | timeRange _ _ => some .time
  | decimal _ => some .decimal
  | _ => none

/-- The fields and ancestors of a type that has them. -/
def component? : TypeBody → Option ComponentType
  | component c => some c
  | view c => some c
  | entity e => some e.component
  | dimension e => some e.component
  | fact f => some f.entity.component
  | _ => none

/-- Entities, dimensions and facts are like entities. -/
def entity? : TypeBody → Option EntityType
  | entity e => some e
  | dimension e => some e
  | fact f => some f.entity
  | _ => none

def isComponent (b : TypeBody) : Bool := b.component?.isSome

def isEntity (b : TypeBody) : Bool := b.entity?.isSome

def isDimension : TypeBody → Bool
  | dimension _ => true
  | _ => false

/-- Changes what an entity, a dimension or a fact has in common with entities. -/
def mapEntity (f : EntityType → EntityType) : TypeBody → TypeBody
  | entity e => entity (f e)
  | dimension e => dimension (f e)
  | fact t => fact { t with entity := f t.entity }
  | b => b

/-- Changes fields and ancestors. -/
def mapComponent (f : ComponentType → ComponentType) : TypeBody → TypeBody
  | component c => component (f c)
  | view c => view (f c)
  | b => b.mapEntity fun e => { e with component := f e.component }

end TypeBody

structure NamedType where
  name : String
  body : TypeBody

/-- A name with the label of its type. -/
def NamedType.title (t : NamedType) : String := t.name ++ " (" ++ t.body.label ++ ")"

end Cardfile
