import Cardfile.Catalogue.Types
import Cardfile.Flaw

/-! # Catalogues

A catalogue is a list of types; a type's place in it is its handle. Names lead to types, the
aliases of basic types among them. What is wrong with a model but does not stop it from being
read is kept as diagnostics.
-/

namespace Cardfile

/-- Where a reference stands. -/
inductive Place
  | field (name : String)
  | ancestor
  | element
  | key
  deriving DecidableEq

def Place.text : Place → String
  | field name => "field " ++ name
  | ancestor => "ancestor"
  | element => "element type"
  | key => "key type"

inductive Issue
  | failedCheck (kind : Kind) (flaw : Flaw)
  | rejected (cause : Error)
  | droppedField (name : String)
  | undeclaredKey (name : String)
  | undeclaredType (place : Place) (target : String)
  | ancestorKind (name : String)
  | ancestorField (field ancestor : String)
  | factReference (field target : String)
  | inverseElsewhere (inverse target source : String)
  | inverseMissing (inverse target : String)
  deriving DecidableEq

def Issue.text : Issue → String
  | failedCheck kind flaw => kind.name ++ " failed type check: " ++ flaw.text
  | rejected cause => cause.text
  | droppedField name => "field " ++ name ++ " has no type and is dropped"
  | undeclaredKey name => "natural key field " ++ name ++ " is not declared"
  | undeclaredType place target => place.text ++ " refers to undeclared type " ++ target
  | ancestorKind name => "ancestor " ++ name ++ " is not a component"
  | ancestorField field ancestor =>
    "field " ++ field ++ " is not a field of ancestor " ++ ancestor
  | factReference field target =>
    "field " ++ field ++ " references " ++ target ++ " which is not a dimension"
  | inverseElsewhere inverse target source =>
    "inverse field " ++ inverse ++ " on " ++ target ++ " does not point back to " ++ source ++
      "; treated as unidirectional"
  | inverseMissing inverse target =>
    "inverse field " ++ inverse ++ " not found on " ++ target ++ "; treated as unidirectional"

structure Diagnostic where
  subject : String
  issue : Issue
  deriving DecidableEq

namespace Diagnostic

def message (d : Diagnostic) : String := d.issue.text

def text (d : Diagnostic) : String := d.subject ++ ": " ++ d.message

end Diagnostic

/-- `handles` are the handles that the types carry, in the order of the types. -/
structure Catalogue where
  types : List NamedType
  names : Dict String Nat
  diagnostics : List Diagnostic
  failOnOpen : Bool
  handles : List Nat

namespace Catalogue

/-- Puts a type at the end, with its place as its handle, and has its name lead to it. -/
def push (c : Catalogue) (name : String) (body : TypeBody) : Catalogue :=
  { c with
    types := c.types ++ [⟨name, body⟩]
    names := c.names.insert name c.types.length
    handles := c.handles ++ [c.types.length] }

def pushBasic (c : Catalogue) (host : Host) : Catalogue :=
  let id := c.types.length
  let pushed := c.push host.name (.basic host)
  { pushed with
    names := host.aliases.foldl (fun names other => names.insert other id) pushed.names }

/-- The catalogue of the basic types. -/
def basic : Catalogue := Host.all.foldl pushBasic ⟨[], .empty, [], false, []⟩

def id? (c : Catalogue) (name : String) : Option Nat := c.names.get? name

def type? (c : Catalogue) (name : String) : Option NamedType :=
  (c.id? name).bind fun id => c.types[id]?

def resolve? (c : Catalogue) (r : TypeRef) : Option NamedType := r.id?.bind fun id => c.types[id]?

/-- A reference to the type of a name, pending if there is none yet. -/
def reference (c : Catalogue) (name : String) : TypeRef :=
  match c.id? name with
  | some id => .resolved id
  | none => .pending name

/-- The name of the type that a reference means. -/
def refName (c : Catalogue) : TypeRef → String
  | .resolved id => ((c.types[id]?).map NamedType.name).getD "?"
  | .pending name => name
  | .dangling name => name

/-- Adds a type under a new name and gives its place. -/
def insert (c : Catalogue) (name : String) (body : TypeBody) : Except Error (Catalogue × Nat) :=
  if c.names.contains name then .error (.definedType name)
  else .ok (c.push name body, c.types.length)

def collectionName (c : Catalogue) (t : CollectionType) : String :=
  match t.key with
  | some key => t.kind.name ++ "<" ++ c.refName key ++ "," ++ c.refName t.element ++ ">"
  | none => t.kind.name ++ "<" ++ c.refName t.element ++ ">"

/-- The place of a collection type, which is added when it is needed first. -/
def intern (c : Catalogue) (t : CollectionType) : Catalogue × Nat :=
  let name := c.collectionName t
  match c.id? name with
  | some id => (c, id)
  | none => (c.push name (.collection t), c.types.length)

def diagnose (c : Catalogue) (subject : String) (issue : Issue) : Catalogue :=
  { c with diagnostics := c.diagnostics ++ [⟨subject, issue⟩] }

/-- Changes the type at a place. -/
def modify (c : Catalogue) (id : Nat) (f : TypeBody → TypeBody) : Catalogue :=
  { c with types := c.types.modify id fun t => { t with body := f t.body } }

def componentType? (c : Catalogue) (name : String) : Option NamedType :=
  (c.type? name).filter (·.body.isComponent)

def entityType? (c : Catalogue) (name : String) : Option NamedType :=
  (c.type? name).filter (·.body.isEntity)

def component? (c : Catalogue) (name : String) : Option ComponentType :=
  (c.type? name).bind (·.body.component?)

def entity? (c : Catalogue) (name : String) : Option EntityType :=
  (c.type? name).bind (·.body.entity?)

def componentTypes (c : Catalogue) : List NamedType := c.types.filter (·.body.isComponent)

def entityTypes (c : Catalogue) : List NamedType := c.types.filter (·.body.isEntity)

def relationships? (c : Catalogue) (entity : String) : Option (Dict String Relationship) :=
  (c.entity? entity).map EntityType.relationships

def enumerationValues (c : Catalogue) (name : String) : Except Error (List String) :=
  match (c.type? name).map NamedType.body with
  | some (.enumeration e) => e.all c.failOnOpen
  | _ => .error (.noEnumeration name)

def hierarchyValues (c : Catalogue) (name : String) : Except Error (List (List String)) :=
  match (c.type? name).map NamedType.body with
  | some (.hierarchy h) => h.all c.failOnOpen
  | _ => .error (.noHierarchy name)

end Catalogue

end Cardfile
