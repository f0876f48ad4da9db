import Cardfile.Catalogue
import Cardfile.Review

/-! # Inference of relationships

Fields that lead from one entity to another become relationships of the entity that declares
them. A declared inverse counts if it is a field of the target that leads back.
-/

namespace Cardfile.Catalogue

/-- Whether a field leads to the type of a name, by itself or through the collection it holds. -/
def leadsTo (c : Catalogue) (field : Field) (target : String) : Bool :=
  let element? : Option TypeRef :=
    match field.kind with
    | .simple => none
    | .reference => some field.type
    | .collection =>
      match (c.resolve? field.type).map NamedType.body with
      | some (.collection t) => some t.element
      | _ => none
  match element?.bind c.resolve? with
  | some t => t.name = target
  | none => false

def cardinality (isCollection : Bool) : Cardinality := if isCollection then .many else .one

/-- What becomes of the inverse that a link declares: the cardinality at the source if the inverse
counts, an issue if there is one that does not. -/
def inverseOf (c : Catalogue) (link : Link) : Option (Except Issue (String × Cardinality)) :=
  link.inverse.map fun inverse =>
    match (c.component? link.target).bind (·.field? inverse) with
    | none => .error (.inverseMissing inverse link.target)
    | some field =>
      if c.leadsTo field link.source then
        .ok (inverse, cardinality (field.kind = .collection))
      else .error (.inverseElsewhere inverse link.target link.source)

/-- Without an inverse a single reference is shared and a collection is not. -/
def relationshipOf (link : Link) (inverse : Option (String × Cardinality)) : Relationship :=
  let atSource := match inverse with
    | some (_, atSource) => atSource
    | none => cardinality (!link.collection)
  Relationship.infer link.source link.field link.target (inverse.map Prod.fst) atSource
    (cardinality link.collection) link.owner

/-- Whether both ends of a link are entities. -/
def isEntityLink (c : Catalogue) (link : Link) : Bool :=
  (c.entityType? link.source).isSome && (c.entityType? link.target).isSome

def addRelationship (c : Catalogue) (link : Link) (r : Relationship) : Catalogue :=
  match c.id? link.source with
  | some id =>
    c.modify id (·.mapEntity fun e =>
      { e with relationships := e.relationships.insert link.field r })
  | none => c

def inferLink (c : Catalogue) (link : Link) : Catalogue :=
  if !c.isEntityLink link then c
  else
    match c.inverseOf link with
    | none => c.addRelationship link (relationshipOf link none)
    | some (.ok inverse) => c.addRelationship link (relationshipOf link (some inverse))
    | some (.error issue) =>
      (c.diagnose (link.source ++ "." ++ link.field) issue).addRelationship link
        (relationshipOf link none)

def inferAll (c : Catalogue) (links : List Link) : Catalogue := links.foldl inferLink c

/-- How many links become relationships, one after the other. -/
def inferredCount (c : Catalogue) : List Link → Nat
  | [] => 0
  | link :: rest =>
    (if c.isEntityLink link then 1 else 0) + (c.inferLink link).inferredCount rest

end Cardfile.Catalogue
