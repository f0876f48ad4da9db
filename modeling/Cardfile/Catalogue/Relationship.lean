import Cardfile.Text.SnakeCase

/-! # Relationships

A field that leads from one entity to another. The shape of the link decides which side owns it
and which side comes first in its name.
-/

namespace Cardfile

inductive Cardinality
  | one | many
  deriving DecidableEq

/-- `atSource` tells how many sources share a target, `atTarget` how many targets a source has. -/
structure Relationship where
  field : String
  source : String
  target : String
  inverse : Option String
  bidirectional : Bool
  atSource : Cardinality
  atTarget : Cardinality
  owner : Bool
  goesFirst : Bool
  name : String
  deriving DecidableEq

namespace Relationship

/-- Whether the source owns the link, and whether it comes first in the name. -/
def ownership (bidirectional : Bool) (atSource atTarget : Cardinality) (declaredOwner : Bool)
    (source target : String) : Bool × Bool :=
  if !bidirectional then (true, true)
  else
    match atSource, atTarget with
    | .one, .one => (declaredOwner, declaredOwner)
    | .one, .many => (false, true)
    | .many, .one => (true, false)
    | .many, .many => (false, source < target)

def canonicalName (source target : String) (goesFirst : Bool) : String :=
  if goesFirst then Text.snakeCase source ++ "_" ++ Text.snakeCase target
  else Text.snakeCase target ++ "_" ++ Text.snakeCase source

/-- A link with a field that leads back is bidirectional. -/
def infer (source field target : String) (inverse : Option String) (atSource atTarget : Cardinality)
    (declaredOwner : Bool) : Relationship :=
  let (owner, goesFirst) := ownership inverse.isSome atSource atTarget declaredOwner source target
  { field, source, target, inverse, atSource, atTarget, owner, goesFirst
    bidirectional := inverse.isSome
    name := canonicalName source target goesFirst }

def isManyToMany (r : Relationship) : Bool := r.atSource = .many && r.atTarget = .many

end Relationship

end Cardfile
