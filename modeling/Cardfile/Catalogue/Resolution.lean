import Cardfile.Catalogue

/-! # Resolution

Once all types are known, pending references are looked up by their names. What is not found is
left dangling.
-/

namespace Cardfile

/-- The references of a type with their places. -/
def TypeBody.references : TypeBody → List (Place × TypeRef)
  | .collection c => (.element, c.element) :: c.key.toList.map (.key, ·)
  | b =>
    match b.component? with
    | some c => c.fields.map (fun f => (.field f.name, f.type)) ++ c.ancestors.map (.ancestor, ·)
    | none => []

/-- Changes the references of a type. -/
def TypeBody.mapReferences (f : TypeRef → TypeRef) : TypeBody → TypeBody
  | .collection c => .collection { c with element := f c.element, key := c.key.map f }
  | b =>
    b.mapComponent fun c =>
      { c with
        fields := c.fields.map fun field => { field with type := f field.type }
        ancestors := c.ancestors.map f }

/-- A reference to a type that was never declared. -/
structure DanglingRef where
  owner : String
  place : Place
  target : String
  deriving DecidableEq

namespace Catalogue

/-- Settles a pending reference by its name. -/
def settle (names : Dict String Nat) : TypeRef → TypeRef
  | .pending name =>
    match names.get? name with
    | some id => .resolved id
    | none => .dangling name
  | r => r

/-- The pending references of a type whose names lead nowhere. -/
def unresolved (names : Dict String Nat) (t : NamedType) : List DanglingRef :=
  t.body.references.filterMap fun r =>
    match r.2 with
    | .pending name => if names.contains name then none else some ⟨t.name, r.1, name⟩
    | _ => none

/-- Settles all pending references and tells which are dangling now. -/
def resolvePending (c : Catalogue) : Catalogue × List DanglingRef :=
  ({ c with types := c.types.map fun t => { t with body := t.body.mapReferences (settle c.names) } },
    c.types.flatMap (unresolved c.names))

def hasPending (c : Catalogue) : Bool :=
  c.types.any fun t => t.body.references.any (·.2.isPending)

end Catalogue

end Cardfile
