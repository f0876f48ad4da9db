import Cardfile.Form.Normal
import Cardfile.RuleBase

/-! # Reviews

A review goes through the declarations of a model under a rule base. Each comes out in normal
form or with its first flaw; of several with one name only the first that is in order counts.
-/

namespace Cardfile

/-- The declarations of known kinds, grouped by kind, the kinds in the order in which they come
first. -/
def Model.facts (m : Model) : List Fact :=
  m.kinds.flatMap fun kindName =>
    match Kind.ofName? kindName with
    | none => []
    | some kind =>
      (m.ofKind kindName).map fun d => ⟨d.name?.getD "", kind, d.properties⟩

/-- The outcome for one declaration. -/
structure Reviewed where
  fact : Fact
  outcome : Except Flaw NormalFact

/-- A field that points at a type that is not basic. -/
structure Link where
  source : String
  field : String
  target : String
  collection : Bool
  inverse : Option String
  owner : Bool
  deriving DecidableEq

abbrev Review := List Reviewed

namespace Review

/-- The outcome for a declaration by itself. -/
def outcomeOf (rules : RuleBase) (fact : Fact) : Except Flaw NormalFact := do
  let normal ← fact.normalize
  rules.check normal
  pure normal

/-- Goes on through the declarations; `seen` are the names already taken. -/
def ofFacts (rules : RuleBase) (seen : List String) : List Fact → Review
  | [] => []
  | fact :: rest =>
    match outcomeOf rules fact with
    | .error flaw => ⟨fact, .error flaw⟩ :: ofFacts rules seen rest
    | .ok normal =>
      if seen.contains normal.name then
        ⟨fact, .error (.repeatedName normal.name)⟩ :: ofFacts rules seen rest
      else ⟨fact, .ok normal⟩ :: ofFacts rules (normal.name :: seen) rest

def ofModel (rules : RuleBase) (m : Model) : Review := ofFacts rules [] m.facts

def normalFacts (r : Review) : List NormalFact := r.filterMap (·.outcome.toOption)

def normalOfKind (r : Review) (kind : Kind) : List NormalFact :=
  r.normalFacts.filter (·.kind = kind)

def factsOfKind (r : Review) (kind : Kind) : List Fact :=
  (r.map Reviewed.fact).filter (·.kind = kind)

/-- The declarations that failed, with their flaws. -/
def failures (r : Review) : List (Fact × Flaw) :=
  r.filterMap fun reviewed =>
    match reviewed.outcome with
    | .error flaw => some (reviewed.fact, flaw)
    | .ok _ => none

def normal? (r : Review) (name : String) : Option NormalFact :=
  r.normalFacts.find? (·.name = name)

def component? (r : Review) (name : String) : Option ComponentForm :=
  (r.normal? name).bind NormalFact.component?

def naturalKey (r : Review) (name : String) : List String :=
  ((r.component? name).map ComponentForm.naturalKey).getD []

def isNaturalKey (r : Review) (name field : String) : Bool := (r.naturalKey name).contains field

def externalId (r : Review) (name : String) : Bool :=
  ((r.component? name).map ComponentForm.externalId).getD false

def linkOf? (source : String) (field : FieldForm) : Option Link := do
  let shape ← field.shape
  let target ← shape.target?
  pure ⟨source, field.name, target, shape.isCollection, field.inverse, field.owner⟩

def linksOf (fact : NormalFact) : List Link :=
  match fact.component? with
  | some component => component.fields.filterMap (linkOf? fact.name)
  | none => []

def links (r : Review) : List Link := r.normalFacts.flatMap linksOf

end Review

end Cardfile
