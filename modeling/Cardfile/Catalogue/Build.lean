import Cardfile.Catalogue.Inference
import Cardfile.Catalogue.Resolution

/-! # Building catalogues

The declarations of a model in normal form become types: restricted types first, then
enumerations and hierarchies, then the types with fields. Names that are not known yet are
resolved at the end, and then relationships are inferred. With strict references any problem on
the way stops the model from being read.
-/

namespace Cardfile

/-- How a model is read. -/
structure Policy where
  rules : RuleBase
  strict : Bool
  failOnOpen : Bool

/-- The rule base of a configuration is a built-in one or a file. -/
def Policy.ofConfig (config : Config) (files : String → Contents) : Except Error Policy := do
  let rules ←
    if config.ruleBase.endsWith ".json" then
      RuleBase.ofFile config.ruleBase (files config.ruleBase)
    else RuleBase.ofName config.ruleBase
  pure ⟨rules, config.strictReferences, config.failOnNonFinalized⟩

namespace Catalogue

/-- Adds a type, or a diagnostic if its name is taken. -/
def addOrDiagnose (c : Catalogue) (name : String) (body : TypeBody) : Catalogue :=
  match c.insert name body with
  | .ok (added, _) => added
  | .error cause => c.diagnose name (.rejected cause)

/-- The restricted type of a form, nothing for other forms. -/
def restriction (form : Form) : Except Error (Option TypeBody) :=
  match form with
  | .decimal precision scale => .ok (some (.decimal ⟨precision, scale⟩))
  | .integerRange min max => .ok (some (.integerRange min max))
  | .realRange min max => .ok (some (.realRange min max))
  | .stringPattern pattern maxLength =>
    (StringPattern.ofText pattern maxLength).map (some ∘ .stringPattern)
  | .dateRange start stop => .ok (some (.dateRange start stop))
  | .timeRange start stop => .ok (some (.timeRange start stop))
  | _ => .ok none

def addRestriction (c : Catalogue) (fact : NormalFact) : Catalogue :=
  match restriction fact.form with
  | .error cause => c.diagnose fact.name (.rejected cause)
  | .ok none => c
  | .ok (some body) => c.addOrDiagnose fact.name body

def addEnumeration (c : Catalogue) (fact : NormalFact) : Catalogue :=
  match fact.form with
  | .enumeration values finalized =>
    let e : Enumeration := values.foldl ValueSet.insert ValueSet.empty
    c.addOrDiagnose fact.name (.enumeration (if finalized then e.finalize else e))
  | _ => c

/-- Adds a path to a hierarchy, or a diagnostic if it cannot be added. -/
def addPath (subject : String) (state : Catalogue × Hierarchy) (path : List String) :
    Catalogue × Hierarchy :=
  match state.2.add path with
  | .ok h => (state.1, h)
  | .error cause => (state.1.diagnose subject (.rejected cause), state.2)

def addHierarchy (c : Catalogue) (fact : NormalFact) : Catalogue :=
  match fact.form with
  | .hierarchy levels labels finalized =>
    let (c, h) := (Label.paths labels).foldl (addPath fact.name) (c, .empty levels)
    c.addOrDiagnose fact.name (.hierarchy (if finalized then h.finalize else h))
  | _ => c

/-- The type of a field, which may bring a collection type into the catalogue. -/
def shapeType (c : Catalogue) : Shape → Catalogue × FieldKind × TypeRef
  | .simple host => (c, .simple, c.reference host.name)
  | .reference name => (c, .reference, c.reference name)
  | .collection kind element key =>
    let (c, id) := c.intern ⟨kind, c.reference element, key.map c.reference⟩
    (c, .collection, .resolved id)

def addField (subject : String) (state : Catalogue × List Field) (form : FieldForm) :
    Catalogue × List Field :=
  match form.shape with
  | none => (state.1.diagnose subject (.droppedField form.name), state.2)
  | some shape =>
    let (c, kind, type) := state.1.shapeType shape
    (c, state.2 ++ [⟨form.name, kind, type, form.otherName⟩])

/-- The natural key has the order of the fields. -/
def componentOf (c : Catalogue) (subject : String) (form : ComponentForm) :
    Catalogue × ComponentType :=
  let (c, fields) := form.fields.foldl (addField subject) (c, [])
  let naturalKey := (fields.map Field.name).filter form.naturalKey.contains
  let missing := form.naturalKey.filter fun name => !naturalKey.contains name
  let c := missing.foldl (fun c name => c.diagnose subject (.undeclaredKey name)) c
  (c, ⟨fields, naturalKey, form.ancestors.map c.reference⟩)

def measuresOf (fields : List FieldForm) : Dict String Measure :=
  Dict.ofList (fields.filterMap fun f => f.measure.map (f.name, ·))

def componentBody (kind : Kind) (form : ComponentForm) (component : ComponentType) : TypeBody :=
  let entity : EntityType := ⟨component, form.externalId, .empty⟩
  match kind with
  | .entity => .entity entity
  | .dimension => .dimension entity
  | .fact => .fact ⟨entity, measuresOf form.fields⟩
  | .view => .view component
  | _ => .component component

def addComponent (c : Catalogue) (fact : NormalFact) : Catalogue :=
  match fact.component? with
  | none => c
  | some form =>
    let (c, component) := c.componentOf fact.name form
    c.addOrDiagnose fact.name (componentBody fact.kind form component)

/-- Adds the types of some kinds, kind by kind. -/
def addKinds (r : Review) (kinds : List Kind) (add : Catalogue → NormalFact → Catalogue)
    (c : Catalogue) : Catalogue :=
  (kinds.flatMap r.normalOfKind).foldl add c

/-! ## Checks on the whole -/

/-- What is wrong with one ancestor of a view. -/
def ancestorIssues (c : Catalogue) (view : ComponentType) (ancestor : TypeRef) : List Issue :=
  match c.resolve? ancestor with
  | none => []
  | some target =>
    match target.body.component? with
    | none => [.ancestorKind target.name]
    | some component =>
      (view.fieldNames.filter fun name => (component.field? name).isNone).map
        (.ancestorField · target.name)

/-- A view has only fields that each of its ancestors has. -/
def viewIssues (c : Catalogue) (t : NamedType) : List Diagnostic :=
  match t.body with
  | .view view => (view.ancestors.flatMap (c.ancestorIssues view)).map (⟨t.name, ·⟩)
  | _ => []

/-- A reference of a fact to a type with fields is one to a dimension. -/
def factIssues (c : Catalogue) (t : NamedType) : List Diagnostic :=
  match t.body with
  | .fact fact =>
    (fact.entity.component.fields.filter (·.kind = .reference)).filterMap fun field =>
      match c.resolve? field.type with
      | none => none
      | some target =>
        if target.body.isComponent && !target.body.isDimension then
          some ⟨t.name, .factReference field.name target.title⟩
        else none
  | _ => []

def diagnoseAll (c : Catalogue) (ds : List Diagnostic) : Catalogue :=
  { c with diagnostics := c.diagnostics ++ ds }

/-- The types of a model before relationships are inferred; its diagnostics are its problems. -/
def ofReview (r : Review) : Catalogue :=
  let c := basic.diagnoseAll
    (r.failures.map fun f => ⟨f.1.name, .failedCheck f.1.kind f.2⟩)
  let c := addKinds r Kind.restricted addRestriction c
  let c := addKinds r [.enumeration] addEnumeration c
  let c := addKinds r [.hierarchy] addHierarchy c
  let c := addKinds r Kind.componentFamily addComponent c
  let (c, dangling) := c.resolvePending
  let c := c.diagnoseAll (dangling.map fun d => ⟨d.owner, .undeclaredType d.place d.target⟩)
  let c := c.diagnoseAll (c.types.flatMap c.viewIssues)
  c.diagnoseAll (c.types.flatMap c.factIssues)

/-- Reads a model. What relationships are found wrong with is no problem. -/
def build (policy : Policy) (m : Model) : Except Error Catalogue :=
  let r := Review.ofModel policy.rules m
  let c := ofReview r
  if policy.strict && !c.diagnostics.isEmpty then
    .error (.modelProblems (c.diagnostics.map Diagnostic.text))
  else .ok { c.inferAll r.links with failOnOpen := policy.failOnOpen }

end Catalogue

end Cardfile
