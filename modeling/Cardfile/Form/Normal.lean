import Cardfile.Declaration
import Cardfile.Flaw
import Cardfile.Form

/-! # Normalization

Each kind of declaration has a few spellings, which come to the same form.
-/

namespace Cardfile

/-- A declaration of a known kind. -/
structure Fact where
  name : String
  kind : Kind
  properties : Properties

/-- The first reason against a form, or the form. -/
abbrev Normalized := Except Flaw

def orFlaw {α : Type} (flaw : Flaw) : Option α → Normalized α
  | some a => .ok a
  | none => .error flaw

/-- A count below `2 ^ 32`. -/
def countOf (what : String) (n : Int) : Normalized Nat :=
  if 0 ≤ n && n < 0x100000000 then .ok n.toNat else .error (.notCount what n)

/-- Bounds are two properties, or a text with two points between the bounds. -/
def boundsOf {α : Type} (read : Value → Option α) (parse : List Char → Option α)
    (p : Properties) : Normalized (α × α) :=
  let pair (low high : Value) : Normalized (α × α) :=
    match read low, read high with
    | some a, some b => .ok (a, b)
    | _, _ => .error .badBounds
  match p.get? "min", p.get? "max" with
  | some low, some high => pair low high
  | _, _ =>
    match p.get? "lower", p.get? "upper" with
    | some low, some high => pair low high
    | _, _ =>
      match p.text? "range" with
      | none => .error (.missing "bounds")
      | some range =>
        match Text.splitOnce? ['.', '.'] range.toList with
        | none => .error (.badRange range)
        | some (low, high) =>
          match parse (Text.trimChars low), parse (Text.trimChars high) with
          | some a, some b => .ok (a, b)
          | _, _ => .error (.badRange range)

def dateOf (text : String) : Normalized Date :=
  match Date.ofText (Text.trimChars text.toList) with
  | .ok date => .ok date
  | .error fault => .error (.badDate text fault)

def timeOf (text : String) : Normalized TimeOfDay :=
  let trimmed := Text.trim text
  match TimeOfDay.ofShortText trimmed.toList with
  | .ok time => .ok time
  | .error fault => .error (.badTime trimmed fault)

def decimalForm (p : Properties) : Normalized Form := do
  let precision ←
    orFlaw (.missing "precision") (p.first? Properties.integer? ["precision", "digits"])
  let scale := (p.first? Properties.integer? ["scale", "fraction"]).getD 0
  pure (.decimal (← countOf "precision" precision) (← countOf "scale" scale))

def patternForm (p : Properties) : Normalized Form := do
  let pattern ← orFlaw (.missing "pattern") (p.first? Properties.text? ["pattern", "regex"])
  match p.get? "max_length" with
  | none => pure (.stringPattern pattern none)
  | some value => do
    let n ← orFlaw .badLength value.integer?
    pure (.stringPattern pattern (some (← countOf "max_length" n)))

def dateForm (p : Properties) : Normalized Form := do
  let start ← orFlaw (.missing "from date") (p.first? Properties.text? ["from", "min"])
  let start ← dateOf start
  let stop ← orFlaw (.missing "to date") (p.first? Properties.text? ["to", "max"])
  pure (.dateRange start (← dateOf stop))

def timeForm (p : Properties) : Normalized Form := do
  let start ← orFlaw (.missing "from time") (p.first? Properties.text? ["from", "min"])
  let start ← timeOf start
  let stop ← orFlaw (.missing "to time") (p.first? Properties.text? ["to", "max"])
  pure (.timeRange start (← timeOf stop))

/-! ## Hierarchies -/

/-- The name of a label node is its label or else its name. -/
def labelName? (p : Properties) : Option String := p.first? Properties.text? ["label", "name"]

mutual

/-- A label is a text, or a node with a name and possibly children. -/
def labelOf : Value → Normalized Label
  | .text name => .ok (.node name [])
  | .node _ properties =>
    match labelName? properties with
    | none => .error .namelessLabel
    | some name => (childrenOf name properties).map (.node name)
  | _ => .error .notLabel

/-- The labels under the property for children, wherever in the list it stands. -/
def childrenOf (name : String) : List (String × Value) → Normalized (List Label)
  | [] => .ok []
  | (property, value) :: rest =>
    if property = "children" then
      match value with
      | .list items => labelsOf items
      | _ => .error (.notList ("children of " ++ name))
    else childrenOf name rest

def labelsOf : List Value → Normalized (List Label)
  | [] => .ok []
  | value :: rest => do pure ((← labelOf value) :: (← labelsOf rest))

end

def enumerationForm (p : Properties) : Normalized Form := do
  pure (.enumeration (← orFlaw (.notNames "values") (p.names? "values")) (p.flag "finalized"))

def hierarchyForm (p : Properties) : Normalized Form := do
  let levels ← orFlaw (.notNames "levels") (p.names? "levels")
  let labels ← match p.get? "labels" with
    | none => .ok []
    | some (.list items) => labelsOf items
    | some _ => .error (.notList "labels")
  pure (.hierarchy levels labels (p.flag "finalized"))

/-! ## Components -/

def shapeOf (name : String) (p : Properties) : Normalized (Option Shape) :=
  match p.text? "type" with
  | none => .ok none
  | some type =>
    match p.text? "collection" with
    | none =>
      match Host.ofName? type with
      | some host => .ok (some (.simple host))
      | none => .ok (some (.reference type))
    | some kindName => do
      let kind ← orFlaw (.unknownCollection name kindName) (CollectionKind.ofName? kindName)
      let key := p.text? "key"
      if kind = .map && key.isNone then throw (.keylessMap name)
      pure (some (.collection kind type key))

def measureOf (name : String) (p : Properties) : Normalized (Option Measure) :=
  match p.text? "measure" with
  | none => .ok none
  | some text => (orFlaw (.unknownMeasure name text) (Measure.ofName? text)).map some

def fieldOf (value : Value) : Normalized FieldForm := do
  let field ← orFlaw .notField value.declaration?
  let p := field.properties
  let name ← orFlaw .namelessField field.name?
  let shape ← shapeOf name p
  let measure ← measureOf name p
  pure {
    name, shape, measure
    otherName := p.text? "alias"
    inverse := p.text? "inverse"
    owner := p.flag "owner" }

/-- The names of the fields that are marked as part of the natural key. -/
def flaggedKeys (p : Properties) : List String :=
  ((p.nodes "fields").filter (·.properties.flag "natural_key")).filterMap Declaration.name?

/-- Adds a name that is not there yet. -/
def addName (names : List String) (name : String) : List String :=
  if names.contains name then names else names ++ [name]

/-- The natural key is a list of names, followed by the marked fields that it leaves out. -/
def naturalKeyOf (p : Properties) : List String :=
  (flaggedKeys p).foldl addName ((p.names? "natural_key").getD [])

def componentForm (p : Properties) : Normalized Form := do
  let fields ← match p.get? "fields" with
    | none => .ok []
    | some (.list items) => items.mapM fieldOf
    | some _ => .error (.notList "fields")
  pure (.component {
    fields
    naturalKey := naturalKeyOf p
    ancestors := (p.first? Properties.names? ["ancestors", "view_of"]).getD []
    externalId := p.flag "external_id" || p.flag "supports_external_id" })

def formOf (kind : Kind) (p : Properties) : Normalized Form :=
  match kind with
  | .decimal => decimalForm p
  | .integerRange => (boundsOf Value.integer? int64OfText? p).map fun b => .integerRange b.1 b.2
  | .realRange => (boundsOf Value.real? Real64.ofText? p).map fun b => .realRange b.1 b.2
  | .stringPattern => patternForm p
  | .dateRange => dateForm p
  | .timeRange => timeForm p
  | .enumeration => enumerationForm p
  | .hierarchy => hierarchyForm p
  | .component => componentForm p
  | .entity => componentForm p
  | .dimension => componentForm p
  | .fact => componentForm p
  | .view => componentForm p

/-- A declaration has to have a name that is not blank. -/
def Fact.normalize (fact : Fact) : Normalized NormalFact :=
  if (Text.trim fact.name).isEmpty then .error (.nameless fact.kind)
  else (formOf fact.kind fact.properties).map (⟨fact.name, fact.kind, ·⟩)

end Cardfile
