import Cardfile.Config
import Cardfile.Flaw
import Cardfile.Pattern.Meaning

/-! # Rule bases

A rule base names the rules for each kind of declaration. Two are built in, others are read from
files.
-/

namespace Cardfile

namespace Rule

/-- A flaw unless a condition holds. -/
def require (condition : Bool) (flaw : Flaw) : Except Flaw Unit :=
  if condition then .ok () else .error flaw

/-- The first name that occurs before in the list. -/
def firstRepeated? (seen : List String) : List String → Option String
  | [] => none
  | name :: rest => if seen.contains name then some name else firstRepeated? (name :: seen) rest

def checkNames (component : ComponentForm) : Except Flaw Unit :=
  match firstRepeated? [] (component.fields.map FieldForm.name) with
  | some name => .error (.repeatedField name)
  | none => .ok ()

def checkTypes (component : ComponentForm) : Except Flaw Unit :=
  match component.fields.find? (·.shape.isNone) with
  | some field => .error (.untypedField field.name)
  | none => .ok ()

/-- A rule holds of every form that it does not speak of. -/
def check (rule : Rule) (form : Form) : Except Flaw Unit :=
  match rule, form with
  | .boundsOrdered, .integerRange min max => require (min ≤ max) (.violated rule)
  | .boundsOrdered, .realRange min max => require (min.le max) (.violated rule)
  | .boundsOrdered, .dateRange start stop => require (start.le stop) (.violated rule)
  | .boundsOrdered, .timeRange start stop => require (start.le stop) (.violated rule)
  | .patternCompiles, .stringPattern pattern _ =>
    require (Pattern.ofText? pattern).isSome .badPattern
  | .precisionCoversScale, .decimal precision scale =>
    require (0 < precision && scale ≤ precision) (.violated rule)
  | .levelsPresent, .hierarchy levels _ _ => require (!levels.isEmpty) (.violated rule)
  | .labelDepthWithinLevels, .hierarchy levels labels _ =>
    require (Label.depthOfAll labels ≤ levels.length) (.violated rule)
  | .fieldNamesUnique, .component component => checkNames component
  | .fieldsTyped, .component component => checkTypes component
  | _, _ => .ok ()

end Rule

structure RuleBase where
  name : String
  rulesFor : Kind → List Rule

namespace RuleBase

def ofRules (name : String) (rules : List Rule) : RuleBase :=
  ⟨name, fun kind => rules.filter (·.appliesTo kind)⟩

def default : RuleBase := ofRules "default" Rule.all

/-- Field names have to be unique even here. -/
def permissive : RuleBase := ofRules "permissive" [.fieldNamesUnique]

def ofName (name : String) : Except Error RuleBase :=
  if name = "default" then .ok default
  else if name = "permissive" then .ok permissive
  else .error (.unknownRuleBase name)

def ruleOf (kind : Kind) (name : String) : Except Error Rule :=
  match Rule.ofName? name with
  | none => .error (.unknownRule name)
  | some rule => if rule.appliesTo kind then .ok rule else .error (.misplacedRule name kind)

def entryOf (entry : String × List String) : Except Error (Kind × List Rule) :=
  match Kind.ofName? entry.1 with
  | none => .error (.unknownRuleKind entry.1)
  | some kind => do pure (kind, ← entry.2.mapM (ruleOf kind))

/-- The name and the lists of rule names by kind that a tree gives. -/
def entriesOfJson? (j : Json) : Option (String × List (String × List String)) := do
  match ← j.fields? Json.maxDepth true ["name", "rules"] with
  | [some name, some rules] => do
    let members ← rules.members? (Json.maxDepth - 1)
    let entries ← members.mapM fun m => do pure (m.1, ← m.2.names? (Json.maxDepth - 2))
    pure (← name.text?, (Dict.ofList entries).entries)
  | _ => none

/-- Kinds are looked at in the order of their names, so that the first mistake is well defined. -/
def ofText (text : String) : Except Error RuleBase :=
  match (Json.ofText? text).bind entriesOfJson? with
  | none => .error .malformedRuleBase
  | some (name, entries) => do
    let rules ← (entries.mergeSort fun a b => a.1 ≤ b.1).mapM entryOf
    pure ⟨name, fun kind => (Dict.lookup kind rules).getD []⟩

def ofFile (path : String) (contents : Contents) : Except Error RuleBase :=
  match contents with
  | some text => ofText text
  | none => .error (.unreadableRuleBase path)

/-- The first flaw that the rules for its kind find. -/
def check (base : RuleBase) (fact : NormalFact) : Except Flaw Unit :=
  (base.rulesFor fact.kind).forM (·.check fact.form)

end RuleBase

end Cardfile
