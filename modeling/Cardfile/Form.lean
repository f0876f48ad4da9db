import Cardfile.Calendar.Date
import Cardfile.Kind
import Cardfile.Real64

/-! # Normal forms

What a declaration says, whichever of the accepted spellings it uses.
-/

namespace Cardfile

/-- What a field holds: a basic type, another type by its name, or a collection. -/
inductive Shape
  | simple (host : Host)
  | reference (name : String)
  | collection (kind : CollectionKind) (element : String) (key : Option String)
  deriving DecidableEq

namespace Shape

/-- The name of the type that a field points at. -/
def target? : Shape → Option String
  | simple _ => none
  | reference name => some name
  | collection _ element _ => some element

def isCollection : Shape → Bool
  | collection _ _ _ => true
  | _ => false

end Shape

/-- A field; its shape is missing if it was declared without a type. -/
structure FieldForm where
  name : String
  shape : Option Shape
  otherName : Option String
  inverse : Option String
  owner : Bool
  measure : Option Measure
  deriving DecidableEq

structure ComponentForm where
  fields : List FieldForm
  naturalKey : List String
  ancestors : List String
  externalId : Bool
  deriving DecidableEq

/-- A tree of labels. -/
inductive Label
  | node (name : String) (children : List Label)

namespace Label

mutual

/-- The number of labels on the longest path from the root. -/
def depth : Label → Nat
  | node _ children => depthOfAll children + 1

/-- The depth of the deepest of some trees. -/
def depthOfAll : List Label → Nat
  | [] => 0
  | l :: rest => max l.depth (depthOfAll rest)

end

mutual

/-- The paths from the root to the leaves, left to right. -/
def leafPaths : Label → List (List String)
  | node name children =>
    match children with
    | [] => [[name]]
    | l :: rest => (l.leafPaths ++ leafPathsOfAll rest).map (name :: ·)

def leafPathsOfAll : List Label → List (List String)
  | [] => []
  | l :: rest => l.leafPaths ++ leafPathsOfAll rest

end

mutual

/-- The number of nodes. -/
def size : Label → Nat
  | node _ children => sizeOfAll children + 1

def sizeOfAll : List Label → Nat
  | [] => 0
  | l :: rest => l.size + sizeOfAll rest

end

theorem sizeOfAll_append (ls ls' : List Label) :
    sizeOfAll (ls ++ ls') = sizeOfAll ls + sizeOfAll ls' := by
  induction ls with
  | nil => simp [sizeOfAll]
  | cons l rest ih => simp [sizeOfAll, ih, Nat.add_assoc]

/-- Trees for the stack of a walk, which keeps them with their depth in the forest. -/
def atDepth (depth : Nat) (labels : List Label) : List (Label × Nat) := labels.map (·, depth)

theorem map_fst_atDepth (depth : Nat) (labels : List Label) :
    (atDepth depth labels).map Prod.fst = labels := by
  simp [atDepth, Function.comp_def]

/-- Goes on with the trees on a stack. `path` leads to the tree that was visited last, and `found`
are the paths to the leaves so far. -/
def walk (path : List String) (found : List (List String)) :
    List (Label × Nat) → List (List String)
  | [] => found
  | (node name children, depth) :: stack =>
    let path := path.take depth ++ [name]
    if children.isEmpty then walk path (found ++ [path]) stack
    else walk path found (atDepth (depth + 1) children ++ stack)
termination_by stack => sizeOfAll (stack.map Prod.fst)
decreasing_by
  · simp [sizeOfAll, size]
  · simp [sizeOfAll, size, sizeOfAll_append, map_fst_atDepth]

/-- The paths to the leaves of a forest, by one walk over it. -/
def paths (roots : List Label) : List (List String) := walk [] [] (atDepth 0 roots)

end Label

inductive Form
  | decimal (precision scale : Nat)
  | integerRange (min max : Int)
  | realRange (min max : Real64)
  | stringPattern (pattern : String) (maxLength : Option Nat)
  | dateRange (start stop : Date)
  | timeRange (start stop : TimeOfDay)
  | enumeration (values : List String) (finalized : Bool)
  | hierarchy (levels : List String) (labels : List Label) (finalized : Bool)
  | component (form : ComponentForm)

def Form.component? : Form → Option ComponentForm
  | component form => some form
  | _ => none

/-- A declaration in normal form. -/
structure NormalFact where
  name : String
  kind : Kind
  form : Form

namespace NormalFact

def host? (fact : NormalFact) : Option Host := fact.kind.host?

def component? (fact : NormalFact) : Option ComponentForm := fact.form.component?

end NormalFact

end Cardfile
