import Cardfile.Analysis.Analyzer
import Cardfile.Card
import Cardfile.Record

/-! # Mappings

A mapping says which fields of the records of a type are indexed and which field of the summary
holds the rating. Types inherit mappings: those that a record reports as its supertypes come
first, then those declared for the types met on the way, nearest first.
-/

namespace Cardfile

structure Mapping where
  fields : List String
  ratingField : Option String
  deriving DecidableEq

/-- Mappings of record types, and the supertypes declared for them in order of declaration. -/
structure Mappings where
  mappings : Dict String Mapping
  supertypes : Dict String (List String)

namespace Mappings

def empty : Mappings := ⟨.empty, .empty⟩

instance : Inhabited Mappings := ⟨empty⟩

def isEmpty (m : Mappings) : Bool := m.mappings.isEmpty

def get? (m : Mappings) (type : String) : Option Mapping := m.mappings.get? type

def register (m : Mappings) (type : String) (mapping : Mapping) : Mappings :=
  { m with mappings := m.mappings.insert type mapping }

def supertypesOf (m : Mappings) (type : String) : List String :=
  (m.supertypes.get? type).getD []

def declareSupertype (m : Mappings) (type supertype : String) : Mappings :=
  { m with supertypes := m.supertypes.insert type (m.supertypesOf type ++ [supertype]) }

/-- The types with declared supertypes that are not among `seen`. -/
def unseen (m : Mappings) (seen : List String) : List String :=
  m.supertypes.keys.filter (· ∉ seen)

theorem unseen_cons (m : Mappings) (seen : List String) (type : String) :
    m.unseen (type :: seen) = (m.unseen seen).filter (· ≠ type) := by
  simp only [unseen, List.filter_filter]
  congr 1
  funext t
  simp only [List.mem_cons, not_or, Bool.decide_and, ne_eq]

theorem length_unseen_cons_le (m : Mappings) (seen : List String) (type : String) :
    (m.unseen (type :: seen)).length ≤ (m.unseen seen).length := by
  rw [unseen_cons]
  exact List.length_filter_le _ _

theorem length_unseen_cons_lt {m : Mappings} {seen : List String} {type : String}
    (hs : type ∉ seen) (hm : m.supertypesOf type ≠ []) :
    (m.unseen (type :: seen)).length < (m.unseen seen).length := by
  have hk : type ∈ m.supertypes.keys := by
    refine Decidable.byContradiction fun h => hm ?_
    simp [supertypesOf, Dict.get?_eq_none_iff.2 h]
  rw [unseen_cons]
  exact List.length_filter_lt_length_iff_exists.2 ⟨type, by simpa [unseen] using ⟨hk, hs⟩, by simp⟩

/-- The types that stand in line and those above them, each once, in the order in which they are
met. -/
def lineage (m : Mappings) (seen : List String) : List String → List String
  | [] => []
  | type :: rest =>
    if type ∈ seen then m.lineage seen rest
    else type :: m.lineage (type :: seen) (rest ++ m.supertypesOf type)
termination_by line => ((m.unseen seen).length, line.length)
decreasing_by
  · exact Prod.Lex.right _ (by simp)
  · by_cases h : m.supertypesOf type = []
    · rcases Nat.lt_or_eq_of_le (m.length_unseen_cons_le seen type) with hl | he
      · exact Prod.Lex.left _ _ hl
      · rw [he, h]
        exact Prod.Lex.right _ (by simp)
    · exact Prod.Lex.left _ _ (length_unseen_cons_lt (by assumption) h)

/-- Fields of several mappings are put together, the first of their rating fields counts. -/
def compose (found : List Mapping) : Mapping :=
  ⟨(found.flatMap Mapping.fields).eraseDups, found.findSome? Mapping.ratingField⟩

def resolve (m : Mappings) (r : Record) : Except Error Mapping :=
  match (m.lineage [] (r.type :: r.supertypes)).filterMap m.get? with
  | [] => .error (.noMapping r.type)
  | found => .ok (compose found)

/-- The texts of the fields in order; each field has to be there. -/
def texts (r : Record) : List String → Except Error (List String)
  | [] => .ok []
  | name :: rest =>
    match r.field? name with
    | none => .error (.absentField name r.type)
    | some v => do pure (v.indexText :: (← texts r rest))

def extract (m : Mappings) (a : Analyzer) (r : Record) : Except Error Extract := do
  let mapping ← m.resolve r
  let found ← texts r mapping.fields
  pure ⟨a.terms (String.intercalate " " found), mapping.ratingField⟩

end Mappings

end Cardfile
