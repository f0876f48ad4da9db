import Cardfile.Dict
import Cardfile.OrderedSet

/-! # Postings

For each term the slots that hold it. A term whose last slot is taken out stays in the list, with
no slots, until the list is compacted.
-/

namespace Cardfile

/-- Slots are counted on without end, where a counter of 32 bits is used up after `2 ^ 32` keys. -/
abbrev Slot := Nat

abbrev SlotSet := OrderedSet Slot

structure Postings where
  slots : Dict String SlotSet

namespace Postings

def empty : Postings := ⟨.empty⟩

instance : Inhabited Postings := ⟨empty⟩

def termCount (p : Postings) : Nat := p.slots.size

def slotsOf (p : Postings) (term : String) : SlotSet := (p.slots.get? term).getD .empty

def insertTerm (slot : Slot) (p : Postings) (term : String) : Postings :=
  ⟨p.slots.insert term ((p.slotsOf term).insert slot)⟩

def insert (p : Postings) (slot : Slot) (terms : TermSet) : Postings :=
  terms.toList.foldl (insertTerm slot) p

def eraseTerm (slot : Slot) (p : Postings) (term : String) : Postings :=
  match p.slots.get? term with
  | some slots => ⟨p.slots.insert term (slots.erase slot)⟩
  | none => p

def erase (p : Postings) (slot : Slot) (terms : TermSet) : Postings :=
  terms.toList.foldl (eraseTerm slot) p

/-- The slots that hold a term of the query. -/
def candidates (p : Postings) (query : List TermSet) : SlotSet :=
  (query.flatMap OrderedSet.toList).foldl (fun found term => found.union (p.slotsOf term)) .empty

/-- Without the terms that no slot holds. -/
def compact (p : Postings) : Postings := ⟨p.slots.filter fun _ slots => !slots.isEmpty⟩

end Postings

end Cardfile
