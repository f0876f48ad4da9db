/-! # Ordered sets

A finite set is the increasing list of its members, so equal sets are equal lists.
-/

namespace Cardfile

structure OrderedSet (α : Type) [LT α] where
  toList : List α
  increasing : toList.Pairwise (· < ·)

namespace OrderedSet

variable {α : Type} [LT α] [DecidableLT α]

def insertInto (x : α) : List α → List α
  | [] => [x]
  | y :: rest =>
    if x < y then x :: y :: rest
    else if y < x then y :: insertInto x rest
    else y :: rest

omit [DecidableLT α] in
theorem eq_of_toList_eq {s t : OrderedSet α} (h : s.toList = t.toList) : s = t := by
  cases s; cases t; simp_all

theorem mem_of_mem_insertInto {x z : α} {l : List α} (h : z ∈ insertInto x l) :
    z = x ∨ z ∈ l := by
  induction l with
  | nil => simpa [insertInto] using h
  | cons y rest ih =>
    simp only [insertInto] at h
    split at h
    · simpa using h
    · split at h
      · rcases List.mem_cons.1 h with rfl | h
        · simp
        · rcases ih h with rfl | h <;> simp [*]
      · exact .inr h

theorem pairwise_insertInto
    [Trans (· < · : α → α → Prop) (· < · : α → α → Prop) (· < · : α → α → Prop)]
    (x : α) {l : List α} (h : l.Pairwise (· < ·)) : (insertInto x l).Pairwise (· < ·) := by
  induction l with
  | nil => simp [insertInto]
  | cons y rest ih =>
    obtain ⟨hy, hr⟩ := List.pairwise_cons.1 h
    simp only [insertInto]
    split
    · next hxy =>
      refine List.pairwise_cons.2 ⟨fun z hz => ?_, h⟩
      rcases List.mem_cons.1 hz with rfl | hz
      · exact hxy
      · exact Trans.trans hxy (hy z hz)
    · split
      · next hyx =>
        refine List.pairwise_cons.2 ⟨fun z hz => ?_, ih hr⟩
        rcases mem_of_mem_insertInto hz with rfl | hz
        · exact hyx
        · exact hy z hz
      · exact h

variable [Trans (· < · : α → α → Prop) (· < · : α → α → Prop) (· < · : α → α → Prop)]

omit [DecidableLT α] [Trans (· < · : α → α → Prop) (· < · : α → α → Prop) (· < · : α → α → Prop)] in
def empty : OrderedSet α := ⟨[], .nil⟩

instance : Inhabited (OrderedSet α) := ⟨⟨[], .nil⟩⟩

def insert (s : OrderedSet α) (x : α) : OrderedSet α :=
  ⟨insertInto x s.toList, pairwise_insertInto x s.increasing⟩

def insertAll (s : OrderedSet α) (xs : List α) : OrderedSet α := xs.foldl insert s

def ofList (xs : List α) : OrderedSet α := insertAll ⟨[], .nil⟩ xs

def union (s t : OrderedSet α) : OrderedSet α := s.insertAll t.toList

def erase [DecidableEq α] (s : OrderedSet α) (x : α) : OrderedSet α :=
  ⟨s.toList.filter (· ≠ x), s.increasing.filter _⟩

def contains [DecidableEq α] (s : OrderedSet α) (x : α) : Bool := decide (x ∈ s.toList)

def isEmpty (s : OrderedSet α) : Bool := s.toList.isEmpty

/-- Whether the two sets have a member in common. -/
def meets [DecidableEq α] (s t : OrderedSet α) : Bool := s.toList.any t.contains

end OrderedSet

instance transStringLt : Trans (· < · : String → String → Prop) (· < · : String → String → Prop)
    (· < · : String → String → Prop) := ⟨String.lt_trans⟩

instance transNatLt : Trans (· < · : Nat → Nat → Prop) (· < · : Nat → Nat → Prop)
    (· < · : Nat → Nat → Prop) := ⟨Nat.lt_trans⟩

/-- The distinct words that analysis gets from a text. -/
abbrev TermSet := OrderedSet String

end Cardfile
