import Cardfile.Error

/-! # Value sets

The values of an enumeration, or the paths of a hierarchy, in the order in which they came in.
A set that is finalized takes no more values.
-/

namespace Cardfile

structure ValueSet (α : Type) where
  values : List α
  nodup : values.Nodup
  finalized : Bool

namespace ValueSet

variable {α : Type} [DecidableEq α]

omit [DecidableEq α] in
def empty : ValueSet α := ⟨[], List.nodup_nil, false⟩

/-- Adds a value that is not there yet. -/
def insert (s : ValueSet α) (a : α) : ValueSet α :=
  if h : a ∈ s.values then s
  else
    { s with
      values := s.values ++ [a]
      nodup := List.nodup_append.2 ⟨s.nodup, by simp, fun b hb c hc e => h (by simp_all)⟩ }

omit [DecidableEq α] in
def finalize (s : ValueSet α) : ValueSet α := { s with finalized := true }

def contains (s : ValueSet α) (a : α) : Bool := decide (a ∈ s.values)

end ValueSet

abbrev Enumeration := ValueSet String

namespace Enumeration

def empty : Enumeration := ValueSet.empty

def add (e : Enumeration) (value : String) : Except Error Enumeration :=
  if e.finalized then .error (.closedEnumeration value) else .ok (e.insert value)

/-- All values; with `strict`, only of a set that takes no more. -/
def all (strict : Bool) (e : Enumeration) : Except Error (List String) :=
  if strict && !e.finalized then .error .openEnumeration else .ok e.values

end Enumeration

/-- Paths of labels, at most one label for each level. -/
structure Hierarchy where
  levels : List String
  paths : ValueSet (List String)

namespace Hierarchy

def empty (levels : List String) : Hierarchy := ⟨levels, ValueSet.empty⟩

def add (h : Hierarchy) (path : List String) : Except Error Hierarchy :=
  if h.paths.finalized then .error (.closedHierarchy path)
  else if path.isEmpty || h.levels.length < path.length then
    .error (.pathLength path h.levels.length)
  else .ok { h with paths := h.paths.insert path }

def finalize (h : Hierarchy) : Hierarchy := { h with paths := h.paths.finalize }

def all (strict : Bool) (h : Hierarchy) : Except Error (List (List String)) :=
  if strict && !h.paths.finalized then .error .openHierarchy else .ok h.paths.values

end Hierarchy

end Cardfile
