/-! # Dictionaries

Each key has one value, and the keys stand in the order in which they first came in.
-/

namespace Cardfile

structure Dict (κ ν : Type) where
  entries : List (κ × ν)
  nodup : (entries.map Prod.fst).Nodup

namespace Dict

variable {κ ν : Type} [DecidableEq κ]

def lookup (k : κ) : List (κ × ν) → Option ν
  | [] => none
  | (a, v) :: rest => if a = k then some v else lookup k rest

/-- Gives `k` the value `v` where `k` stands, at the end if it does not stand anywhere. -/
def assign (k : κ) (v : ν) : List (κ × ν) → List (κ × ν)
  | [] => [(k, v)]
  | (a, w) :: rest => if a = k then (k, v) :: rest else (a, w) :: assign k v rest

theorem keys_assign (k : κ) (v : ν) (l : List (κ × ν)) :
    (assign k v l).map Prod.fst =
      if k ∈ l.map Prod.fst then l.map Prod.fst else l.map Prod.fst ++ [k] := by
  induction l with
  | nil => simp [assign]
  | cons p rest ih =>
    obtain ⟨a, w⟩ := p
    by_cases h : a = k
    · subst h; simp [assign]
    · have h' : k ≠ a := fun e => h e.symm
      by_cases hk : k ∈ rest.map Prod.fst
      · simp only [assign, h, if_false, List.map_cons, ih, hk, if_true, List.mem_cons, or_true]
      · simp only [assign, h, if_false, List.map_cons, ih, hk, if_false, List.mem_cons, h',
          or_self, List.cons_append]

def empty : Dict κ ν := ⟨[], List.nodup_nil⟩

instance : Inhabited (Dict κ ν) := ⟨empty⟩

def keys (d : Dict κ ν) : List κ := d.entries.map Prod.fst

def values (d : Dict κ ν) : List ν := d.entries.map Prod.snd

def isEmpty (d : Dict κ ν) : Bool := d.entries.isEmpty

def size (d : Dict κ ν) : Nat := d.entries.length

def get? (d : Dict κ ν) (k : κ) : Option ν := lookup k d.entries

def contains (d : Dict κ ν) (k : κ) : Bool := (d.get? k).isSome

def insert (d : Dict κ ν) (k : κ) (v : ν) : Dict κ ν where
  entries := assign k v d.entries
  nodup := by
    rw [keys_assign]
    split
    · exact d.nodup
    · next h =>
      exact List.nodup_append.2 ⟨d.nodup, by simp, fun a ha b hb e => h (by simp_all)⟩

/-- Leaves a key that is there with the value that it has. -/
def insertNew (d : Dict κ ν) (k : κ) (v : ν) : Dict κ ν :=
  if d.contains k then d else d.insert k v

def erase (d : Dict κ ν) (k : κ) : Dict κ ν where
  entries := d.entries.filter (·.1 ≠ k)
  nodup := (List.filter_sublist.map Prod.fst).nodup d.nodup

def filter (d : Dict κ ν) (p : κ → ν → Bool) : Dict κ ν where
  entries := d.entries.filter fun e => p e.1 e.2
  nodup := (List.filter_sublist.map Prod.fst).nodup d.nodup

def map {μ : Type} (d : Dict κ ν) (f : κ → ν → μ) : Dict κ μ where
  entries := d.entries.map fun e => (e.1, f e.1 e.2)
  nodup := by simpa [Function.comp_def] using d.nodup

/-- Later entries of a list overwrite earlier ones with the same key. -/
def ofList (l : List (κ × ν)) : Dict κ ν := l.foldl (fun d e => d.insert e.1 e.2) empty

theorem lookup_assign (k : κ) (v : ν) (l : List (κ × ν)) (j : κ) :
    lookup j (assign k v l) = if k = j then some v else lookup j l := by
  induction l with
  | nil => simp [assign, lookup]
  | cons p rest ih =>
    obtain ⟨a, w⟩ := p
    by_cases h : a = k
    · subst h; by_cases hj : a = j <;> simp [assign, lookup, hj]
    · by_cases hj : a = j
      · subst hj; have : ¬ k = a := fun e => h e.symm
        simp [assign, lookup, h, this]
      · simp [assign, lookup, h, hj, ih]

@[simp] theorem get?_insert (d : Dict κ ν) (k : κ) (v : ν) (j : κ) :
    (d.insert k v).get? j = if k = j then some v else d.get? j :=
  lookup_assign k v d.entries j

@[simp] theorem get?_empty (k : κ) : (empty : Dict κ ν).get? k = none := rfl

theorem lookup_eq_none_iff {k : κ} {l : List (κ × ν)} :
    lookup k l = none ↔ k ∉ l.map Prod.fst := by
  induction l with
  | nil => simp [lookup]
  | cons p rest ih =>
    obtain ⟨a, v⟩ := p
    by_cases h : a = k
    · simp [lookup, h]
    · have h' : ¬ k = a := fun e => h e.symm
      simpa [lookup, h, h'] using ih

theorem get?_eq_none_iff {d : Dict κ ν} {k : κ} : d.get? k = none ↔ k ∉ d.keys :=
  lookup_eq_none_iff

theorem lookup_filter_ne (k : κ) (l : List (κ × ν)) (j : κ) :
    lookup j (l.filter (·.1 ≠ k)) = if k = j then none else lookup j l := by
  induction l with
  | nil => simp [lookup]
  | cons p rest ih =>
    obtain ⟨a, w⟩ := p
    by_cases h : a = k
    · subst h; by_cases hj : a = j
      · simpa [hj] using ih
      · simpa [hj, lookup] using ih
    · by_cases hj : a = j
      · subst hj; have : ¬ k = a := fun e => h e.symm
        simp [lookup, h, this]
      · simpa [lookup, h, hj] using ih

@[simp] theorem get?_erase (d : Dict κ ν) (k j : κ) :
    (d.erase k).get? j = if k = j then none else d.get? j :=
  lookup_filter_ne k d.entries j

end Dict

end Cardfile
