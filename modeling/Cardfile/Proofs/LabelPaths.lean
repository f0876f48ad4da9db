import Cardfile.Form
import Mathlib.Data.List.Basic
import Mathlib.Data.List.Flatten

/-! # Paths through label trees

The walk over a forest keeps one path, which it cuts back to the depth of the tree that it visits
next. It finds the paths from the roots to the leaves as the recursion over the trees gives them.
-/

namespace Cardfile.Label

mutual

/-- All nodes of a tree, each before those below it, left to right. -/
def nodes : Label → List Label
  | node name children => node name children :: nodesOfAll children

def nodesOfAll : List Label → List Label
  | [] => []
  | l :: rest => l.nodes ++ nodesOfAll rest

end

/-- The name and whether it stands at a leaf. -/
def name : Label → String
  | node name _ => name

def isLeaf : Label → Bool
  | node _ children => children.isEmpty

variable {name : String} {children labels roots : List Label} {label : Label}
  {path : List String} {found : List (List String)} {stack : List (Label × Nat)} {depth : Nat}

section Recursion

theorem leafPathsOfAll_eq (labels : List Label) :
    leafPathsOfAll labels = labels.flatMap leafPaths := by
  induction labels with
  | nil => simp [leafPathsOfAll]
  | cons label rest ih => simp [leafPathsOfAll, ih]

theorem leafPaths_of_isEmpty (h : children.isEmpty = true) :
    (node name children).leafPaths = [[name]] := by
  rw [List.isEmpty_iff.1 h, leafPaths]

theorem leafPaths_of_not_isEmpty (h : children.isEmpty = false) :
    (node name children).leafPaths = (leafPathsOfAll children).map (name :: ·) := by
  cases children with
  | nil => cases h
  | cons first rest => rw [leafPaths, leafPathsOfAll]

end Recursion

section Walk

/-- The path reaches down to the trees on the stack, and none of them stands below the one before
it. -/
structure Reaches (path : List String) (stack : List (Label × Nat)) : Prop where
  bound : ∀ entry ∈ stack, entry.2 ≤ path.length
  descending : stack.Pairwise fun entry later => later.2 ≤ entry.2

/-- After a visit the path still agrees with the old one as far as the rest of the stack needs. -/
theorem Reaches.visit (h : Reaches path ((label, depth) :: stack)) (name : String) :
    Reaches (path.take depth ++ [name]) stack ∧
      (path.take depth ++ [name]).length = depth + 1 ∧
        ∀ entry ∈ stack, (path.take depth ++ [name]).take entry.2 = path.take entry.2 := by
  have hdepth : depth ≤ path.length := h.bound _ List.mem_cons_self
  obtain ⟨hbelow, hrest⟩ := List.pairwise_cons.1 h.descending
  have hlength : (path.take depth).length = depth := List.length_take_of_le hdepth
  have hsum : (path.take depth ++ [name]).length = depth + 1 := by
    rw [List.length_append, hlength, List.length_singleton]
  refine ⟨⟨fun entry hm => ?_, hrest⟩, hsum, fun entry hm => ?_⟩
  · have hle : entry.2 ≤ depth := hbelow entry hm
    omega
  · have hle : entry.2 ≤ depth := hbelow entry hm
    rw [List.take_append_of_le_length (by omega), List.take_take, Nat.min_eq_left hle]

theorem Reaches.push (h : Reaches path stack) (hd : path.length = depth + 1)
    (hs : ∀ entry ∈ stack, entry.2 ≤ depth) (children : List Label) :
    Reaches path (atDepth (depth + 1) children ++ stack) where
  bound entry hm := by
    rcases List.mem_append.1 hm with hm | hm
    · obtain ⟨child, -, rfl⟩ := List.mem_map.1 hm
      exact Nat.le_of_eq hd.symm
    · exact h.bound entry hm
  descending := by
    refine List.pairwise_append.2 ⟨?_, h.descending, ?_⟩
    · exact List.pairwise_map.2 (List.pairwise_of_forall fun _ _ => Nat.le_refl _)
    · intro entry hm later hl
      obtain ⟨child, -, rfl⟩ := List.mem_map.1 hm
      exact Nat.le_succ_of_le (hs later hl)

/-- What a walk still has to find: the paths through each tree on the stack, below the part of the
path that leads to it. -/
def ahead (path : List String) (stack : List (Label × Nat)) : List (List String) :=
  stack.flatMap fun entry => entry.1.leafPaths.map (path.take entry.2 ++ ·)

theorem ahead_congr {path' : List String}
    (h : ∀ entry ∈ stack, path.take entry.2 = path'.take entry.2) :
    ahead path stack = ahead path' stack :=
  List.flatMap_congr fun entry hm => by rw [h entry hm]

theorem walk_eq (h : Reaches path stack) : walk path found stack = found ++ ahead path stack := by
  induction path, found, stack using walk.induct with
  | case1 path found => simp [walk, ahead]
  | case2 path found name children depth stack next hleaf ih =>
    obtain ⟨hreaches, -, hagree⟩ := h.visit name
    have hahead : ahead next stack = ahead path stack := ahead_congr hagree
    rw [walk, if_pos hleaf, ih hreaches, hahead]
    simp [ahead, leafPaths_of_isEmpty hleaf, next]
  | case3 path found name children depth stack next hinner ih =>
    obtain ⟨hreaches, hlength, hagree⟩ := h.visit name
    -- the children go deeper than all that waits below them on the stack
    have hbelow := (List.pairwise_cons.1 h.descending).1
    have hahead : ahead next stack = ahead path stack := ahead_congr hagree
    have hkept : next.take (depth + 1) = next := List.take_of_length_le (Nat.le_of_eq hlength)
    rw [walk, if_neg hinner, ih (hreaches.push hlength hbelow children)]
    have hchildren : ahead next (atDepth (depth + 1) children) =
        (node name children).leafPaths.map (path.take depth ++ ·) := by
      rw [leafPaths_of_not_isEmpty (Bool.eq_false_iff.2 hinner), leafPathsOfAll_eq]
      simp [ahead, atDepth, hkept, next, List.flatMap_map, List.map_flatMap, Function.comp_def]
    unfold ahead at hahead hchildren ⊢
    rw [List.flatMap_append, hchildren, hahead, List.flatMap_cons]

/-- The walk finds the paths of the recursion, in the same order. -/
theorem paths_eq (roots : List Label) : paths roots = leafPathsOfAll roots := by
  have hstart : Reaches [] (atDepth 0 roots) := by
    refine ⟨fun entry hm => ?_, ?_⟩
    · obtain ⟨root, -, rfl⟩ := List.mem_map.1 hm
      exact Nat.le_refl _
    · exact List.pairwise_map.2 (List.pairwise_of_forall fun _ _ => Nat.le_refl _)
  rw [paths, walk_eq hstart, leafPathsOfAll_eq]
  simp [ahead, atDepth, List.flatMap_map]

end Walk

section Leaves

theorem ne_nil_of_mem_leafPaths (h : path ∈ label.leafPaths) : path ≠ [] := by
  obtain ⟨name, children⟩ := label
  cases hc : children.isEmpty with
  | true =>
    rw [leafPaths_of_isEmpty hc] at h
    rw [List.mem_singleton.1 h]
    exact List.cons_ne_nil _ _
  | false =>
    rw [leafPaths_of_not_isEmpty hc] at h
    obtain ⟨rest, -, rfl⟩ := List.mem_map.1 h
    exact List.cons_ne_nil _ _

theorem ne_nil_of_mem_leafPathsOfAll (h : path ∈ leafPathsOfAll labels) : path ≠ [] := by
  rw [leafPathsOfAll_eq] at h
  obtain ⟨label, -, hp⟩ := List.mem_flatMap.1 h
  exact ne_nil_of_mem_leafPaths hp

theorem map_getLast?_cons (h : ∀ path ∈ found, path ≠ []) (name : String) :
    (found.map (name :: ·)).map List.getLast? = found.map List.getLast? := by
  rw [List.map_map]
  refine List.map_congr_left fun path hm => ?_
  cases path with
  | nil => exact absurd rfl (h [] hm)
  | cons first rest => simp

mutual

/-- The paths of a tree end at its leaves, one at each, left to right. -/
theorem map_getLast?_leafPaths : ∀ label : Label, label.leafPaths.map List.getLast? =
    (label.nodes.filter isLeaf).map fun leaf => some leaf.name
  | node name children => by
    have ih := map_getLast?_leafPathsOfAll children
    cases hc : children.isEmpty with
    | true =>
      rw [leafPaths_of_isEmpty hc, nodes, List.isEmpty_iff.1 hc, nodesOfAll]
      rfl
    | false =>
      have hinner : ¬ (node name children).isLeaf = true := Bool.eq_false_iff.1 hc
      rw [leafPaths_of_not_isEmpty hc, map_getLast?_cons fun _ => ne_nil_of_mem_leafPathsOfAll,
        nodes, List.filter_cons_of_neg hinner, ih]

theorem map_getLast?_leafPathsOfAll : ∀ labels : List Label,
    (leafPathsOfAll labels).map List.getLast? =
      ((nodesOfAll labels).filter isLeaf).map fun leaf => some leaf.name
  | [] => rfl
  | label :: rest => by
    have hfirst := map_getLast?_leafPaths label
    have hrest := map_getLast?_leafPathsOfAll rest
    rw [leafPathsOfAll, nodesOfAll, List.map_append, List.filter_append, List.map_append, hfirst,
      hrest]

end

mutual

theorem length_le_depth : ∀ label : Label, ∀ path ∈ label.leafPaths, path.length ≤ label.depth
  | node name children, path, hm => by
    have ih := length_le_depthOfAll children
    rw [depth]
    cases hc : children.isEmpty with
    | true =>
      rw [leafPaths_of_isEmpty hc] at hm
      rw [List.mem_singleton.1 hm]
      exact Nat.le_add_left 1 _
    | false =>
      rw [leafPaths_of_not_isEmpty hc] at hm
      obtain ⟨rest, hr, rfl⟩ := List.mem_map.1 hm
      exact Nat.succ_le_succ (ih rest hr)

theorem length_le_depthOfAll : ∀ labels : List Label, ∀ path ∈ leafPathsOfAll labels,
    path.length ≤ depthOfAll labels
  | [], path, hm => by
    rw [leafPathsOfAll] at hm
    cases hm
  | label :: rest, path, hm => by
    rw [leafPathsOfAll] at hm
    rw [depthOfAll]
    rcases List.mem_append.1 hm with hm | hm
    · exact Nat.le_trans (length_le_depth label path hm) (Nat.le_max_left _ _)
    · exact Nat.le_trans (length_le_depthOfAll rest path hm) (Nat.le_max_right _ _)

end

mutual

theorem exists_length_eq_depth : ∀ label : Label, ∃ path ∈ label.leafPaths,
    path.length = label.depth
  | node name children => by
    rw [depth]
    cases hc : children.isEmpty with
    | true =>
      refine ⟨[name], ?_, ?_⟩
      · rw [leafPaths_of_isEmpty hc]
        exact List.mem_cons_self
      · rw [List.isEmpty_iff.1 hc, depthOfAll]
        rfl
    | false =>
      obtain ⟨path, hm, hlength⟩ := exists_length_eq_depthOfAll children (by simpa using hc)
      refine ⟨name :: path, ?_, congrArg (· + 1) hlength⟩
      rw [leafPaths_of_not_isEmpty hc]
      exact List.mem_map_of_mem hm

theorem exists_length_eq_depthOfAll : ∀ labels : List Label, labels ≠ [] →
    ∃ path ∈ leafPathsOfAll labels, path.length = depthOfAll labels
  | [], h => absurd rfl h
  | label :: rest, _ => by
    obtain ⟨first, hfirst, hdepth⟩ := exists_length_eq_depth label
    rw [leafPathsOfAll, depthOfAll]
    by_cases hle : depthOfAll rest ≤ label.depth
    · exact ⟨first, List.mem_append_left _ hfirst, by rw [hdepth, Nat.max_eq_left hle]⟩
    · have hlt : label.depth ≤ depthOfAll rest := by omega
      have hne : rest ≠ [] := by
        rintro rfl
        exact hle (Nat.zero_le _)
      obtain ⟨path, hm, hlength⟩ := exists_length_eq_depthOfAll rest hne
      exact ⟨path, List.mem_append_right _ hm, by rw [hlength, Nat.max_eq_right hlt]⟩

end

/-- A forest has as many paths as leaves. -/
theorem length_leafPathsOfAll (labels : List Label) :
    (leafPathsOfAll labels).length = (nodesOfAll labels).countP isLeaf := by
  have hlast := congrArg List.length (map_getLast?_leafPathsOfAll labels)
  rwa [List.length_map, List.length_map, ← List.countP_eq_length_filter] at hlast

end Leaves
end Cardfile.Label
