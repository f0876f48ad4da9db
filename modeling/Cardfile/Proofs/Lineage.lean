import Cardfile.Mapping
import Cardfile.Proofs.Collections
import Mathlib.Logic.Function.Iterate

/-! # The types above a record

Declared supertypes make a graph in which anything may point anywhere. The walk over it takes the
types that stand in line one by one, and each type it has not met before puts its supertypes at the
end of the line. So it meets every type that can be reached, those that fewer edges lead to first,
and it ends when each declared edge has been followed once.
-/

namespace Cardfile.Mappings

variable {m : Mappings} {roots : List String} {type above : String} {n d : Nat}

/-- A type that a number of declared edges leads to from the roots. -/
inductive Climbs (m : Mappings) (roots : List String) : Nat → String → Prop
  | root {type : String} : type ∈ roots → Climbs m roots 0 type
  | up {n : Nat} {type above : String} :
      Climbs m roots n type → above ∈ m.supertypesOf type → Climbs m roots (n + 1) above

/-- The least number of declared edges that lead to a type from the roots. -/
def Distance (m : Mappings) (roots : List String) (type : String) (d : Nat) : Prop :=
  m.Climbs roots d type ∧ ∀ n, m.Climbs roots n type → d ≤ n

def edgeCount (m : Mappings) : Nat := m.supertypes.values.flatten.length

/-- The types that have been met, the last one first, and those that stand in line, each with the
number of edges over which it was come to. -/
structure Walk where
  met : List (String × Nat)
  line : List (String × Nat)

namespace Walk

def start (roots : List String) : Walk := ⟨[], roots.map (·, 0)⟩

/-- Takes the first type out of the line. -/
def step (m : Mappings) (w : Walk) : Walk :=
  match w.line with
  | [] => w
  | (type, d) :: rest =>
    if type ∈ w.met.map Prod.fst then { w with line := rest }
    else ⟨(type, d) :: w.met, rest ++ (m.supertypesOf type).map (·, d + 1)⟩

/-- All entries in the order in which they came in. -/
def entries (w : Walk) : List (String × Nat) := w.met.reverse ++ w.line

/-- The types that have been met, in order. -/
def types (w : Walk) : List String := w.met.reverse.map Prod.fst

/-- How many steps the walk can still take. -/
def ahead (m : Mappings) (w : Walk) : Nat :=
  w.line.length + ((m.unseen (w.met.map Prod.fst)).flatMap m.supertypesOf).length

variable {w : Walk} {rest : List (String × Nat)}

section Step

theorem step_of_nil (h : w.line = []) : w.step m = w := by simp [step, h]

theorem step_of_mem (h : w.line = (type, d) :: rest) (hm : type ∈ w.met.map Prod.fst) :
    w.step m = ⟨w.met, rest⟩ := by
  simp only [step, h, hm, if_true]

theorem step_of_notMem (h : w.line = (type, d) :: rest) (hm : type ∉ w.met.map Prod.fst) :
    w.step m = ⟨(type, d) :: w.met, rest ++ (m.supertypesOf type).map (·, d + 1)⟩ := by
  simp only [step, h, hm, if_false]

/-- A type that is met leaves its place among those whose supertypes are still to be followed. -/
theorem length_flatMap_unseen (m : Mappings) {seen : List String} (h : type ∉ seen) :
    (m.supertypesOf type).length + ((m.unseen (type :: seen)).flatMap m.supertypesOf).length =
      ((m.unseen seen).flatMap m.supertypesOf).length := by
  have hnodup : (m.unseen seen).Nodup := m.supertypes.nodup_keys.filter _
  rw [unseen_cons]
  by_cases hk : type ∈ m.supertypes.keys
  · have hmem : type ∈ m.unseen seen := by simp [unseen, hk, h]
    have herase : (m.unseen seen).filter (· ≠ type) = (m.unseen seen).erase type := by
      rw [hnodup.erase_eq_filter]
      exact List.filter_congr fun t _ => Bool.eq_iff_iff.2 (by simp)
    have hperm := (List.perm_cons_erase hmem).flatMap_right m.supertypesOf
    rw [herase, hperm.length_eq, List.flatMap_cons, List.length_append]
  · have hnone : m.supertypesOf type = [] := by simp [supertypesOf, Dict.get?_eq_none_iff.2 hk]
    have hsame : (m.unseen seen).filter (· ≠ type) = m.unseen seen := by
      refine List.filter_eq_self.2 fun t ht => decide_eq_true ?_
      rintro rfl
      exact hk (List.mem_filter.1 ht).1
    rw [hsame, hnone, List.length_nil, Nat.zero_add]

theorem ahead_step (h : w.line ≠ []) : (w.step m).ahead m + 1 = w.ahead m := by
  obtain ⟨⟨type, d⟩, rest, hline⟩ := List.exists_cons_of_ne_nil h
  by_cases hm : type ∈ w.met.map Prod.fst
  · rw [step_of_mem hline hm]
    simp only [ahead, hline, List.length_cons]
    omega
  · have hedges := length_flatMap_unseen m hm
    rw [step_of_notMem hline hm]
    simp only [ahead, hline, List.length_cons, List.length_append, List.length_map, List.map_cons]
    omega

/-- The walk comes to an end. -/
theorem exists_line_eq_nil (m : Mappings) (w : Walk) :
    ∃ n ≤ w.ahead m, ((step m)^[n] w).line = [] := by
  induction hn : w.ahead m generalizing w with
  | zero =>
    have hlength : w.line.length = 0 := by
      unfold ahead at hn
      omega
    exact ⟨0, Nat.le_refl 0, List.eq_nil_of_length_eq_zero hlength⟩
  | succ k ih =>
    by_cases hline : w.line = []
    · exact ⟨0, Nat.zero_le _, hline⟩
    · have hstep := ahead_step (m := m) hline
      obtain ⟨n, hle, hend⟩ := ih (w.step m) (by omega)
      exact ⟨n + 1, by omega, hend⟩

theorem ahead_start (m : Mappings) (roots : List String) :
    (start roots).ahead m = roots.length + m.edgeCount := by
  have hall : m.unseen [] = m.supertypes.keys := by simp [unseen]
  have hedges : m.supertypes.keys.map m.supertypesOf = m.supertypes.values := by
    simp only [Dict.keys, Dict.values, List.map_map]
    refine List.map_congr_left fun e he => ?_
    simp [supertypesOf, Dict.mem_entries_iff.1 he]
  simp only [ahead, start, edgeCount, List.map_nil, hall, List.flatMap_def, hedges,
    List.length_map]

/-- What has been met and what is still to be met make up the lineage, at each step. -/
theorem lineage_step (m : Mappings) (w : Walk) :
    (w.step m).types ++ m.lineage ((w.step m).met.map Prod.fst) ((w.step m).line.map Prod.fst) =
      w.types ++ m.lineage (w.met.map Prod.fst) (w.line.map Prod.fst) := by
  cases hline : w.line with
  | nil => rw [step_of_nil hline, hline]
  | cons p rest =>
    obtain ⟨type, d⟩ := p
    by_cases hm : type ∈ w.met.map Prod.fst
    · rw [step_of_mem hline hm, List.map_cons, lineage.eq_2, if_pos hm]
      rfl
    · have hlineage : m.lineage (w.met.map Prod.fst) (type :: rest.map Prod.fst) =
          type :: m.lineage (type :: w.met.map Prod.fst)
            (rest.map Prod.fst ++ m.supertypesOf type) := by rw [lineage, if_neg hm]
      simp [step_of_notMem hline hm, hlineage, types, Function.comp_def]

theorem types_of_iterate (hend : ((step m)^[n] w).line = []) : ((step m)^[n] w).types =
    w.types ++ m.lineage (w.met.map Prod.fst) (w.line.map Prod.fst) := by
  induction n generalizing w with
  | zero =>
    have hnil : w.line = [] := hend
    simp [hnil, lineage]
  | succ n ih => exact (ih hend).trans (lineage_step m w)

end Step

section Ordered

/-- What holds at each step of a walk from the roots: the entries stand in the order of their
distances, and no edge from a type that was met is forgotten. -/
structure Ordered (m : Mappings) (roots : List String) (w : Walk) : Prop where
  nodup : (w.met.map Prod.fst).Nodup
  climbs : ∀ p ∈ w.entries, m.Climbs roots p.2 p.1
  sorted : w.entries.Pairwise fun p q => p.2 ≤ q.2
  near : w.line.Pairwise fun p q => q.2 ≤ p.2 + 1
  rooted : ∀ t ∈ roots, (t, 0) ∈ w.entries
  closed : ∀ t d, (t, d) ∈ w.met → ∀ above ∈ m.supertypesOf t, ∃ e ≤ d + 1, (above, e) ∈ w.entries

theorem ordered_start (m : Mappings) (roots : List String) : Ordered m roots (start roots) where
  nodup := .nil
  climbs p hp := by
    obtain ⟨t, ht, rfl⟩ := List.mem_map.1 hp
    exact .root ht
  sorted := by simp [entries, start, List.pairwise_map, List.pairwise_of_forall]
  near := by simp [start, List.pairwise_map, List.pairwise_of_forall]
  rooted t ht := List.mem_map.2 ⟨t, ht, rfl⟩
  closed t d h := by cases h

theorem mem_entries_of_mem_met {p : String × Nat} (h : p ∈ w.met) : p ∈ w.entries := by
  simp [entries, h]

theorem entries_of_cons (h : w.line = (type, d) :: rest) :
    w.entries = w.met.reverse ++ (type, d) :: rest := by rw [entries, h]

theorem Ordered.met_le (h : Ordered m roots w) (hline : w.line = (type, d) :: rest)
    {p : String × Nat} (hp : p ∈ w.met) : p.2 ≤ d := by
  have hsorted := h.sorted
  rw [entries_of_cons hline] at hsorted
  exact (List.pairwise_append.1 hsorted).2.2 p (List.mem_reverse.2 hp) _ List.mem_cons_self

theorem Ordered.le_of_mem_rest (h : Ordered m roots w) (hline : w.line = (type, d) :: rest)
    {p : String × Nat} (hp : p ∈ rest) : d ≤ p.2 ∧ p.2 ≤ d + 1 := by
  have hsorted := h.sorted
  have hnear := h.near
  rw [entries_of_cons hline] at hsorted
  rw [hline] at hnear
  exact ⟨(List.pairwise_cons.1 (List.pairwise_append.1 hsorted).2.1).1 p hp,
    (List.pairwise_cons.1 hnear).1 p hp⟩

/-- A type that was met before leaves the line for an entry that is as near. -/
theorem Ordered.step_of_mem (h : Ordered m roots w) (hline : w.line = (type, d) :: rest)
    (hm : type ∈ w.met.map Prod.fst) : Ordered m roots (w.step m) := by
  rw [Walk.step_of_mem hline hm]
  obtain ⟨⟨type, d'⟩, hmet, rfl⟩ := List.mem_map.1 hm
  have hle : d' ≤ d := h.met_le hline hmet
  have hsub : (entries ⟨w.met, rest⟩).Sublist w.entries := by
    rw [entries_of_cons hline]
    exact (List.sublist_cons_self _ _).append_left _
  have hcover : ∀ t e, (t, e) ∈ w.entries → ∃ e' ≤ e, (t, e') ∈ entries ⟨w.met, rest⟩ := by
    intro t e ht
    simp only [entries_of_cons hline, List.mem_append, List.mem_cons] at ht
    rcases ht with ht | ht | ht
    · exact ⟨e, Nat.le_refl e, List.mem_append_left _ ht⟩
    · cases ht
      exact ⟨d', hle, mem_entries_of_mem_met hmet⟩
    · exact ⟨e, Nat.le_refl e, List.mem_append_right _ ht⟩
  constructor
  · exact h.nodup
  · exact fun p hp => h.climbs p (hsub.subset hp)
  · exact h.sorted.sublist hsub
  · exact (List.pairwise_cons.1 (hline ▸ h.near)).2
  · intro t ht
    obtain ⟨e, he, hmem⟩ := hcover t 0 (h.rooted t ht)
    obtain rfl : e = 0 := Nat.le_zero.1 he
    exact hmem
  · intro t e ht above habove
    obtain ⟨e₁, he₁, hmem⟩ := h.closed t e ht above habove
    obtain ⟨e₂, he₂, hmem⟩ := hcover above e₁ hmem
    exact ⟨e₂, Nat.le_trans he₂ he₁, hmem⟩

/-- A type that is met for the first time puts its supertypes at the end of the line. -/
theorem Ordered.step_of_notMem (h : Ordered m roots w) (hline : w.line = (type, d) :: rest)
    (hm : type ∉ w.met.map Prod.fst) : Ordered m roots (w.step m) := by
  rw [Walk.step_of_notMem hline hm]
  have hentries : entries ⟨(type, d) :: w.met, rest ++ (m.supertypesOf type).map (·, d + 1)⟩ =
      w.entries ++ (m.supertypesOf type).map (·, d + 1) := by
    simp [entries, hline]
  have hhead : (type, d) ∈ w.entries := by simp [entries, hline]
  have hbound : ∀ p ∈ w.entries, p.2 ≤ d + 1 := by
    intro p hp
    simp only [entries_of_cons hline, List.mem_append, List.mem_reverse, List.mem_cons] at hp
    rcases hp with hp | rfl | hp
    · exact Nat.le_succ_of_le (h.met_le hline hp)
    · exact Nat.le_succ d
    · exact (h.le_of_mem_rest hline hp).2
  have hnew : ∀ p ∈ (m.supertypesOf type).map (·, d + 1), p.2 = d + 1 := by simp
  constructor
  · exact List.nodup_cons.2 ⟨hm, h.nodup⟩
  · rw [hentries]
    intro p hp
    rcases List.mem_append.1 hp with hp | hp
    · exact h.climbs p hp
    · obtain ⟨above, habove, rfl⟩ := List.mem_map.1 hp
      exact .up (h.climbs _ hhead) habove
  · rw [hentries]
    refine List.pairwise_append.2 ⟨h.sorted, ?_, fun p hp q hq => ?_⟩
    · simp [List.pairwise_map, List.pairwise_of_forall]
    · rw [hnew q hq]
      exact hbound p hp
  · refine List.pairwise_append.2 ⟨(List.pairwise_cons.1 (hline ▸ h.near)).2, ?_,
      fun p hp q hq => ?_⟩
    · simp [List.pairwise_map, List.pairwise_of_forall]
    · rw [hnew q hq]
      exact Nat.succ_le_succ (h.le_of_mem_rest hline hp).1
  · rw [hentries]
    exact fun t ht => List.mem_append_left _ (h.rooted t ht)
  · rw [hentries]
    intro t e ht above habove
    rcases List.mem_cons.1 ht with he | ht
    · cases he
      exact ⟨d + 1, Nat.le_refl _, List.mem_append_right _ (List.mem_map.2 ⟨above, habove, rfl⟩)⟩
    · obtain ⟨e', he', hmem⟩ := h.closed t e ht above habove
      exact ⟨e', he', List.mem_append_left _ hmem⟩

theorem Ordered.step (h : Ordered m roots w) : Ordered m roots (w.step m) := by
  cases hline : w.line with
  | nil => rwa [step_of_nil hline]
  | cons p rest =>
    by_cases hm : p.1 ∈ w.met.map Prod.fst
    · exact h.step_of_mem hline hm
    · exact h.step_of_notMem hline hm

theorem Ordered.iterate (h : Ordered m roots w) (n : Nat) :
    Ordered m roots ((Walk.step m)^[n] w) := by
  induction n generalizing w with
  | zero => exact h
  | succ n ih => exact ih h.step

/-- When the line is empty every type that edges lead to has been met, by no more of them. -/
theorem Ordered.met_of_climbs (h : Ordered m roots w) (hend : w.line = [])
    (hclimbs : m.Climbs roots n type) : ∃ d ≤ n, (type, d) ∈ w.met := by
  have hentries : ∀ p ∈ w.entries, p ∈ w.met := by simp [entries, hend]
  induction hclimbs with
  | root ht => exact ⟨0, Nat.le_refl 0, hentries _ (h.rooted _ ht)⟩
  | up _ habove ih =>
    obtain ⟨d, hd, hmet⟩ := ih
    obtain ⟨e, he, hmem⟩ := h.closed _ d hmet _ habove
    exact ⟨e, by omega, hentries _ hmem⟩

theorem Ordered.mem_met_iff (h : Ordered m roots w) (hend : w.line = []) :
    (type, d) ∈ w.met ↔ m.Distance roots type d := by
  constructor
  · intro hmet
    refine ⟨h.climbs _ (mem_entries_of_mem_met hmet), fun n hn => ?_⟩
    obtain ⟨e, he, hmem⟩ := h.met_of_climbs hend hn
    -- each type is met once
    obtain rfl : d = e := (Prod.ext_iff.1 (List.inj_on_of_nodup_map h.nodup hmet hmem rfl)).2
    exact he
  · rintro ⟨hclimbs, hleast⟩
    obtain ⟨e, he, hmem⟩ := h.met_of_climbs hend hclimbs
    obtain rfl : e = d := Nat.le_antisymm he (hleast e (h.climbs _ (mem_entries_of_mem_met hmem)))
    exact hmem

end Ordered

end Walk

section Lineage

/-- Types with their distances from the roots, the nearest first. -/
structure ByDistance (m : Mappings) (roots : List String) (ps : List (String × Nat)) : Prop where
  nodup : (ps.map Prod.fst).Nodup
  sorted : ps.Pairwise fun p q => p.2 ≤ q.2
  mem_iff : ∀ type d, (type, d) ∈ ps ↔ m.Distance roots type d

/-- The walk that a lineage comes of ends after as many steps as there are roots and declared edges
at most. -/
theorem exists_walk (m : Mappings) (roots : List String) :
    ∃ n ≤ roots.length + m.edgeCount, ((Walk.step m)^[n] (.start roots)).line = [] ∧
      m.lineage [] roots = ((Walk.step m)^[n] (.start roots)).types := by
  obtain ⟨n, hle, hend⟩ := Walk.exists_line_eq_nil m (.start roots)
  refine ⟨n, Walk.ahead_start m roots ▸ hle, hend, ?_⟩
  rw [Walk.types_of_iterate hend]
  simp [Walk.start, Walk.types, Function.comp_def]

theorem lineage_by_distance (m : Mappings) (roots : List String) :
    ∃ ps, m.lineage [] roots = ps.map Prod.fst ∧ m.ByDistance roots ps := by
  obtain ⟨n, -, hend, htypes⟩ := m.exists_walk roots
  have h := (Walk.ordered_start m roots).iterate n
  generalize (Walk.step m)^[n] (.start roots) = w at hend htypes h
  refine ⟨w.met.reverse, htypes, ?_, ?_, fun type d => ?_⟩
  · rw [List.map_reverse]
    exact List.nodup_reverse.2 h.nodup
  · simpa [Walk.entries, hend] using h.sorted
  · rw [List.mem_reverse]
    exact h.mem_met_iff hend

theorem Climbs.exists_distance (h : m.Climbs roots n type) : ∃ d, m.Distance roots type d := by
  obtain ⟨k, -, hend, -⟩ := m.exists_walk roots
  have hw := (Walk.ordered_start m roots).iterate k
  obtain ⟨d, -, hmet⟩ := hw.met_of_climbs hend h
  exact ⟨d, (hw.mem_met_iff hend).1 hmet⟩

theorem mem_lineage_iff : type ∈ m.lineage [] roots ↔ ∃ n, m.Climbs roots n type := by
  obtain ⟨ps, hps, h⟩ := m.lineage_by_distance roots
  simp only [hps, List.mem_map, Prod.exists, exists_and_right, exists_eq_right, h.mem_iff]
  constructor
  · rintro ⟨d, hd⟩
    exact ⟨d, hd.1⟩
  · rintro ⟨n, hn⟩
    exact hn.exists_distance

end Lineage

section Resolve

variable {r : Record} {mapping own : Mapping} {e : Error}

/-- A type that is the record's own, one that the record reports, or one above these. -/
def Above (m : Mappings) (r : Record) (type : String) : Prop :=
  ∃ n, m.Climbs (r.type :: r.supertypes) n type

/-- The mappings that count for a record. -/
def mappingsFor (m : Mappings) (r : Record) : List Mapping :=
  (m.lineage [] (r.type :: r.supertypes)).filterMap m.get?

theorem mem_mappingsFor_iff : mapping ∈ m.mappingsFor r ↔
    ∃ type, m.Above r type ∧ m.get? type = some mapping := by
  simp only [mappingsFor, List.mem_filterMap, mem_lineage_iff, Above]

theorem resolve_eq (m : Mappings) (r : Record) : m.resolve r =
    if m.mappingsFor r = [] then .error (.noMapping r.type)
    else .ok (compose (m.mappingsFor r)) := by
  unfold resolve mappingsFor
  split
  · next h => simp [h]
  · next h => rw [if_neg h]

/-- A type that is under no other goes by its own mapping. -/
theorem resolve_of_top (hs : r.supertypes = []) (ht : m.supertypesOf r.type = [])
    (hm : m.get? r.type = some mapping) : m.resolve r = .ok (compose [mapping]) := by
  have hl : m.lineage [] [r.type] = [r.type] := by
    rw [lineage, if_neg List.not_mem_nil, ht, List.append_nil, lineage]
  unfold resolve
  rw [hs, hl, List.filterMap_cons_some hm]
  rfl

theorem mappingsFor_eq_nil_iff :
    m.mappingsFor r = [] ↔ ∀ type, m.Above r type → m.get? type = none := by
  simp only [mappingsFor, List.filterMap_eq_nil_iff, mem_lineage_iff, Above]

theorem kind_of_resolve (h : m.resolve r = .error e) : e.kind = .indexMapping := by
  rw [resolve_eq] at h
  split at h
  · cases h
    rfl
  · cases h

theorem eq_compose_of_resolve (h : m.resolve r = .ok mapping) :
    mapping = compose (m.mappingsFor r) := by
  rw [resolve_eq] at h
  split at h
  · cases h
  · exact (Except.ok.inj h).symm

/-- The fields of the record's own type come first. -/
theorem own_prefix (h : m.get? r.type = some own) :
    own.fields.eraseDups <+: (compose (m.mappingsFor r)).fields := by
  have hfound : ∃ rest, m.mappingsFor r = own :: rest := by
    rw [mappingsFor, lineage, if_neg List.not_mem_nil, List.filterMap_cons_some h]
    exact ⟨_, rfl⟩
  obtain ⟨rest, hrest⟩ := hfound
  simp only [compose, hrest, List.flatMap_cons, List.eraseDups_append]
  exact List.prefix_append _ _

/-- What a mapping that is put together for a record has to be. -/
structure Composes (m : Mappings) (r : Record) (mapping : Mapping) : Prop where
  nodup : mapping.fields.Nodup
  mem_fields_iff : ∀ field, field ∈ mapping.fields ↔
    ∃ type mapping', m.Above r type ∧ m.get? type = some mapping' ∧ field ∈ mapping'.fields
  own_first : ∀ own, m.get? r.type = some own → own.fields.eraseDups <+: mapping.fields
  nearest : ∀ rating, mapping.ratingField = some rating → ∃ type d mapping',
    m.Distance (r.type :: r.supertypes) type d ∧ m.get? type = some mapping' ∧
      mapping'.ratingField = some rating ∧ ∀ other d' mapping'',
        m.Distance (r.type :: r.supertypes) other d' → m.get? other = some mapping'' →
          mapping''.ratingField ≠ none → d ≤ d'
  unrated_iff : mapping.ratingField = none ↔
    ∀ type mapping', m.Above r type → m.get? type = some mapping' → mapping'.ratingField = none

/-- The rating field is the one of the nearest type that has one. -/
theorem nearest_rating {rating : String}
    (h : (compose (m.mappingsFor r)).ratingField = some rating) :
    ∃ type d mapping', m.Distance (r.type :: r.supertypes) type d ∧ m.get? type = some mapping' ∧
      mapping'.ratingField = some rating ∧ ∀ other d' mapping'',
        m.Distance (r.type :: r.supertypes) other d' → m.get? other = some mapping'' →
          mapping''.ratingField ≠ none → d ≤ d' := by
  obtain ⟨ps, hps, hd⟩ := m.lineage_by_distance (r.type :: r.supertypes)
  have hfirst : ps.findSome? (fun p => (m.get? p.1).bind Mapping.ratingField) = some rating := by
    rw [← h]
    simp only [compose, mappingsFor, hps, ← List.head?_filterMap, List.filterMap_filterMap,
      List.filterMap_map, Function.comp_def]
  obtain ⟨before, ⟨type, d⟩, after, rfl, hrating, hbefore⟩ := List.findSome?_eq_some_iff.1 hfirst
  obtain ⟨mapping', hget, hrating⟩ := Option.bind_eq_some_iff.1 hrating
  refine ⟨type, d, mapping', (hd.mem_iff type d).1 (by simp), hget, hrating, ?_⟩
  intro other d' mapping'' hother hget' hrated
  have hmem := (hd.mem_iff other d').2 hother
  rcases List.mem_append.1 hmem with hmem | hmem
  · -- whoever stands before it has no rating field
    have hnone := hbefore _ hmem
    simp only [hget', Option.bind_some] at hnone
    exact absurd hnone hrated
  · rcases List.mem_cons.1 hmem with he | hmem
    · cases he
      exact Nat.le_refl d
    · exact (List.pairwise_cons.1 (List.pairwise_append.1 hd.sorted).2.1).1 _ hmem

theorem composes_compose (m : Mappings) (r : Record) :
    m.Composes r (compose (m.mappingsFor r)) where
  nodup := nodup_eraseDups _
  mem_fields_iff field := by
    simp only [compose, List.mem_eraseDups, List.mem_flatMap, mem_mappingsFor_iff]
    constructor
    · rintro ⟨mapping, ⟨type, habove, hget⟩, hfield⟩
      exact ⟨type, mapping, habove, hget, hfield⟩
    · rintro ⟨type, mapping, habove, hget, hfield⟩
      exact ⟨mapping, ⟨type, habove, hget⟩, hfield⟩
  own_first _ := own_prefix
  nearest _ := nearest_rating
  unrated_iff := by
    simp only [compose, List.findSome?_eq_none_iff, mem_mappingsFor_iff]
    constructor
    · exact fun h type mapping habove hget => h mapping ⟨type, habove, hget⟩
    · rintro h mapping ⟨type, habove, hget⟩
      exact h type mapping habove hget

end Resolve

section Extract

variable {r : Record} {a : Analyzer} {e : Error}

theorem texts_ok_iff {names : List String} :
    (∃ found, texts r names = .ok found) ↔ ∀ name ∈ names, ∃ v, r.field? name = some v := by
  induction names with
  | nil => simp [texts]
  | cons name rest ih =>
    rw [List.forall_mem_cons, ← ih]
    cases hv : r.field? name with
    | none => simp [texts, hv]
    | some v =>
      cases hrest : texts r rest <;>
        simp [texts, hv, hrest, pure, Except.pure, bind, Except.bind]

theorem kind_of_texts {names : List String} (h : texts r names = .error e) :
    e.kind = .indexMapping := by
  induction names with
  | nil => cases h
  | cons name rest ih =>
    unfold texts at h
    cases hv : r.field? name with
    | none =>
      simp only [hv] at h
      cases h
      rfl
    | some v =>
      cases hrest : texts r rest with
      | error e' =>
        simp only [hv, hrest] at h
        cases h
        exact ih hrest
      | ok found => simp [hv, hrest, pure, Except.pure, bind, Except.bind] at h

theorem extract_eq (m : Mappings) (a : Analyzer) (r : Record) : m.extract a r =
    match m.resolve r with
    | .error e => .error e
    | .ok mapping =>
      (texts r mapping.fields).map fun found =>
        ⟨a.terms (String.intercalate " " found), mapping.ratingField⟩ := by
  unfold extract
  cases m.resolve r with
  | error e => rfl
  | ok mapping => cases texts r mapping.fields <;> rfl

theorem extract_ok_iff : (∃ x, m.extract a r = .ok x) ↔ ∃ mapping, m.resolve r = .ok mapping ∧
    ∀ field ∈ mapping.fields, ∃ v, r.field? field = some v := by
  rw [extract_eq]
  cases hm : m.resolve r with
  | error e => simp
  | ok mapping =>
    simp only [Except.ok.injEq, exists_eq_left', ← texts_ok_iff]
    cases texts r mapping.fields <;> simp [Except.map]

theorem kind_of_extract (h : m.extract a r = .error e) : e.kind = .indexMapping := by
  rw [extract_eq] at h
  cases hm : m.resolve r with
  | error e' =>
    simp only [hm] at h
    cases h
    exact kind_of_resolve hm
  | ok mapping =>
    cases ht : texts r mapping.fields with
    | error e' =>
      simp only [hm, ht] at h
      cases h
      exact kind_of_texts ht
    | ok found => simp [hm, ht, Except.map] at h

end Extract

/-- The walk for a record ends. If no type that it meets has a mapping, resolving fails, else the
mappings of all of them are put together. Extracting goes well if this does and the record has all
fields. -/
theorem resolve_composes_lineage (m : Mappings) (a : Analyzer) (r : Record) :
    (∃ n ≤ (r.type :: r.supertypes).length + m.edgeCount,
      ((Walk.step m)^[n] (.start (r.type :: r.supertypes))).line = [] ∧
      m.lineage [] (r.type :: r.supertypes) =
        ((Walk.step m)^[n] (.start (r.type :: r.supertypes))).types) ∧
    ((∃ e, m.resolve r = .error e) ↔ ∀ type, m.Above r type → m.get? type = none) ∧
    (∀ e, m.resolve r = .error e → e.kind = .indexMapping) ∧
    (∀ mapping, m.resolve r = .ok mapping → m.Composes r mapping) ∧
    ((∃ x, m.extract a r = .ok x) ↔ ∃ mapping, m.resolve r = .ok mapping ∧
      ∀ field ∈ mapping.fields, ∃ v, r.field? field = some v) ∧
    ∀ e, m.extract a r = .error e → e.kind = .indexMapping := by
  refine ⟨m.exists_walk _, ?_, fun _ => kind_of_resolve, fun mapping h => ?_, extract_ok_iff,
    fun _ => kind_of_extract⟩
  · rw [← mappingsFor_eq_nil_iff, resolve_eq]
    by_cases h : m.mappingsFor r = [] <;> simp [h]
  · rw [eq_compose_of_resolve h]
    exact m.composes_compose r

theorem resolve_composes_lineage_of_cycle :
    let m := (((empty.register "Item" ⟨["title"], some "stars"⟩).declareSupertype "Novel" "Item"
      ).declareSupertype "Item" "Novel").declareSupertype "Item" "Ghost"
    let r : Record := ⟨"Novel", [], .empty⟩
    (∃ mapping, m.resolve r = .ok mapping ∧ "title" ∈ mapping.fields ∧
      mapping.ratingField ≠ none) ∧
      ∃ e, m.extract .plain r = .error e ∧ e.kind = .indexMapping := by
  intro m r
  have habove : m.Above r "Item" := ⟨1, .up (.root List.mem_cons_self) (by decide)⟩
  have hget : m.get? "Item" = some ⟨["title"], some "stars"⟩ := rfl
  obtain ⟨-, herror, -, hok, hextract, hkind⟩ := m.resolve_composes_lineage .plain r
  have hcomposed : ∃ mapping, m.resolve r = .ok mapping := by
    cases h : m.resolve r with
    | ok mapping => exact ⟨mapping, rfl⟩
    | error e =>
      have hnone := herror.1 ⟨e, h⟩ "Item" habove
      simp [hget] at hnone
  obtain ⟨mapping, hmapping⟩ := hcomposed
  have hfield : "title" ∈ mapping.fields :=
    ((hok mapping hmapping).mem_fields_iff "title").2 ⟨"Item", _, habove, hget, by decide⟩
  refine ⟨⟨mapping, hmapping, hfield, fun hnone => ?_⟩, ?_⟩
  · have hrated := (hok mapping hmapping).unrated_iff.1 hnone "Item" _ habove hget
    cases hrated
  · cases h : m.extract .plain r with
    | error e => exact ⟨e, rfl, hkind e h⟩
    | ok x =>
      obtain ⟨mapping', hmapping', hall⟩ := hextract.1 ⟨x, h⟩
      obtain rfl : mapping = mapping' := Except.ok.inj (hmapping.symm.trans hmapping')
      obtain ⟨v, hv⟩ := hall "title" hfield
      cases hv

end Cardfile.Mappings
