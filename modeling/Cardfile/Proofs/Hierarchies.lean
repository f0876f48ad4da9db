import Cardfile.Proofs.EntityLinks

/-! # Hierarchies

A hierarchy in a catalogue holds the paths through the labels that it is declared with, each once
and in the order of the walk. Under the rule for the depth of labels none of them is refused.
-/

namespace Cardfile

variable {levels : List String} {paths : List (List String)} {path : List String}
  {labels : List Label} {h : Hierarchy} {finalized : Bool}

namespace ValueSet

variable {α : Type} [DecidableEq α]

/-- Values that are added one by one are kept at their first place. -/
theorem values_foldl_insert [BEq α] [LawfulBEq α] (s : ValueSet α) (added : List α) :
    (added.foldl ValueSet.insert s).values =
      s.values ++ (added.filter (· ∉ s.values)).eraseDups := by
  induction added generalizing s with
  | nil => simp
  | cons a rest ih =>
    rw [List.foldl_cons, ih]
    by_cases hm : a ∈ s.values
    · have hsame : s.insert a = s := dif_pos hm
      rw [hsame, List.filter_cons_of_neg (by simpa using hm)]
    · have hvalues : (s.insert a).values = s.values ++ [a] :=
        congrArg ValueSet.values (dif_neg hm)
      rw [hvalues, List.filter_cons_of_pos (by simpa using hm), List.eraseDups_cons,
        List.filter_filter, List.append_assoc, List.singleton_append]
      congr 3
      refine List.filter_congr fun b _ => ?_
      rw [Bool.eq_iff_iff]
      simp [and_comm]

@[simp] theorem finalized_insert (s : ValueSet α) (a : α) :
    (s.insert a).finalized = s.finalized := by
  unfold ValueSet.insert
  split <;> rfl

theorem finalized_foldl_insert (s : ValueSet α) (added : List α) :
    (added.foldl ValueSet.insert s).finalized = s.finalized := by
  induction added generalizing s with
  | nil => rfl
  | cons a rest ih => rw [List.foldl_cons, ih, finalized_insert]

end ValueSet

namespace Hierarchy

/-- Whether a path has a label, and no more labels than there are levels. -/
def Admits (levels path : List String) : Prop := 1 ≤ path.length ∧ path.length ≤ levels.length

instance (levels : List String) : DecidablePred (Admits levels) :=
  fun _ => inferInstanceAs (Decidable (_ ∧ _))

theorem add_of_admits (hopen : h.paths.finalized = false) (ha : Admits h.levels path) :
    h.add path = .ok { h with paths := h.paths.insert path } := by
  have hne : path.isEmpty = false := by
    cases path with
    | nil => exact absurd ha.1 (by decide)
    | cons => rfl
  unfold add
  rw [hopen, if_neg Bool.false_ne_true, hne, Bool.false_or, if_neg]
  simpa using ha.2

theorem add_of_not_admits (hopen : h.paths.finalized = false) (ha : ¬ Admits h.levels path) :
    h.add path = .error (.pathLength path h.levels.length) := by
  have hlength : path = [] ∨ h.levels.length < path.length := by
    rw [← List.length_eq_zero_iff]
    unfold Admits at ha
    omega
  simp [add, hopen, hlength]

/-- An open hierarchy takes all paths that it admits. -/
theorem addAll_of_admits (hopen : h.paths.finalized = false)
    (ha : ∀ path ∈ paths, Admits h.levels path) :
    h.refusals paths = [] ∧
      h.addAll paths = { h with paths := paths.foldl ValueSet.insert h.paths } := by
  induction paths generalizing h with
  | nil => exact ⟨rfl, rfl⟩
  | cons path rest ih =>
    obtain ⟨hfirst, hrest⟩ := List.forall_mem_cons.1 ha
    have hadd := add_of_admits hopen hfirst
    obtain ⟨hnone, hall⟩ := ih (h := { h with paths := h.paths.insert path })
      ((ValueSet.finalized_insert _ _).trans hopen) hrest
    constructor
    · rw [refusals, hadd]
      exact hnone
    · unfold addAll at hall ⊢
      rw [List.foldl_cons, hadd]
      exact hall

end Hierarchy

namespace Catalogue

variable {c : Catalogue} {m : Model} {rules : RuleBase} {fact : NormalFact} {draft : Draft}
  {r : Review} {x : Diagnostic} {t : NamedType} {failOnOpen : Bool} {policy : Policy}

/-- The hierarchy of a declaration: it has the declared levels, it is final if it is declared so,
and it holds the paths through the declared labels, each once. -/
structure Expands (h : Hierarchy) (levels : List String) (labels : List Label)
    (finalized : Bool) : Prop where
  admits : ∀ path ∈ Label.paths labels, Hierarchy.Admits levels path
  levels : h.levels = levels
  finalized : h.paths.finalized = finalized
  values : h.paths.values = (Label.paths labels).eraseDups

section Rules

/-- Under the rule for the depth of labels every path through them fits the levels. -/
theorem admits_of_mem (hr : Rule.labelDepthWithinLevels ∈ rules.rulesFor .hierarchy)
    (hm : fact ∈ (Review.ofModel rules m).normalFacts)
    (hf : fact.form = .hierarchy levels labels finalized) :
    ∀ path ∈ Label.paths labels, Hierarchy.Admits levels path := by
  have hcheck := Review.check_of_mem hm
  have hfits := Review.fits_of_mem hm
  rw [hf] at hfits
  have hkind : fact.kind = .hierarchy := of_decide_eq_true hfits
  unfold RuleBase.check at hcheck
  rw [hkind, hf] at hcheck
  have hdepth : Rule.require (Label.depthOfAll labels ≤ levels.length)
      (.violated .labelDepthWithinLevels) = .ok () := forM_ok hcheck _ hr
  have hle : Label.depthOfAll labels ≤ levels.length := by
    by_contra hgt
    rw [Rule.require, if_neg (by simpa using hgt)] at hdepth
    cases hdepth
  intro path hp
  rw [Label.paths_eq] at hp
  exact ⟨List.length_pos_iff.2 (Label.ne_nil_of_mem_leafPathsOfAll hp),
    Nat.le_trans (Label.length_le_depthOfAll labels path hp) hle⟩

end Rules

section Expanding

theorem expands_addAll (ha : ∀ path ∈ Label.paths labels, Hierarchy.Admits levels path) :
    let h := (Hierarchy.empty levels).addAll (Label.leafPathsOfAll labels)
    Expands (if finalized then h.finalize else h) levels labels finalized := by
  have hpaths := ha
  rw [Label.paths_eq] at hpaths
  obtain ⟨-, hall⟩ := Hierarchy.addAll_of_admits (h := .empty levels) rfl hpaths
  have hvalues : (((Label.leafPathsOfAll labels).foldl ValueSet.insert
      (Hierarchy.empty levels).paths)).values = (Label.paths labels).eraseDups := by
    rw [ValueSet.values_foldl_insert, Label.paths_eq]
    simp [Hierarchy.empty, ValueSet.empty]
  intro h
  cases finalized with
  | true =>
    exact ⟨ha, congrArg Hierarchy.levels hall, rfl, (congrArg (·.paths.values) hall).trans hvalues⟩
  | false =>
    exact ⟨ha, congrArg Hierarchy.levels hall,
      (congrArg (·.paths.finalized) hall).trans (ValueSet.finalized_foldl_insert _ _),
      (congrArg (·.paths.values) hall).trans hvalues⟩

/-- A hierarchy is what its declaration drafts. -/
theorem draft_of_hierarchy (hd : fact.draft? = some draft) {ref : String → TypeRef}
    (hh : draft ref = .hierarchy h) : ∃ levels labels finalized,
      fact.form = .hierarchy levels labels finalized ∧
        h = let all := (Hierarchy.empty levels).addAll (Label.leafPathsOfAll labels)
          if finalized then all.finalize else all := by
  obtain ⟨levels, labels, finalized, hf, -⟩ := form_of_hierarchy_draft hd hh
  refine ⟨levels, labels, finalized, hf, ?_⟩
  obtain ⟨name, kind, form⟩ := fact
  dsimp only at hf
  subst hf
  cases hd
  cases hh
  rfl

end Expanding

section Catalogues

theorem body_of_related_hierarchy {links : List Link}
    (ht : (c.related links t).body = .hierarchy h) : t.body = .hierarchy h := by
  obtain ⟨name, body⟩ := t
  cases body <;> first | exact ht | cases ht

/-- Under the rule for the depth of labels the only rejections are of patterns and of names. -/
theorem cause_of_rejected (hr : Rule.labelDepthWithinLevels ∈ rules.rulesFor .hierarchy)
    (hx : x ∈ (completed (.ofModel rules m) failOnOpen).diagnostics) {cause : Error}
    (hc : x.issue = .rejected cause) :
    cause = .badPattern ∨ ∃ name, cause = .definedType name := by
  obtain ⟨fact, hm, hd | rfl⟩ := told_of_rejected hx hc
  · obtain ⟨-, ⟨levels, labels, finalized, hf, hrefused⟩ | ⟨pattern, maxLength, -, hp⟩⟩ :=
      rejected_of_diagnostics hd hc
    · have hadmits := admits_of_mem hr hm hf
      rw [Label.paths_eq] at hadmits
      rw [(Hierarchy.addAll_of_admits (h := .empty levels) rfl hadmits).1] at hrefused
      cases hrefused
    · unfold StringPattern.ofText at hp
      split at hp
      · cases hp
      · exact .inl (Except.error.inj hp).symm
  · exact .inr ⟨fact.name, (Issue.rejected.inj hc).symm⟩

theorem expands_of_mem (hr : Rule.labelDepthWithinLevels ∈ rules.rulesFor .hierarchy)
    (ht : t ∈ (completed (.ofModel rules m) failOnOpen).types) (hh : t.body = .hierarchy h) :
    ∃ declared ∈ m.facts, ∃ normal levels labels finalized,
      Review.outcomeOf rules declared = .ok normal ∧ normal.name = t.name ∧
        normal.form = .hierarchy levels labels finalized ∧
          Expands h levels labels finalized := by
  obtain ⟨u, hu, rfl⟩ := List.mem_map.1 ht
  have hbody := body_of_related_hierarchy hh
  obtain ⟨draft, ho, hb⟩ := (finished_resolved (.ofModel rules m)).origin u hu
  rw [hb] at hbody
  obtain ⟨name, body⟩ := u
  dsimp only at ho
  cases ho with
  | basic host => cases hbody
  | collection => cases hbody
  | @declared fact _ hm hd =>
    obtain ⟨declared, hdeclared, houtcome⟩ := Review.exists_outcomeOf hm
    obtain ⟨levels, labels, finalized, hf, rfl⟩ := draft_of_hierarchy hd hbody
    exact ⟨declared, hdeclared, fact, levels, labels, finalized, houtcome, rfl, hf,
      expands_addAll (admits_of_mem hr hm hf)⟩

/-- The walk over a forest finds the paths of the recursion over its trees. They end at the leaves,
one at each, and the longest is as long as the forest is deep. Under the rule for the depth of
labels the hierarchies of a catalogue hold these paths for the labels that they are declared with,
and no path is rejected. -/
theorem hierarchies_hold_leaf_paths :
    (∀ roots : List Label, Label.paths roots = Label.leafPathsOfAll roots ∧
      (Label.paths roots).map List.getLast? =
        ((Label.nodesOfAll roots).filter Label.isLeaf).map (fun leaf => some leaf.name) ∧
      (Label.paths roots).length = (Label.nodesOfAll roots).countP Label.isLeaf ∧
      (∀ path ∈ Label.paths roots, path.length ≤ Label.depthOfAll roots) ∧
      (roots ≠ [] → ∃ path ∈ Label.paths roots, path.length = Label.depthOfAll roots)) ∧
    ∀ (policy : Policy) (m : Model) (c : Catalogue),
      Rule.labelDepthWithinLevels ∈ policy.rules.rulesFor .hierarchy → build policy m = .ok c →
        (∀ t ∈ c.types, ∀ h, t.body = .hierarchy h →
          ∃ declared ∈ m.facts, ∃ normal levels labels finalized,
            Review.outcomeOf policy.rules declared = .ok normal ∧ normal.name = t.name ∧
              normal.form = .hierarchy levels labels finalized ∧
                Expands h levels labels finalized) ∧
          ∀ x ∈ c.diagnostics, ∀ cause, x.issue = .rejected cause →
            cause = .badPattern ∨ ∃ name, cause = .definedType name := by
  constructor
  · intro roots
    rw [Label.paths_eq]
    exact ⟨rfl, Label.map_getLast?_leafPathsOfAll roots, Label.length_leafPathsOfAll roots,
      Label.length_le_depthOfAll roots, Label.exists_length_eq_depthOfAll roots⟩
  · intro policy m c hr hb
    cases eq_completed_of_build hb
    exact ⟨fun t ht h hh => expands_of_mem hr ht hh,
      fun x hx cause hc => cause_of_rejected hr hx hc⟩

theorem exists_hierarchy_of_values (name : String) {values : List (List String)}
    (hv : (c.hierarchyValues name).toOption = some values) :
    ∃ t ∈ c.types, ∃ h, t.body = .hierarchy h ∧ h.paths.values = values := by
  unfold hierarchyValues at hv
  split at hv
  · next h hbody =>
    obtain ⟨t, ht, hh⟩ := Option.map_eq_some_iff.1 hbody
    refine ⟨t, mem_of_type? ht, h, hh, ?_⟩
    unfold Hierarchy.all at hv
    split at hv
    · cases hv
    · exact Option.some.inj hv
  · cases hv

/-- A forest with leaves on two levels, one of them given twice. -/
theorem hierarchies_hold_leaf_paths_of_places :
    let uk := Value.node "label" [("name", .text "UK"),
      ("children", .list [.text "North", .text "South"])]
    let m : Model := [⟨"hierarchy", [("name", .text "Place"), ("levels", .text "Country, Region"),
      ("labels", .list [uk, .text "France", .text "Eire", .text "France"])]⟩]
    ∃ c, build ⟨.default, true, false⟩ m = .ok c ∧
      ∃ t ∈ c.types, ∃ h, t.body = .hierarchy h ∧
        h.paths.values = [["UK", "North"], ["UK", "South"], ["France"], ["Eire"]] ∧
          ∃ declared ∈ m.facts, ∃ normal levels labels finalized,
            Review.outcomeOf .default declared = .ok normal ∧ normal.name = t.name ∧
              normal.form = .hierarchy levels labels finalized ∧
                Expands h levels labels finalized := by
  intro uk m
  have hnone : (ofReview (.ofModel .default m)).diagnostics = [] := by decide +kernel
  have hbuild : build ⟨.default, true, false⟩ m =
      .ok { (ofReview (.ofModel .default m)).inferAll (Review.ofModel .default m).links with
        failOnOpen := false } := by
    unfold build
    dsimp only
    rw [hnone]
    rfl
  have hplaces : (hierarchyValues
      { (ofReview (.ofModel .default m)).inferAll (Review.ofModel .default m).links with
        failOnOpen := false } "Place").toOption =
      some [["UK", "North"], ["UK", "South"], ["France"], ["Eire"]] := by decide +kernel
  obtain ⟨t, ht, h, hh, hvalues⟩ := exists_hierarchy_of_values "Place" hplaces
  have hall := hierarchies_hold_leaf_paths.2 ⟨.default, true, false⟩ m _ (by decide) hbuild
  exact ⟨_, hbuild, t, ht, h, hh, hvalues, hall.1 t ht h hh⟩

end Catalogues

end Catalogue

end Cardfile
