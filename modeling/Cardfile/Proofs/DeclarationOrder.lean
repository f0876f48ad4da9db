import Cardfile.Proofs.Renaming

/-! # Declaration order

The order of declarations decides where types stand in a catalogue, and nothing else. The types
have the same content, with references by the names of the types that they lead to, and the same
is told of them.
-/

namespace Cardfile

/-- The names that the names of collection types in a declaration are made of. -/
def Fact.held (fact : Fact) : List String :=
  match fact.normalize with
  | .ok normal => normal.fields.flatMap FieldForm.held
  | .error _ => []

/-- Declarations of known kinds have names of their own, which are no names of basic types. Neither
these names nor those of what collections hold have the marks of collection types. -/
structure Model.Distinct (m : Model) : Prop where
  nodup : (m.facts.map Fact.name).Nodup
  notBasic : ∀ fact ∈ m.facts, Host.ofName? fact.name = none
  plain : ∀ fact ∈ m.facts, Plain fact.name
  held : ∀ fact ∈ m.facts, ∀ name ∈ fact.held, Plain name

variable {m m' : Model} {r r' : Review} {rules : RuleBase}

section Reviews

theorem Model.Distinct.of_perm (h : m.Distinct) (hp : m.Perm m') : m'.Distinct :=
  have hfacts := Model.facts_perm_of_perm hp
  ⟨(hfacts.map _).nodup_iff.1 h.nodup, fun fact hm => h.notBasic fact (hfacts.mem_iff.2 hm),
    fun fact hm => h.plain fact (hfacts.mem_iff.2 hm),
    fun fact hm => h.held fact (hfacts.mem_iff.2 hm)⟩

theorem Model.Distinct.ofModel_eq (h : m.Distinct) (rules : RuleBase) :
    Review.ofModel rules m = m.facts.map fun fact => ⟨fact, Review.outcomeOf rules fact⟩ :=
  Review.ofFacts_of_nodup h.nodup fun _ _ => List.not_mem_nil

theorem Model.Distinct.ofModel_perm (h : m.Distinct) (hp : m.Perm m') (rules : RuleBase) :
    (Review.ofModel rules m).Perm (Review.ofModel rules m') := by
  rw [h.ofModel_eq, (h.of_perm hp).ofModel_eq]
  exact (Model.facts_perm_of_perm hp).map _

theorem name_of_outcomeOf {fact : Fact} {normal : NormalFact}
    (h : (Review.outcomeOf rules fact).toOption = some normal) : normal.name = fact.name := by
  cases ho : Review.outcomeOf rules fact with
  | error flaw =>
    rw [ho] at h
    cases h
  | ok other =>
    rw [ho] at h
    cases h
    exact (normalize_ok (Review.outcomeOf_ok ho)).1

theorem Model.Distinct.unambiguous (h : m.Distinct) (rules : RuleBase) :
    Unambiguous (Review.ofModel rules m).normalFacts := by
  have hfact : ∀ normal ∈ (Review.ofModel rules m).normalFacts,
      ∃ fact ∈ m.facts, fact.name = normal.name ∧ fact.normalize = .ok normal := by
    intro normal hm
    obtain ⟨fact, hf, ho⟩ := Review.exists_outcomeOf hm
    have hn := Review.outcomeOf_ok ho
    exact ⟨fact, hf, (normalize_ok hn).1.symm, hn⟩
  constructor
  · rw [h.ofModel_eq, Review.normalFacts, List.filterMap_map, List.Nodup, List.pairwise_map]
    refine (List.pairwise_map.1 h.nodup).filterMap _ fun fact fact' hne normal hn normal' hn' => ?_
    dsimp only [Function.comp_apply] at hn hn'
    rwa [name_of_outcomeOf hn, name_of_outcomeOf hn']
  · intro normal hm
    obtain ⟨fact, hf, hname, -⟩ := hfact normal hm
    exact hname ▸ h.notBasic fact hf
  · intro normal hm
    obtain ⟨fact, hf, hname, -⟩ := hfact normal hm
    exact hname ▸ h.plain fact hf
  · intro normal hm form hform name hname
    obtain ⟨fact, hf, -, hn⟩ := hfact normal hm
    refine h.held fact hf name ?_
    rw [Fact.held, hn]
    exact List.mem_flatMap.2 ⟨form, hform, hname⟩

theorem source_of_mem_linksOf {fact : NormalFact} {link : Link} (h : link ∈ Review.linksOf fact) :
    link.source = fact.name := by
  unfold Review.linksOf at h
  split at h
  · obtain ⟨field, -, hl⟩ := List.mem_filterMap.1 h
    obtain ⟨shape, -, hs⟩ := Option.bind_eq_some_iff.1 hl
    obtain ⟨target, -, ht⟩ := Option.bind_eq_some_iff.1 hs
    cases ht
    rfl
  · cases h

theorem normalFacts_perm (hp : r.Perm r') : r.normalFacts.Perm r'.normalFacts := hp.filterMap _

theorem links_perm (hp : r.Perm r') : r.links.Perm r'.links :=
  (normalFacts_perm hp).flatMap_right _

theorem failureDiagnostics_perm (hp : r.Perm r') :
    r.failureDiagnostics.Perm r'.failureDiagnostics := (hp.filterMap _).map _

theorem arranged_perm_of_perm (hp : r.Perm r') : r.arranged.Perm r'.arranged :=
  r.arranged_perm.trans ((normalFacts_perm hp).trans r'.arranged_perm.symm)

/-- Of declarations with names of their own at most one has a given name. -/
theorem filter_name_eq_of_perm {facts facts' : List NormalFact} (hp : facts.Perm facts')
    (hn : (facts.map NormalFact.name).Nodup) (name : String) :
    facts.filter (·.name = name) = facts'.filter (·.name = name) := by
  by_cases h : ∃ fact ∈ facts, fact.name = name
  · obtain ⟨fact, hm, rfl⟩ := h
    rw [filter_eq_singleton hn hm,
      filter_eq_singleton ((hp.map NormalFact.name).nodup_iff.1 hn) (hp.mem_iff.1 hm)]
  · have hnone : ∀ fact ∈ facts, ¬ decide (fact.name = name) = true :=
      fun fact hm he => h ⟨fact, hm, of_decide_eq_true he⟩
    rw [List.filter_eq_nil_iff.2 hnone,
      List.filter_eq_nil_iff.2 fun fact hm => hnone fact (hp.mem_iff.2 hm)]

theorem filter_source_flatMap (facts : List NormalFact) (name : String) :
    (facts.flatMap Review.linksOf).filter (·.source = name) =
      (facts.filter (·.name = name)).flatMap Review.linksOf := by
  induction facts with
  | nil => rfl
  | cons fact rest ih =>
    rw [List.flatMap_cons, List.filter_append, ih]
    by_cases hname : fact.name = name
    · have hall : (Review.linksOf fact).filter (·.source = name) = Review.linksOf fact := by
        refine List.filter_eq_self.2 fun link hl => ?_
        rw [source_of_mem_linksOf hl]
        exact decide_eq_true hname
      rw [hall, List.filter_cons_of_pos (by simpa using hname), List.flatMap_cons]
    · have hnone : (Review.linksOf fact).filter (·.source = name) = [] := by
        refine List.filter_eq_nil_iff.2 fun link hl => ?_
        rw [source_of_mem_linksOf hl]
        simpa using hname
      rw [hnone, List.filter_cons_of_neg (by simpa using hname), List.nil_append]

/-- The links of one type come in the order of its fields. -/
theorem filter_links_eq_of_perm (hp : r.Perm r') (hu : Unambiguous r.normalFacts) (name : String) :
    r.links.filter (·.source = name) = r'.links.filter (·.source = name) := by
  unfold Review.links
  rw [filter_source_flatMap, filter_source_flatMap,
    filter_name_eq_of_perm (normalFacts_perm hp) hu.nodup]

end Reviews

namespace Catalogue

/-- The types of a model with all references settled. -/
def resolved (r : Review) : Catalogue := (sketch r).resolvePending.1

/-- What is wrong with a model, its relationships apart. -/
def problems (r : Review) : List Diagnostic :=
  (resolved r).diagnostics ++
    ((resolved r).types.flatMap NamedType.danglingDiagnostics ++ (resolved r).checks)

/-- The types of a model with their relationships. -/
def completed (r : Review) (failOnOpen : Bool) : Catalogue where
  types := (resolved r).types.map ((resolved r).related r.links)
  names := (resolved r).names
  diagnostics := problems r ++ r.links.flatMap (resolved r).linkDiagnostics
  failOnOpen := failOnOpen
  handles := (resolved r).handles

/-- Two catalogues that differ at most in the order of types and diagnostics. -/
structure SameContent (c c' : Catalogue) : Prop where
  types : (c.types.map (NamedType.mapReferences c.byName)).Perm
    (c'.types.map (NamedType.mapReferences c'.byName))
  type? : ∀ name, (c.type? name).map (NamedType.mapReferences c.byName) =
    (c'.type? name).map (NamedType.mapReferences c'.byName)
  diagnostics : c.diagnostics.Perm c'.diagnostics
  failOnOpen : c.failOnOpen = c'.failOnOpen

/-- Two models are both read, with the same content, or both refused, for the same problems. -/
inductive SameOutcome : Except Error Catalogue → Except Error Catalogue → Prop
  | built {c c' : Catalogue} : SameContent c c' → SameOutcome (.ok c) (.ok c')
  | refused {ps ps' : List String} : ps.Perm ps' →
      SameOutcome (.error (.modelProblems ps)) (.error (.modelProblems ps'))

section Builds

theorem finished_resolved (r : Review) : (resolved r).FinishedFrom r.normalFacts :=
  (sketched_sketch r).finished.1

theorem build_eq (policy : Policy) (m : Model) :
    let r := Review.ofModel policy.rules m
    build policy m =
      if policy.strict && !(problems r).isEmpty then
        .error (.modelProblems ((problems r).map Diagnostic.text))
      else .ok (completed r policy.failOnOpen) := by
  intro r
  have hr : ∀ fact ∈ r.normalFacts, fact.form.fits fact.kind = true :=
    fun fact hm => Review.fits_of_mem hm
  have hreview : ofReview r = (resolved r).diagnoseAll
      ((resolved r).types.flatMap NamedType.danglingDiagnostics ++ (resolved r).checks) :=
    ofReview_eq hr
  have hproblems : (ofReview r).diagnostics = problems r := by
    rw [hreview]
    rfl
  have hcompleted : { (ofReview r).inferAll r.links with failOnOpen := policy.failOnOpen } =
      completed r policy.failOnOpen := by
    rw [hreview, inferAll_eq ((finished_resolved r).toRegistered.diagnoseAll _)]
    rfl
  unfold build
  dsimp only
  rw [hproblems, hcompleted]

theorem eq_completed_of_build {policy : Policy} {m : Model} {c : Catalogue}
    (h : build policy m = .ok c) :
    c = completed (.ofModel policy.rules m) policy.failOnOpen := by
  rw [build_eq policy m] at h
  split at h
  · cases h
  · exact (Except.ok.inj h).symm

theorem renames_resolved (hp : r.Perm r') (hu : Unambiguous r.normalFacts) :
    (resolved r).Renames (resolved r') ((resolved r).translate (resolved r')) :=
  (finished_resolved r).renames (finished_resolved r') hu (normalFacts_perm hp)

theorem problems_perm (hp : r.Perm r') (hu : Unambiguous r.normalFacts) :
    (problems r).Perm (problems r') := by
  have hu' : Unambiguous r'.normalFacts := hu.of_subperm (normalFacts_perm hp).symm.subperm
  have hrenames := renames_resolved hp hu
  have hc := (finished_resolved r).toRegistered
  have hc' := (finished_resolved r').toRegistered
  have hdeclared : (resolved r).diagnostics.Perm (resolved r').diagnostics := by
    change (sketch r).diagnostics.Perm (sketch r').diagnostics
    rw [diagnostics_sketch hu, diagnostics_sketch hu']
    exact (failureDiagnostics_perm hp).append ((arranged_perm_of_perm hp).flatMap_right _)
  have hdangling := hrenames.flatMap_perm hc hc' fun t ht =>
    hrenames.danglingDiagnostics hc fun p hm => (finished_resolved r).reference ht hm
  have hviews := hrenames.flatMap_perm hc hc' fun t _ => hrenames.viewIssues t
  have hfacts := hrenames.flatMap_perm hc hc' fun t _ => hrenames.factIssues t
  exact hdeclared.append (hdangling.append (hviews.append hfacts))

theorem type?_completed (r : Review) (failOnOpen : Bool) (name : String) :
    (completed r failOnOpen).type? name =
      ((resolved r).type? name).map ((resolved r).related r.links) := by
  unfold Catalogue.type? completed
  dsimp only
  change Option.bind ((resolved r).id? name) _ = _
  cases (resolved r).id? name with
  | none => rfl
  | some id => exact List.getElem?_map

theorem byName_completed (r : Review) (failOnOpen : Bool) :
    (completed r failOnOpen).byName = (resolved r).byName := by
  funext reference
  have hplace : ∀ id : Nat, (completed r failOnOpen).types[id]? =
      ((resolved r).types[id]?).map ((resolved r).related r.links) := fun _ => List.getElem?_map
  cases reference with
  | resolved id =>
    unfold byName Catalogue.resolve? refName
    dsimp only [TypeRef.id?, Option.bind_some]
    rw [hplace]
    cases (resolved r).types[id]? <;> rfl
  | _ => rfl

theorem related_mapReferences (c : Catalogue) (links : List Link) (t : NamedType)
    (f : TypeRef → TypeRef) :
    (c.related links t).mapReferences f = c.related links (t.mapReferences f) := by
  obtain ⟨name, body⟩ := t
  cases body <;> rfl

theorem related_congr {c : Catalogue} {links links' : List Link} {t : NamedType}
    (h : links.filter (·.source = t.name) = links'.filter (·.source = t.name)) :
    c.related links t = c.related links' t := by
  unfold related
  rw [h]

theorem sameContent_completed (hp : r.Perm r') (hu : Unambiguous r.normalFacts)
    (failOnOpen : Bool) : SameContent (completed r failOnOpen) (completed r' failOnOpen) := by
  have hrenames := renames_resolved hp hu
  have hc := (finished_resolved r).toRegistered
  have hc' := (finished_resolved r').toRegistered
  have htype : ∀ t, ((resolved r').related r'.links
      (t.mapReferences ((resolved r).translate (resolved r')))).mapReferences (resolved r').byName =
        ((resolved r).related r.links t).mapReferences (resolved r).byName := by
    intro t
    have hby : (resolved r').byName ∘ (resolved r).translate (resolved r') = (resolved r).byName :=
      funext hrenames.byName
    rw [related_mapReferences, related_mapReferences, NamedType.mapReferences_mapReferences, hby,
      hrenames.mirrors.related]
    exact related_congr (filter_links_eq_of_perm hp hu t.name).symm
  refine ⟨?_, fun name => ?_, ?_, rfl⟩
  · have hperm := (hrenames.types_perm hc hc').map fun t =>
      ((resolved r').related r'.links t).mapReferences (resolved r').byName
    have hcontent := (List.map_congr_left fun t (_ : t ∈ (resolved r).types) => htype t).symm
    rw [byName_completed, byName_completed]
    unfold completed
    dsimp only
    rw [List.map_map, List.map_map]
    rw [List.map_map] at hperm
    exact (List.Perm.of_eq hcontent).trans hperm
  · rw [byName_completed, byName_completed, type?_completed, type?_completed, hrenames.type?,
      Option.map_map, Option.map_map, Option.map_map]
    exact congrArg (Option.map · _) (funext fun t => (htype t).symm)
  · refine (problems_perm hp hu).append ?_
    have hlinks : r'.links.flatMap (resolved r').linkDiagnostics =
        r'.links.flatMap (resolved r).linkDiagnostics :=
      List.flatMap_congr fun link _ => hrenames.mirrors.linkDiagnostics link
    exact hlinks ▸ (links_perm hp).flatMap_right _

end Builds

/-- What comes of a model does not depend on the order of its declarations, and without strict
references it is always read. -/
theorem build_of_perm (policy : Policy) (hp : m.Perm m') (hm : m.Distinct) :
    SameOutcome (build policy m) (build policy m') ∧
      (policy.strict = false → ∃ c, build policy m = .ok c) := by
  have hr := hm.ofModel_perm hp policy.rules
  have hu := hm.unambiguous policy.rules
  have hproblems := problems_perm hr hu
  rw [build_eq policy m, build_eq policy m', hproblems.isEmpty_eq]
  refine ⟨?_, fun hs => ?_⟩
  · split
    · exact .refused (hproblems.map _)
    · exact .built (sameContent_completed hr hu policy.failOnOpen)
  · rw [hs]
    exact ⟨_, rfl⟩

theorem build_of_perm_of_cycle :
    let many := Value.node "field" [("name", .text "bs"), ("type", .text "B"),
      ("collection", .text "set"), ("inverse", .text "a")]
    let ghost := Value.node "field" [("name", .text "x"), ("type", .text "Ghost")]
    let one := Value.node "field" [("name", .text "a"), ("type", .text "A")]
    let a : Declaration := ⟨"entity", [("name", .text "A"), ("fields", .list [many, ghost])]⟩
    let b : Declaration := ⟨"entity", [("name", .text "B"), ("fields", .list [one])]⟩
    let policy : Policy := ⟨.permissive, false, false⟩
    [a, b].Perm [b, a] ∧ Model.Distinct [a, b] ∧
      SameOutcome (build policy [a, b]) (build policy [b, a]) ∧
      (∃ c, build policy [a, b] = .ok c ∧ c.id? "A" = some 12 ∧ c.id? "set<B>" = some 11) ∧
      ∃ c, build policy [b, a] = .ok c ∧ c.id? "A" = some 13 ∧ c.id? "set<B>" = some 12 := by
  intro many ghost one a b policy
  have hp : [a, b].Perm [b, a] := .swap b a []
  have hm : Model.Distinct [a, b] :=
    ⟨by decide +kernel, by decide +kernel, by decide +kernel, by decide +kernel⟩
  have hsame := build_of_perm policy hp hm
  have hbuild : ∀ m, build policy m =
      .ok { (ofReview (.ofModel .permissive m)).inferAll (Review.ofModel .permissive m).links with
        failOnOpen := false } := fun _ => rfl
  refine ⟨hp, hm, hsame.1, ⟨_, hbuild _, ?_, ?_⟩, _, hbuild _, ?_, ?_⟩
  all_goals decide +kernel

end Catalogue

end Cardfile
