import Cardfile.Proofs.Drafts
import Cardfile.Proofs.Inferring

/-! # Resolving

While a catalogue is built its references stand for names. In the end each leads to the type of
its name, or is told to lead nowhere, wherever it was made and whatever was there at that time.
-/

namespace Cardfile

namespace Issue

/-- Where an issue is found: at a declaration by itself, at a reference, in the checks of the whole
or at the inverse of a link. -/
inductive Stage
  | declaration | reference | check | link
  deriving DecidableEq

def isUndeclaredType : Issue → Bool
  | undeclaredType _ _ => true
  | _ => false

def stage : Issue → Stage
  | failedCheck _ _ => .declaration
  | rejected _ => .declaration
  | droppedField _ => .declaration
  | undeclaredKey _ => .declaration
  | undeclaredType _ _ => .reference
  | ancestorKind _ => .check
  | ancestorField _ _ => .check
  | factReference _ _ => .check
  | inverseElsewhere _ _ _ => .link
  | inverseMissing _ _ => .link

theorem isUndeclaredType_eq (issue : Issue) :
    issue.isUndeclaredType = decide (issue.stage = .reference) := by
  cases issue <;> rfl

end Issue

/-- What is to be told of the dangling references of a type. -/
def NamedType.danglingDiagnostics (t : NamedType) : List Diagnostic :=
  t.body.references.filterMap fun r =>
    match r.2 with
    | .dangling target => some ⟨t.name, .undeclaredType r.1 target⟩
    | _ => none

def DanglingRef.diagnostic (r : DanglingRef) : Diagnostic :=
  ⟨r.owner, .undeclaredType r.place r.target⟩

namespace Review

def failureDiagnostics (r : Review) : List Diagnostic :=
  r.failures.map fun f => ⟨f.1.name, .failedCheck f.1.kind f.2⟩

/-- The declarations in order, kind by kind. -/
def arranged (r : Review) : List NormalFact := Kind.all.flatMap r.normalOfKind

theorem arranged_perm (r : Review) : r.arranged.Perm r.normalFacts :=
  flatMap_filter_perm NormalFact.kind (by decide) fun fact _ => by
    cases fact.kind <;> decide

end Review

variable {c d : Catalogue} {name : String} {t : NamedType} {body : TypeBody} {draft : Draft}
  {fields : List FieldForm} {facts facts' before : List NormalFact} {fact : NormalFact} {r : Review}
  {f : TypeRef → TypeRef} {ref : String → TypeRef}

section References

/-- The references of a component with their places. -/
def ComponentType.references (c : ComponentType) : List (Place × TypeRef) :=
  c.fields.map (fun field => (.field field.name, field.type)) ++ c.ancestors.map (.ancestor, ·)

theorem ComponentType.references_mapReferences (c : ComponentType) (f : TypeRef → TypeRef) :
    (c.mapReferences f).references = c.references.map fun r => (r.1, f r.2) := by
  simp only [references, mapReferences, List.map_append, List.map_map]
  rfl

theorem ComponentType.mapReferences_eq_self {c : ComponentType}
    (h : ∀ r ∈ c.references, f r.2 = r.2) : c.mapReferences f = c := by
  have hfields : c.fields.map (Field.mapReference f) = c.fields := by
    refine (List.map_congr_left fun field hm => ?_).trans (List.map_id _)
    have hfield := h _ (List.mem_append_left _ (List.mem_map_of_mem hm))
    rw [Field.mapReference, hfield]
    rfl
  have hancestors : c.ancestors.map f = c.ancestors := by
    refine (List.map_congr_left fun r hm => ?_).trans (List.map_id _)
    exact h _ (List.mem_append_right _ (List.mem_map_of_mem hm))
  rw [mapReferences, hfields, hancestors]

theorem TypeBody.references_mapReferences (b : TypeBody) (f : TypeRef → TypeRef) :
    (b.mapReferences f).references = b.references.map fun r => (r.1, f r.2) := by
  cases b with
  | collection t =>
    obtain ⟨kind, element, key⟩ := t
    cases key <;> rfl
  | component | entity | dimension | fact | view =>
    exact ComponentType.references_mapReferences _ f
  | _ => rfl

theorem TypeBody.mapReferences_eq_self {b : TypeBody} (h : ∀ r ∈ b.references, f r.2 = r.2) :
    b.mapReferences f = b := by
  cases b with
  | collection t =>
    obtain ⟨kind, element, key⟩ := t
    have helement : f element = element := h _ List.mem_cons_self
    cases key with
    | none => rw [mapReferences, helement]; rfl
    | some key =>
      have hkey : f key = key := h _ (List.mem_cons_of_mem _ List.mem_cons_self)
      rw [mapReferences, helement, Option.map_some, hkey]
  | component c => exact congrArg component (ComponentType.mapReferences_eq_self h)
  | view c => exact congrArg view (ComponentType.mapReferences_eq_self h)
  | entity e =>
    have hc := ComponentType.mapReferences_eq_self (c := e.component) h
    exact congrArg (fun c => entity { e with component := c }) hc
  | dimension e =>
    have hc := ComponentType.mapReferences_eq_self (c := e.component) h
    exact congrArg (fun c => dimension { e with component := c }) hc
  | fact t =>
    have hc := ComponentType.mapReferences_eq_self (c := t.entity.component) h
    exact congrArg (fun c => fact { t with entity := { t.entity with component := c } }) hc
  | _ => rfl

theorem TypeBody.references_of_host? {b : TypeBody} (h : b.host?.isSome = true) :
    b.references = [] := by
  cases b <;> first | rfl | cases h

theorem TypeBody.component?_of_host? {b : TypeBody} (h : b.host?.isSome = true) :
    b.component? = none := by
  cases b <;> first | rfl | cases h

theorem component?_componentBody (kind : Kind) (form : ComponentForm) (c : ComponentType) :
    (Catalogue.componentBody kind form c).component? = some c := by
  cases kind <;> rfl

theorem references_componentBody (kind : Kind) (form : ComponentForm) (c : ComponentType) :
    (Catalogue.componentBody kind form c).references = c.references := by
  cases kind <;> rfl

/-- Fields and ancestors refer to names. -/
theorem references_typed (ref : String → TypeRef) (form : ComponentForm) :
    ∀ r ∈ (form.typed ref).references, ∃ name, r.2 = ref name := by
  intro r hr
  rcases List.mem_append.1 hr with hr | hr
  · obtain ⟨field, hf, rfl⟩ := List.mem_map.1 hr
    obtain ⟨form, -, hform⟩ := List.mem_filterMap.1 hf
    obtain ⟨shape, -, rfl⟩ := Option.map_eq_some_iff.1 hform
    exact ⟨_, rfl⟩
  · obtain ⟨r', hr', rfl⟩ := List.mem_map.1 hr
    obtain ⟨name, -, rfl⟩ := List.mem_map.1 hr'
    exact ⟨name, rfl⟩

/-- All types refer to names. -/
theorem Origin.references (h : Origin fields facts name draft) (ref : String → TypeRef) :
    ∀ r ∈ (draft ref).references, ∃ name, r.2 = ref name := by
  cases h with
  | basic host => exact fun _ hr => absurd hr List.not_mem_nil
  | declared hm hd =>
    rcases Catalogue.draft?_cases hd with ⟨form, -, rfl⟩ | ⟨body, hb, rfl⟩
    · intro r hr
      dsimp only at hr
      rw [references_componentBody] at hr
      exact references_typed ref form r hr
    · intro r hr
      dsimp only at hr
      rw [TypeBody.references_of_host? hb] at hr
      cases hr
  | @collection field kind element key hm hs =>
    intro r hr
    rcases List.mem_cons.1 hr with rfl | hr
    · exact ⟨element, rfl⟩
    · cases key with
      | none => cases hr
      | some key =>
        rw [List.mem_singleton.1 hr]
        exact ⟨key, rfl⟩

end References

namespace Catalogue

/-- A catalogue before its references are settled: all types are there, and nothing has been told
of references. -/
structure Sketched (c : Catalogue) (fields : List FieldForm) (facts : List NormalFact) : Prop
    extends c.Drafted fields facts where
  collections : ∀ fact ∈ facts, c.HasCollections fact.fields
  declared : ∀ fact ∈ facts, c.HasType fact
  untold : ∀ x ∈ c.diagnostics, x.issue.isUndeclaredType = false

/-- A catalogue with all references settled. -/
structure Finished (c : Catalogue) (fields : List FieldForm) (facts : List NormalFact) : Prop
    extends c.Registered where
  origin : ∀ t ∈ c.types, ∃ draft, Origin fields facts t.name draft ∧ t.body = draft c.final
  collections : ∀ fact ∈ facts, c.HasCollections fact.fields
  declared : ∀ fact ∈ facts, c.HasType fact

/-- A finished catalogue whose fields are those of its declarations. -/
abbrev FinishedFrom (c : Catalogue) (facts : List NormalFact) : Prop :=
  c.Finished (facts.flatMap NormalFact.fields) facts

section Building

theorem stage_diagnostics (fact : NormalFact) :
    ∀ x ∈ fact.diagnostics, x.issue.stage = .declaration := by
  intro x hx
  obtain ⟨issue, hi, rfl⟩ := List.mem_map.1 hx
  obtain ⟨name, kind, form⟩ := fact
  cases form with
  | component form =>
    rcases List.mem_append.1 hi with hi | hi
    · obtain ⟨field, -, hf⟩ := List.mem_filterMap.1 hi
      unfold FieldForm.droppedIssue? at hf
      split at hf
      · cases hf
        rfl
      · cases hf
    · obtain ⟨key, -, rfl⟩ := List.mem_map.1 hi
      rfl
  | enumeration => cases hi
  | hierarchy =>
    obtain ⟨cause, -, rfl⟩ := List.mem_map.1 hi
    rfl
  | stringPattern pattern maxLength =>
    unfold NormalFact.issues restriction at hi
    dsimp only at hi
    cases hp : StringPattern.ofText pattern maxLength with
    | error cause =>
      rw [hp] at hi
      rw [List.mem_singleton.1 hi]
      rfl
    | ok p =>
      rw [hp] at hi
      cases hi
  | _ => cases hi

theorem Sketched.add (h : c.Sketched fields facts) (hf : fact.fields ⊆ fields) :
    (c.addFact fact).Sketched fields (fact :: facts) := by
  have hadds := adds_addFact h.toRegistered hf
  have hextra : ∀ d body?, c.Readies fields fact d body? →
      ∀ x ∈ d.diagnostics, x.issue.isUndeclaredType = false := by
    intro d body? hp x hx
    rw [hp.diagnostics] at hx
    rcases List.mem_append.1 hx with hx | hx
    · exact h.untold x hx
    · rw [Issue.isUndeclaredType_eq, stage_diagnostics fact x hx]
      rfl
  refine ⟨hadds.drafted h.toDrafted, fun other hm => ?_, fun other hm => ?_, fun x hx => ?_⟩
  · rcases List.mem_cons.1 hm with rfl | hm
    · exact hadds.collections
    · exact (h.collections other hm).mono hadds.grows
  · rcases List.mem_cons.1 hm with rfl | hm
    · exact hadds.hasType
    · exact (h.declared other hm).mono hadds.grows
  · generalize c.addFact fact = e at hadds hx
    cases hadds with
    | nothing hp => exact hextra _ _ hp x hx
    | pushed hp => exact hextra _ _ hp x hx
    | refused hp =>
      rcases List.mem_append.1 hx with hx | hx
      · exact hextra _ _ hp x hx
      · rw [List.mem_singleton.1 hx]
        rfl

theorem Sketched.addAll (h : c.Sketched fields before) (hf : ∀ fact ∈ facts, fact.fields ⊆ fields) :
    (facts.foldl addFact c).Sketched fields (facts.reverse ++ before) := by
  induction facts generalizing c before with
  | nil => exact h
  | cons fact rest ih =>
    obtain ⟨hfirst, hrest⟩ := List.forall_mem_cons.1 hf
    rw [List.reverse_cons, List.append_assoc]
    exact ih (h.add hfirst) hrest

theorem Sketched.of_perm (h : c.Sketched fields facts) (hp : facts.Perm facts') :
    c.Sketched fields facts' :=
  ⟨h.toDrafted.mono hp.subset, fun fact hm => h.collections fact (hp.mem_iff.2 hm),
    fun fact hm => h.declared fact (hp.mem_iff.2 hm), h.untold⟩

/-- The types of a model with the references as they were made. -/
def sketch (r : Review) : Catalogue :=
  r.arranged.foldl addFact (basic.diagnoseAll r.failureDiagnostics)

theorem sketched_start (r : Review) (fields : List FieldForm) :
    (basic.diagnoseAll r.failureDiagnostics).Sketched fields [] := by
  refine ⟨(drafted_basic _).diagnoseAll _, fun _ hm => absurd hm List.not_mem_nil,
    fun _ hm => absurd hm List.not_mem_nil, ?_⟩
  intro x hx
  obtain ⟨failure, -, rfl⟩ := List.mem_map.1 hx
  rfl

theorem fields_of_arranged (r : Review) :
    ∀ fact ∈ r.arranged, fact.fields ⊆ r.normalFacts.flatMap NormalFact.fields :=
  fun fact hm _ hf => List.mem_flatMap.2 ⟨fact, r.arranged_perm.mem_iff.1 hm, hf⟩

theorem sketched_sketch (r : Review) :
    (sketch r).Sketched (r.normalFacts.flatMap NormalFact.fields) r.normalFacts := by
  have hall := (sketched_start r _).addAll (fields_of_arranged r)
  rw [List.append_nil] at hall
  exact hall.of_perm ((List.reverse_perm _).trans r.arranged_perm)

theorem addKinds_eq {add : Catalogue → NormalFact → Catalogue} {kinds : List Kind}
    (h : ∀ c fact, fact ∈ r.normalFacts → fact.kind ∈ kinds → add c fact = c.addFact fact)
    (c : Catalogue) :
    addKinds r kinds add c = (kinds.flatMap r.normalOfKind).foldl addFact c := by
  unfold addKinds
  refine List.foldl_ext _ _ _ fun c fact hm => ?_
  obtain ⟨kind, hk, hf⟩ := List.mem_flatMap.1 hm
  obtain ⟨hmem, he⟩ := List.mem_filter.1 hf
  exact h c fact hmem (of_decide_eq_true he ▸ hk)

/-- All declarations add their types in one way. -/
theorem sketch_eq (hr : ∀ fact ∈ r.normalFacts, fact.form.fits fact.kind = true) :
    sketch r = addKinds r Kind.componentFamily addComponent
      (addKinds r [.hierarchy] addHierarchy
        (addKinds r [.enumeration] addEnumeration
          (addKinds r Kind.restricted addRestriction
            (basic.diagnoseAll r.failureDiagnostics)))) := by
  have hrestricted : ∀ c, addKinds r Kind.restricted addRestriction c = _ :=
    addKinds_eq fun c fact hm hk => addRestriction_eq (hr fact hm) hk c
  have henumeration : ∀ c, addKinds r [.enumeration] addEnumeration c = _ :=
    addKinds_eq fun c fact hm hk => addEnumeration_eq (List.mem_singleton.1 hk ▸ hr fact hm) c
  have hhierarchy : ∀ c, addKinds r [.hierarchy] addHierarchy c = _ :=
    addKinds_eq fun c fact hm hk => addHierarchy_eq (List.mem_singleton.1 hk ▸ hr fact hm) c
  have hcomponent : ∀ c, addKinds r Kind.componentFamily addComponent c = _ :=
    addKinds_eq fun c fact hm hk => addComponent_eq (hr fact hm) hk c
  rw [hrestricted, henumeration, hhierarchy, hcomponent, ← List.foldl_append,
    ← List.foldl_append, ← List.foldl_append, ← List.flatMap_append, ← List.flatMap_append,
    ← List.flatMap_append]
  rfl

end Building

section Settling

/-- References that have been made are not dangling yet. -/
theorem Draws.not_dangling (h : c.Draws body draft) {p : Place × TypeRef}
    (hp : p ∈ body.references) (target : String) : p.2 ≠ .dangling target := by
  -- a function that tells dangling references from others reads the same names as a constant one
  let mark : TypeRef → TypeRef := fun
    | .dangling _ => .dangling ""
    | _ => .pending ""
  have hmark : c.Reads mark fun _ => .pending "" := fun _ _ hs => by cases hs <;> rfl
  have hconst : c.Reads (fun _ => .pending "") fun _ => .pending "" := fun _ _ _ => rfl
  have hbodies := congrArg TypeBody.references ((h hmark).trans (h hconst).symm)
  rw [TypeBody.references_mapReferences, TypeBody.references_mapReferences] at hbodies
  have hmarked := congrArg Prod.snd (List.map_inj_left.1 hbodies p hp)
  intro he
  rw [he] at hmarked
  cases hmarked

/-- What is left dangling is told. -/
theorem map_diagnostic_unresolved (h : c.Draws t.body draft) :
    (unresolved c.names t).map DanglingRef.diagnostic =
      (t.mapReferences (settle c.names)).danglingDiagnostics := by
  unfold unresolved NamedType.danglingDiagnostics NamedType.mapReferences
  dsimp only
  rw [TypeBody.references_mapReferences, List.filterMap_map, List.map_filterMap]
  refine List.filterMap_congr fun p hp => ?_
  obtain ⟨place, reference⟩ := p
  cases reference with
  | resolved id => rfl
  | dangling target => exact absurd rfl (h.not_dangling hp target)
  | pending target =>
    dsimp only [Function.comp_apply, settle]
    unfold Dict.contains
    cases c.names.get? target <;> rfl

theorem Sketched.finished (h : c.Sketched fields facts) :
    c.resolvePending.1.Finished fields facts ∧
      c.resolvePending.2.map DanglingRef.diagnostic =
        c.resolvePending.1.types.flatMap NamedType.danglingDiagnostics := by
  have htypes : c.resolvePending.1.types =
      c.types.map (NamedType.mapReferences (settle c.names)) := rfl
  have hregistered := h.map (f := NamedType.mapReferences (settle c.names)) (fun _ => rfl)
    (fun _ _ => rfl) c.diagnostics
  refine ⟨⟨hregistered, fun t ht => ?_, h.collections, h.declared⟩, ?_⟩
  · rw [htypes] at ht
    obtain ⟨u, hu, rfl⟩ := List.mem_map.1 ht
    obtain ⟨draft, ho, hb⟩ := h.origin u hu
    exact ⟨draft, ho, hb c.reads_settle⟩
  · rw [htypes, List.flatMap_map, resolvePending, List.map_flatMap]
    refine List.flatMap_congr fun t ht => ?_
    obtain ⟨draft, -, hb⟩ := h.origin t ht
    exact map_diagnostic_unresolved hb

/-- What is wrong with views and facts as they refer to other types. -/
def checks (c : Catalogue) : List Diagnostic :=
  c.types.flatMap c.viewIssues ++ c.types.flatMap c.factIssues

theorem ofReview_eq (hr : ∀ fact ∈ r.normalFacts, fact.form.fits fact.kind = true) :
    let d := (sketch r).resolvePending.1
    ofReview r =
      d.diagnoseAll (d.types.flatMap NamedType.danglingDiagnostics ++ d.checks) := by
  intro d
  have htold := (sketched_sketch r).finished.2
  rw [← htold]
  unfold ofReview
  dsimp only
  have hsketch := sketch_eq hr
  unfold Review.failureDiagnostics at hsketch
  rw [← hsketch]
  simp only [diagnoseAll, List.append_assoc]
  rfl

theorem stage_checks (c : Catalogue) : ∀ x ∈ c.checks, x.issue.stage = .check := by
  intro x hx
  rcases List.mem_append.1 hx with hx | hx
  · obtain ⟨t, -, ht⟩ := List.mem_flatMap.1 hx
    unfold viewIssues at ht
    split at ht
    · next view _ =>
      obtain ⟨issue, hi, rfl⟩ := List.mem_map.1 ht
      obtain ⟨ancestor, -, ha⟩ := List.mem_flatMap.1 hi
      unfold ancestorIssues at ha
      split at ha
      · cases ha
      · split at ha
        · rw [List.mem_singleton.1 ha]
          rfl
        · obtain ⟨name, -, rfl⟩ := List.mem_map.1 ha
          rfl
    · cases ht
  · obtain ⟨t, -, ht⟩ := List.mem_flatMap.1 hx
    unfold factIssues at ht
    split at ht
    · obtain ⟨field, -, hf⟩ := List.mem_filterMap.1 ht
      split at hf
      · cases hf
      · split at hf
        · cases hf
          rfl
        · cases hf
    · cases ht

theorem stage_linkDiagnostics (c : Catalogue) (link : Link) :
    ∀ x ∈ c.linkDiagnostics link, x.issue.stage = .link := by
  intro x hx
  unfold linkDiagnostics at hx
  split at hx
  · split at hx
    · next issue hi =>
      obtain ⟨inverse, -, he⟩ := Option.map_eq_some_iff.1 hi
      rw [List.mem_singleton.1 hx]
      split at he
      · cases he
        rfl
      · split at he
        · cases he
        · cases he
          rfl
    · cases hx
  · cases hx

end Settling

/-- A catalogue whose references have become what they were made for. Each is that of a name; it
leads to the type of this name, or none has the name and the owner of the reference is told so. -/
structure Settled (r : Review) (c : Catalogue) : Prop extends c.Registered where
  pending : c.hasPending = false
  placed : ∀ t ∈ c.types, ∀ p ∈ t.body.references, ∀ id, p.2 = .resolved id → id < c.types.length
  components : ∀ t ∈ c.types, ∀ component, t.body.component? = some component →
    ∃ fact ∈ r.normalFacts, ∃ form, fact.name = t.name ∧ fact.component? = some form ∧
      component = form.typed c.final
  collections : ∀ t ∈ c.types, ∀ held, t.body = .collection held →
    ∃ fact ∈ r.normalFacts, ∃ field ∈ fact.fields, ∃ element key,
      field.shape = some (.collection held.kind element key) ∧
        t.name = (Shape.collection held.kind element key).typeName ∧
        held = ⟨held.kind, c.final element, key.map c.final⟩
  found : ∀ t ∈ c.types, ∀ component, t.body.component? = some component →
    ∀ field ∈ component.fields, field.kind = .collection → ∃ id, field.type = .resolved id
  told : c.diagnostics.filter (·.issue.isUndeclaredType) =
    c.types.flatMap NamedType.danglingDiagnostics
  again : c.resolvePending = (c, [])

section Settled

variable {id : Nat} {links : List Link} {ds : List Diagnostic} {p : Place × TypeRef}

theorem Registered.lt_of_final (h : c.Registered) (hf : c.final name = .resolved id) :
    id < c.types.length := by
  unfold final at hf
  split at hf
  · next hid =>
    cases hf
    obtain ⟨t, ht, -⟩ := h.stands hid
    exact (List.getElem?_eq_some_iff.1 ht).1
  · cases hf

theorem settle_final (c : Catalogue) (names : Dict String Nat) (name : String) :
    settle names (c.final name) = c.final name := by
  unfold final
  split <;> rfl

theorem isPending_final (c : Catalogue) (name : String) : (c.final name).isPending = false := by
  unfold final
  split <;> rfl

theorem Finished.reference (h : c.Finished fields facts) (ht : t ∈ c.types)
    (hp : p ∈ t.body.references) : ∃ name, p.2 = c.final name := by
  obtain ⟨draft, ho, hb⟩ := h.origin t ht
  rw [hb] at hp
  exact ho.references c.final p hp

/-- A type with fields is what one of the declarations drafts. -/
theorem Finished.draft_of_component (h : c.Finished fields facts) (ht : t ∈ c.types)
    {component : ComponentType} (hc : t.body.component? = some component) :
    ∃ fact ∈ facts, ∃ form, fact.component? = some form ∧
      t = ⟨fact.name, componentBody fact.kind form (form.typed c.final)⟩ := by
  obtain ⟨name, body⟩ := t
  obtain ⟨draft, ho, rfl⟩ := h.origin _ ht
  cases ho with
  | basic => cases hc
  | collection => cases hc
  | @declared fact _ hm hd =>
    rcases draft?_cases hd with ⟨form, hform, rfl⟩ | ⟨body, hhost, rfl⟩
    · exact ⟨fact, hm, form, hform, rfl⟩
    · dsimp only at hc
      rw [TypeBody.component?_of_host? hhost] at hc
      cases hc

theorem Finished.component (h : c.Finished fields facts) (ht : t ∈ c.types)
    {component : ComponentType} (hc : t.body.component? = some component) :
    ∃ fact ∈ facts, ∃ form, fact.name = t.name ∧ fact.component? = some form ∧
      component = form.typed c.final := by
  obtain ⟨fact, hm, form, hform, rfl⟩ := h.draft_of_component ht hc
  dsimp only at hc
  rw [component?_componentBody] at hc
  exact ⟨fact, hm, form, rfl, hform, (Option.some.inj hc).symm⟩

theorem Finished.collection (h : c.Finished fields facts) (ht : t ∈ c.types)
    {held : CollectionType} (hc : t.body = .collection held) :
    ∃ field ∈ fields, ∃ element key, field.shape = some (.collection held.kind element key) ∧
      t.name = (Shape.collection held.kind element key).typeName ∧
      held = ⟨held.kind, c.final element, key.map c.final⟩ := by
  obtain ⟨draft, ho, hb⟩ := h.origin t ht
  rw [hb] at hc
  generalize hname : t.name = name at ho ⊢
  cases ho with
  | basic => cases hc
  | @collection field kind element key hm hs =>
    cases hc
    exact ⟨field, hm, element, key, hs, rfl, rfl⟩
  | @declared fact _ hm hd =>
    rcases draft?_cases hd with ⟨form, hform, rfl⟩ | ⟨body, hhost, rfl⟩
    · have hcomponent := component?_componentBody fact.kind form (form.typed c.final)
      dsimp only at hc
      rw [hc] at hcomponent
      cases hcomponent
    · dsimp only at hc
      rw [hc] at hhost
      cases hhost

/-- A collection that a field holds has a type. -/
theorem Finished.found (h : c.Finished fields facts) (ht : t ∈ c.types)
    {component : ComponentType} (hc : t.body.component? = some component) :
    ∀ field ∈ component.fields, field.kind = .collection → ∃ id, field.type = .resolved id := by
  obtain ⟨fact, hm, form, -, hform, rfl⟩ := h.component ht hc
  intro field hf hk
  obtain ⟨fieldForm, hff, hfield⟩ := List.mem_filterMap.1 hf
  obtain ⟨shape, hs, rfl⟩ := Option.map_eq_some_iff.1 hfield
  have hfields : fact.fields = form.fields := by
    unfold NormalFact.fields
    rw [hform]
    rfl
  obtain ⟨id, hid⟩ := h.collections fact hm fieldForm (hfields ▸ hff) shape hs hk
  exact ⟨id, by dsimp only; rw [final, hid]⟩

theorem resolvePending_of_settled
    (h : ∀ t ∈ c.types, ∀ p ∈ t.body.references, ∃ name, p.2 = c.final name) :
    c.resolvePending = (c, []) := by
  have htypes : c.types.map (NamedType.mapReferences (settle c.names)) = c.types := by
    refine (List.map_congr_left fun t ht => ?_).trans (List.map_id _)
    unfold NamedType.mapReferences
    rw [TypeBody.mapReferences_eq_self fun p hp => ?_]
    · rfl
    · obtain ⟨name, hname⟩ := h t ht p hp
      rw [hname, settle_final]
  have hnone : c.types.flatMap (unresolved c.names) = [] := by
    refine List.flatMap_eq_nil_iff.2 fun t ht => List.filterMap_eq_nil_iff.2 fun p hp => ?_
    obtain ⟨name, hname⟩ := h t ht p hp
    have hpending := c.isPending_final name
    rw [← hname] at hpending
    split
    · next he =>
      rw [he] at hpending
      cases hpending
    · rfl
  have hresolve : c.resolvePending =
      ({ c with types := c.types.map (NamedType.mapReferences (settle c.names)) },
        c.types.flatMap (unresolved c.names)) := rfl
  rw [hresolve, htypes, hnone]

theorem filter_untold {l : List Diagnostic} (h : ∀ x ∈ l, x.issue.isUndeclaredType = false) :
    l.filter (·.issue.isUndeclaredType) = [] :=
  List.filter_eq_nil_iff.2 fun x hx => by rw [h x hx]; decide

theorem filter_untold_of_stage {l : List Diagnostic} {stage : Issue.Stage}
    (h : ∀ x ∈ l, x.issue.stage = stage) (hs : stage ≠ .reference) :
    l.filter (·.issue.isUndeclaredType) = [] :=
  filter_untold fun x hx => by rw [Issue.isUndeclaredType_eq, h x hx, decide_eq_false hs]

theorem stage_danglingDiagnostics (t : NamedType) :
    ∀ x ∈ t.danglingDiagnostics, x.issue.stage = .reference := by
  intro x hx
  obtain ⟨p, -, hp⟩ := List.mem_filterMap.1 hx
  split at hp
  · cases hp
    rfl
  · cases hp

/-- Only dangling references are told to be so. -/
theorem Sketched.told (h : c.Sketched fields facts) :
    let d := c.resolvePending.1
    (d.diagnoseAll (d.types.flatMap NamedType.danglingDiagnostics ++ d.checks)).diagnostics.filter
      (·.issue.isUndeclaredType) = d.types.flatMap NamedType.danglingDiagnostics := by
  intro d
  have hdangling : ∀ x ∈ d.types.flatMap NamedType.danglingDiagnostics,
      x.issue.isUndeclaredType = true := by
    intro x hx
    obtain ⟨t, -, ht⟩ := List.mem_flatMap.1 hx
    rw [Issue.isUndeclaredType_eq, stage_danglingDiagnostics t x ht]
    rfl
  have huntold : ∀ x ∈ d.diagnostics, x.issue.isUndeclaredType = false := h.untold
  unfold Catalogue.diagnoseAll
  dsimp only
  rw [List.filter_append, List.filter_append, filter_untold huntold,
    filter_untold_of_stage d.stage_checks (by decide), List.filter_eq_self.2 hdangling,
    List.nil_append, List.append_nil]

theorem danglingDiagnostics_related (c : Catalogue) (links : List Link) (t : NamedType) :
    (c.related links t).danglingDiagnostics = t.danglingDiagnostics := by
  unfold NamedType.danglingDiagnostics
  rw [references_related]
  rfl

theorem body_of_related {held : CollectionType}
    (h : (c.related links t).body = .collection held) : t.body = .collection held := by
  obtain ⟨name, body⟩ := t
  cases body <;> first | exact h | cases h

theorem Finished.diagnoseAll (h : c.Finished fields facts) (ds : List Diagnostic) :
    (c.diagnoseAll ds).Finished fields facts :=
  ⟨h.toRegistered.diagnoseAll ds, h.origin, h.collections, h.declared⟩

theorem Finished.settled (h : c.FinishedFrom r.normalFacts)
    (hd : c.diagnostics.filter (·.issue.isUndeclaredType) =
      c.types.flatMap NamedType.danglingDiagnostics)
    (links : List Link) (failOnOpen : Bool) :
    Settled r { c.inferAll links with failOnOpen := failOnOpen } := by
  rw [inferAll_eq h.toRegistered]
  have hregistered := h.related links (c.diagnostics ++ links.flatMap c.linkDiagnostics)
  have hreference : ∀ t ∈ c.types.map (c.related links), ∀ p ∈ t.body.references,
      ∃ name, p.2 = c.final name := by
    intro t ht p hp
    obtain ⟨u, hu, rfl⟩ := List.mem_map.1 ht
    rw [references_related] at hp
    exact h.reference hu hp
  refine ⟨⟨hregistered.leads, hregistered.stands, hregistered.basic⟩, ?_, ?_, ?_, ?_, ?_, ?_, ?_⟩
  · refine List.any_eq_false.2 fun t ht => ?_
    refine Bool.eq_false_iff.1 (List.any_eq_false.2 fun p hp => ?_)
    obtain ⟨name, hname⟩ := hreference t ht p hp
    rw [hname, isPending_final]
    exact Bool.false_ne_true
  · intro t ht p hp id hid
    obtain ⟨name, hname⟩ := hreference t ht p hp
    rw [List.length_map]
    exact h.lt_of_final (hname.symm.trans hid)
  · intro t ht component hc
    obtain ⟨u, hu, rfl⟩ := List.mem_map.1 ht
    rw [component?_related] at hc
    exact h.component hu hc
  · intro t ht held hc
    obtain ⟨u, hu, rfl⟩ := List.mem_map.1 ht
    obtain ⟨field, hf, found⟩ := h.collection hu (body_of_related hc)
    obtain ⟨fact, hm, hfield⟩ := List.mem_flatMap.1 hf
    exact ⟨fact, hm, field, hfield, found⟩
  · intro t ht component hc
    obtain ⟨u, hu, rfl⟩ := List.mem_map.1 ht
    rw [component?_related] at hc
    exact h.found hu hc
  · have hlinks : ∀ x ∈ links.flatMap c.linkDiagnostics, x.issue.stage = .link := by
      intro x hx
      obtain ⟨link, -, hl⟩ := List.mem_flatMap.1 hx
      exact stage_linkDiagnostics c link x hl
    dsimp only
    rw [List.filter_append, filter_untold_of_stage hlinks (by decide), List.append_nil, hd,
      List.flatMap_map]
    exact List.flatMap_congr fun t _ => (danglingDiagnostics_related c links t).symm
  · exact resolvePending_of_settled hreference

end Settled

/-- In every catalogue that is built, each reference leads to the type of the name that it was made
for, or it is dangling and told of, whatever the order of declarations. -/
theorem references_settled {policy : Policy} {m : Model} (h : build policy m = .ok c) :
    Settled (.ofModel policy.rules m) c := by
  have hr : ∀ fact ∈ (Review.ofModel policy.rules m).normalFacts,
      fact.form.fits fact.kind = true := fun fact hm => Review.fits_of_mem hm
  unfold build at h
  dsimp only at h
  split at h
  · cases h
  · cases h
    have hsketch := sketched_sketch (.ofModel policy.rules m)
    rw [ofReview_eq hr]
    exact (hsketch.finished.1.diagnoseAll _).settled hsketch.told _ _

theorem references_settled_of_cycle :
    let field := fun name type => Value.node "field" [("name", .text name), ("type", .text type)]
    let m : Model := [
      ⟨"component", [("name", .text "A"), ("fields", .list [field "b" "B", field "x" "Ghost"])]⟩,
      ⟨"component", [("name", .text "B"), ("fields", .list [field "a" "A"])]⟩]
    ∃ c, build ⟨.permissive, false, false⟩ m = .ok c ∧ Settled (.ofModel .permissive m) c ∧
      (c.component? "A").map (·.fields.map Field.type) = some [.resolved 12, .dangling "Ghost"] ∧
      (c.component? "B").map (·.fields.map Field.type) = some [.resolved 11] := by
  intro field m
  have hbuild : build ⟨.permissive, false, false⟩ m =
      .ok { (ofReview (.ofModel .permissive m)).inferAll (Review.ofModel .permissive m).links with
        failOnOpen := false } := rfl
  have hsettled := references_settled hbuild
  refine ⟨_, hbuild, hsettled, ?_, ?_⟩
  · decide +kernel
  · decide +kernel

end Catalogue

end Cardfile
