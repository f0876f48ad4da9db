import Cardfile.Proofs.Declared
import Cardfile.Proofs.Problems

/-! # Faithfulness

A catalogue that is read with strict references has every declaration of its model, as it was
declared, and refers to nothing that it lacks.
-/

namespace Cardfile

/-- The kind of the declarations that bring in such a type. -/
def TypeBody.kind? : TypeBody → Option Kind
  | basic _ => none
  | integerRange _ _ => some .integerRange
  | realRange _ _ => some .realRange
  | stringPattern _ => some .stringPattern
  | dateRange _ _ => some .dateRange
  | timeRange _ _ => some .timeRange
  | decimal _ => some .decimal
  | enumeration _ => some .enumeration
  | hierarchy _ => some .hierarchy
  | collection _ => none
  | component _ => some .component
  | entity _ => some .entity
  | dimension _ => some .dimension
  | fact _ => some .fact
  | view _ => some .view

/-- A type that has all of its declaration: the name and the kind, the fields in their order, the
listed natural key, and all paths through the labels. -/
structure Declaration.KeptBy (d : Declaration) (kind : Kind) (t : NamedType) : Prop where
  name : d.name? = some t.name
  kind : t.body.kind? = some kind
  fields : ∀ component, t.body.component? = some component →
    component.fieldNames.map some = (d.properties.nodes "fields").map Declaration.name?
  key : ∀ component, t.body.component? = some component →
    ∀ names, d.properties.names? "natural_key" = some names →
      names ⊆ component.naturalKey ∧ names ⊆ component.fieldNames
  paths : ∀ h, t.body = .hierarchy h → ∀ items, d.properties.get? "labels" = some (.list items) →
    ∀ value ∈ items, ∀ path, value.Path path → path ∈ h.paths.values

/-- A catalogue that has all of a model, and in which all references and checks come out well. -/
structure Catalogue.Faithful (c : Catalogue) (m : Model) : Prop where
  declared : ∀ d ∈ m, ∀ kind, Kind.ofName? d.kind = some kind →
    ∃ t, c.type? t.name = some t ∧ d.KeptBy kind t
  resolved : ∀ t ∈ c.types, ∀ p ∈ t.body.references,
    ∃ id, p.2 = .resolved id ∧ id < c.types.length
  views : ∀ t ∈ c.types, ∀ view, t.body = .view view → ∀ ancestor ∈ view.ancestors,
    ∃ target component, c.resolve? ancestor = some target ∧
      target.body.component? = some component ∧ view.fieldNames ⊆ component.fieldNames
  facts : ∀ t ∈ c.types, ∀ fact, t.body = .fact fact → ∀ field ∈ fact.entity.component.fields,
    field.kind = .reference → ∀ target, c.resolve? field.type = some target →
      target.body.isComponent = true → target.body.isDimension = true

variable {c : Catalogue} {fact : NormalFact} {draft : Draft} {form : ComponentForm} {r : Review}
  {t : NamedType} {d : Declaration} {kind : Kind} {links : List Link}

section Declarations

/-- Only a pattern that cannot be read keeps a declaration from drafting a type. -/
theorem restriction_of_draft? (h : fact.draft? = none) :
    ∃ cause, Catalogue.restriction fact.form = .error cause ∧ fact.issues = [.rejected cause] := by
  obtain ⟨name, kind, form⟩ := fact
  cases form with
  | stringPattern pattern maxLength =>
    unfold NormalFact.draft? Catalogue.restriction at h
    unfold NormalFact.issues Catalogue.restriction
    dsimp only at h ⊢
    cases hp : StringPattern.ofText pattern maxLength with
    | error cause => exact ⟨cause, rfl, rfl⟩
    | ok p =>
      rw [hp] at h
      cases h
  | _ => cases h

/-- A declaration drafts a type of its kind. -/
theorem kind?_draft (hf : fact.form.fits fact.kind = true) (hd : fact.draft? = some draft)
    (ref : String → TypeRef) : (draft ref).kind? = some fact.kind := by
  obtain ⟨name, kind, form⟩ := fact
  cases form with
  | component form =>
    cases hd
    cases kind <;> first | rfl | cases hf
  | stringPattern pattern maxLength =>
    obtain rfl : kind = .stringPattern := of_decide_eq_true hf
    unfold NormalFact.draft? Catalogue.restriction at hd
    dsimp only at hd
    cases hp : StringPattern.ofText pattern maxLength with
    | error cause =>
      rw [hp] at hd
      cases hd
    | ok p =>
      rw [hp] at hd
      cases hd
      rfl
  | _ =>
    obtain rfl := of_decide_eq_true hf
    cases hd
    rfl

/-- A declaration with which nothing is wrong drafts a type. -/
theorem exists_draft (hd : fact.diagnostics = []) :
    ∃ draft, fact.draft? = some draft := by
  cases hdraft : fact.draft? with
  | some draft => exact ⟨draft, rfl⟩
  | none =>
    obtain ⟨cause, -, hissues⟩ := restriction_of_draft? hdraft
    rw [NormalFact.diagnostics, hissues] at hd
    cases hd

theorem fieldNames_typed (ref : String → TypeRef) (form : ComponentForm) :
    (form.typed ref).fieldNames = form.typedNames :=
  Catalogue.map_name_filterMap_typed ref form.fields

theorem ComponentType.mem_fieldNames (c : ComponentType) {name : String} {field : Field}
    (h : c.field? name = some field) : name ∈ c.fieldNames := by
  unfold field? at h
  have hfound := List.find?_some h
  have hname : field.name = name := of_decide_eq_true hfound
  exact hname ▸ List.mem_map_of_mem (List.mem_of_find?_eq_some h)

/-- Without issues no field is dropped. -/
theorem typedNames_of_no_issues (h : form.issues = []) :
    form.typedNames = form.fields.map FieldForm.name := by
  have htyped : form.fields.filter (·.shape.isSome) = form.fields := by
    refine List.filter_eq_self.2 fun field hm => ?_
    have hdropped := List.filterMap_eq_nil_iff.1 (List.append_eq_nil_iff.1 h).1 field hm
    unfold FieldForm.droppedIssue? at hdropped
    cases hs : field.shape with
    | some shape => rfl
    | none =>
      rw [hs] at hdropped
      cases hdropped
  rw [ComponentForm.typedNames, htyped]

/-- Without issues the natural key is one of fields. -/
theorem naturalKey_subset_of_no_issues (h : form.issues = []) :
    form.naturalKey ⊆ form.presentKey := by
  intro name hm
  have hmissing := List.map_eq_nil_iff.1 (List.append_eq_nil_iff.1 h).2
  simpa using List.filter_eq_nil_iff.1 hmissing name hm

theorem ValueSet.mem_insert {α : Type} [DecidableEq α] {s : ValueSet α} {a b : α} :
    b ∈ (s.insert a).values ↔ b ∈ s.values ∨ b = a := by
  unfold ValueSet.insert
  split
  · next hm => exact ⟨.inl, fun h => h.elim id fun he => he ▸ hm⟩
  · exact List.mem_append.trans (or_congr_right List.mem_singleton)

theorem Hierarchy.paths_of_add {h h' : Hierarchy} {path : List String} (ha : h.add path = .ok h') :
    h'.paths = h.paths.insert path := by
  unfold add at ha
  split at ha
  · cases ha
  · split at ha
    · cases ha
    · cases ha
      rfl

theorem Hierarchy.values_subset_addAll (h : Hierarchy) (paths : List (List String)) :
    h.paths.values ⊆ (h.addAll paths).paths.values := by
  induction paths generalizing h with
  | nil => exact List.Subset.refl _
  | cons path rest ih =>
    refine List.Subset.trans (fun value hv => ?_) (ih _)
    dsimp only
    cases ha : h.add path with
    | error cause => exact hv
    | ok added => exact (paths_of_add ha).symm ▸ ValueSet.mem_insert.2 (.inl hv)

/-- A hierarchy that refuses no path holds them all. -/
theorem Hierarchy.mem_addAll {h : Hierarchy} {paths : List (List String)}
    (hn : h.refusals paths = []) {path : List String} (hm : path ∈ paths) :
    path ∈ (h.addAll paths).paths.values := by
  induction paths generalizing h with
  | nil => cases hm
  | cons first rest ih =>
    unfold refusals at hn
    cases ha : h.add first with
    | error cause =>
      rw [ha] at hn
      cases hn
    | ok added =>
      rw [ha] at hn
      have hall : h.addAll (first :: rest) = added.addAll rest := by
        rw [addAll, List.foldl_cons, ha]
        rfl
      rw [hall]
      rcases List.mem_cons.1 hm with rfl | hm
      · have hadded := (paths_of_add ha).symm ▸ ValueSet.mem_insert.2 (.inr rfl)
        exact added.values_subset_addAll rest hadded
      · exact ih hn hm

end Declarations

section Kept

variable {fact₀ : Fact} {ref : String → TypeRef}

theorem form_of_component?_draft (hd : fact.draft? = some draft) {component : ComponentType}
    (hc : (draft ref).component? = some component) :
    ∃ form, fact.form = .component form ∧ component = form.typed ref := by
  rcases Catalogue.draft?_cases hd with ⟨form, hform, rfl⟩ | ⟨body, hb, rfl⟩
  · dsimp only at hc
    rw [component?_componentBody] at hc
    cases hc
    refine ⟨form, ?_, rfl⟩
    obtain ⟨name, kind, other⟩ := fact
    cases other <;> first | (cases hform; rfl) | cases hform
  · dsimp only at hc
    rw [TypeBody.component?_of_host? hb] at hc
    cases hc

theorem form_of_hierarchy_draft (hd : fact.draft? = some draft) {h : Hierarchy}
    (hh : draft ref = .hierarchy h) :
    ∃ levels labels finalized, fact.form = .hierarchy levels labels finalized ∧
      h.paths.values =
        ((Hierarchy.empty levels).addAll (Label.leafPathsOfAll labels)).paths.values := by
  obtain ⟨name, kind, form⟩ := fact
  cases form with
  | hierarchy levels labels finalized =>
    cases hd
    refine ⟨levels, labels, finalized, rfl, ?_⟩
    cases hh
    cases finalized <;> rfl
  | component form =>
    cases hd
    cases kind <;> cases hh
  | stringPattern pattern maxLength =>
    unfold NormalFact.draft? Catalogue.restriction at hd
    dsimp only at hd
    cases hp : StringPattern.ofText pattern maxLength with
    | error cause =>
      rw [hp] at hd
      cases hd
    | ok p =>
      rw [hp] at hd
      cases hd
      cases hh
  | _ =>
    cases hd
    cases hh

/-- A declaration with which nothing is wrong is kept by the type that it drafts. -/
theorem keptBy_draft (hfact : d.fact? = some fact₀) (hn : fact₀.normalize = .ok fact)
    (hnone : fact.diagnostics = []) (hd : fact.draft? = some draft) (ref : String → TypeRef) :
    d.KeptBy fact.kind ⟨fact.name, draft ref⟩ := by
  obtain ⟨-, hkind, hfits⟩ := normalize_ok hn
  have hform := (formOf_of_normalize hn).1
  have hprops : fact₀.properties = d.properties := by
    obtain ⟨kind, -, rfl⟩ := Option.map_eq_some_iff.1 hfact
    rfl
  rw [hprops, ← hkind] at hform
  have hcomponent : ∀ component, (draft ref).component? = some component →
      ∃ form, componentForm d.properties = .ok (.component form) ∧ form.issues = [] ∧
        component = form.typed ref := by
    intro component hc
    obtain ⟨form, hf, rfl⟩ := form_of_component?_draft hd hc
    have hissues := List.map_eq_nil_iff.1 hnone
    unfold NormalFact.issues at hissues
    rw [hf] at hform hfits hissues
    rw [formOf_of_isComponent hfits] at hform
    exact ⟨form, hform, hissues, rfl⟩
  constructor
  · exact Declaration.name?_of_normalize hfact hn
  · exact kind?_draft hfits hd ref
  · intro component hc
    obtain ⟨form, hf, hissues, rfl⟩ := hcomponent component hc
    rw [fieldNames_typed, typedNames_of_no_issues hissues, List.map_map]
    exact (componentForm_ok hf).1
  · intro component hc names hnames
    obtain ⟨form, hf, hissues, rfl⟩ := hcomponent component hc
    have hkey : names ⊆ form.presentKey := fun name hm =>
      naturalKey_subset_of_no_issues hissues
        ((componentForm_ok hf).2 ▸ subset_naturalKeyOf hnames hm)
    refine ⟨hkey, fun name hm => ?_⟩
    rw [fieldNames_typed]
    exact (List.mem_filter.1 (hkey hm)).1
  · intro h hh items hi value hv path hp
    obtain ⟨levels, labels, finalized, hf, hvalues⟩ := form_of_hierarchy_draft hd hh
    have hissues := List.map_eq_nil_iff.1 hnone
    unfold NormalFact.issues at hissues
    rw [hf] at hform hfits hissues
    rw [of_decide_eq_true hfits] at hform
    have hpath := mem_leafPaths_of_hierarchyForm hform hi hv hp
    exact hvalues ▸ Hierarchy.mem_addAll (List.map_eq_nil_iff.1 hissues) hpath

theorem kind?_related (c : Catalogue) (links : List Link) (t : NamedType) :
    (c.related links t).body.kind? = t.body.kind? := by
  obtain ⟨name, body⟩ := t
  cases body <;> rfl

/-- Relationships take nothing away from what is kept. -/
theorem Declaration.KeptBy.related (h : d.KeptBy kind t) (c : Catalogue) (links : List Link) :
    d.KeptBy kind (c.related links t) := by
  have hcomponent := c.component?_related links t
  constructor
  · exact h.name
  · exact (kind?_related c links t).trans h.kind
  · rw [hcomponent]
    exact h.fields
  · rw [hcomponent]
    exact h.key
  · intro hierarchy hb
    refine h.paths hierarchy ?_
    obtain ⟨name, body⟩ := t
    cases body <;> first | exact hb | cases hb

end Kept

namespace Catalogue

section Strict

/-- Without problems every declaration is kept by the type of its name. -/
theorem keptBy_of_no_problems {rules : RuleBase} {m : Model}
    (h : problems (.ofModel rules m) = []) (hd : d ∈ m) (hk : Kind.ofName? d.kind = some kind) :
    ∃ t, (resolved (.ofModel rules m)).type? t.name = some t ∧ d.KeptBy kind t := by
  obtain ⟨hfailures, hall⟩ := brings_sketch (List.append_eq_nil_iff.1 h).1
  obtain ⟨fact₀, hfact, hkind⟩ : ∃ fact₀, d.fact? = some fact₀ ∧ fact₀.kind = kind :=
    ⟨_, by rw [Declaration.fact?, hk]; rfl, rfl⟩
  have hm : fact₀ ∈ m.facts := m.facts_perm.mem_iff.2 (List.mem_filterMap.2 ⟨d, hd, hfact⟩)
  obtain ⟨fact, hmem, hn⟩ := Review.exists_normal_of_failures hfailures hm
  obtain ⟨-, hkind', -⟩ := normalize_ok hn
  obtain ⟨hnone, hbrings⟩ := hall fact hmem
  obtain ⟨draft, hdraft⟩ := exists_draft hnone
  have hkept := keptBy_draft hfact hn hnone hdraft (resolved (.ofModel rules m)).final
  rw [hkind', hkind] at hkept
  exact ⟨⟨fact.name, _⟩, hbrings.type?_resolvePending hdraft, hkept⟩

/-- Without problems no reference is left dangling. -/
theorem reference_of_no_problems (h : problems r = []) (ht : t ∈ (resolved r).types)
    {p : Place × TypeRef} (hp : p ∈ t.body.references) :
    ∃ id, p.2 = .resolved id ∧ id < (resolved r).types.length := by
  have hfinished := finished_resolved r
  obtain ⟨name, hname⟩ := hfinished.reference ht hp
  have htold := (List.append_eq_nil_iff.1 (List.append_eq_nil_iff.1 h).2).1
  have hdangling := List.filterMap_eq_nil_iff.1 (List.flatMap_eq_nil_iff.1 htold t ht) p hp
  cases hf : (resolved r).final name with
  | resolved id => exact ⟨id, hname.trans hf, hfinished.lt_of_final hf⟩
  | pending other =>
    have hpending := (resolved r).isPending_final name
    rw [hf] at hpending
    cases hpending
  | dangling other =>
    rw [hname, hf] at hdangling
    cases hdangling

theorem resolve?_completed (r : Review) (failOnOpen : Bool) (reference : TypeRef) :
    (completed r failOnOpen).resolve? reference =
      ((resolved r).resolve? reference).map ((resolved r).related r.links) := by
  cases reference with
  | resolved id => exact List.getElem?_map
  | _ => rfl

/-- Without problems every ancestor of a view has all of its fields. -/
theorem ancestors_of_no_problems (h : problems r = []) (ht : t ∈ (resolved r).types)
    {view : ComponentType} (hb : t.body = .view view) {ancestor : TypeRef}
    (ha : ancestor ∈ view.ancestors) :
    ∃ target component, (resolved r).resolve? ancestor = some target ∧
      target.body.component? = some component ∧ view.fieldNames ⊆ component.fieldNames := by
  have hreference : (Place.ancestor, ancestor) ∈ t.body.references := by
    rw [hb]
    exact List.mem_append_right _ (List.mem_map_of_mem ha)
  obtain ⟨id, hid, hlt⟩ := reference_of_no_problems h ht hreference
  have hresolve : (resolved r).resolve? ancestor = some (resolved r).types[id] := by
    obtain rfl : ancestor = .resolved id := hid
    exact List.getElem?_eq_getElem hlt
  have hchecks := (List.append_eq_nil_iff.1 (List.append_eq_nil_iff.1 h).2).2
  have hview := List.flatMap_eq_nil_iff.1 (List.append_eq_nil_iff.1 hchecks).1 t ht
  unfold viewIssues at hview
  rw [hb] at hview
  have hissues := List.flatMap_eq_nil_iff.1 (List.map_eq_nil_iff.1 hview) ancestor ha
  unfold ancestorIssues at hissues
  rw [hresolve] at hissues
  dsimp only at hissues
  cases hc : (resolved r).types[id].body.component? with
  | none =>
    rw [hc] at hissues
    cases hissues
  | some component =>
    rw [hc] at hissues
    refine ⟨_, component, hresolve, hc, fun name hm => ?_⟩
    have hfield := List.filter_eq_nil_iff.1 (List.map_eq_nil_iff.1 hissues) name hm
    rw [Bool.not_eq_true, Option.isNone_eq_false_iff, Option.isSome_iff_exists] at hfield
    obtain ⟨field, hfind⟩ := hfield
    exact component.mem_fieldNames hfind

/-- Without problems a fact refers to no type with fields but a dimension. -/
theorem isDimension_of_no_problems (h : problems r = []) (ht : t ∈ (resolved r).types)
    {fact : FactType} (hb : t.body = .fact fact) {field : Field}
    (hf : field ∈ fact.entity.component.fields) (hk : field.kind = .reference)
    {target : NamedType} (hr : (resolved r).resolve? field.type = some target)
    (hc : target.body.isComponent = true) : target.body.isDimension = true := by
  have hchecks := (List.append_eq_nil_iff.1 (List.append_eq_nil_iff.1 h).2).2
  have hfact := List.flatMap_eq_nil_iff.1 (List.append_eq_nil_iff.1 hchecks).2 t ht
  unfold factIssues at hfact
  rw [hb] at hfact
  have hissue := List.filterMap_eq_nil_iff.1 hfact field
    (List.mem_filter.2 ⟨hf, decide_eq_true hk⟩)
  rw [hr] at hissue
  dsimp only at hissue
  rw [hc, Bool.true_and] at hissue
  cases hd : target.body.isDimension with
  | true => rfl
  | false =>
    rw [hd] at hissue
    cases hissue

theorem isComponent_related (c : Catalogue) (links : List Link) (t : NamedType) :
    (c.related links t).body.isComponent = t.body.isComponent := by
  rw [TypeBody.isComponent, component?_related]
  rfl

theorem isDimension_related (c : Catalogue) (links : List Link) (t : NamedType) :
    (c.related links t).body.isDimension = t.body.isDimension := by
  obtain ⟨name, body⟩ := t
  cases body <;> rfl

theorem faithful_completed {rules : RuleBase} {m : Model} (h : problems (.ofModel rules m) = [])
    (failOnOpen : Bool) : (completed (.ofModel rules m) failOnOpen).Faithful m := by
  constructor
  · intro d hd kind hk
    obtain ⟨t, ht, hkept⟩ := keptBy_of_no_problems h hd hk
    have htype := type?_completed (.ofModel rules m) failOnOpen t.name
    rw [ht, Option.map_some] at htype
    exact ⟨_, htype, hkept.related _ _⟩
  · intro t ht p hp
    obtain ⟨u, hu, rfl⟩ := List.mem_map.1 ht
    rw [references_related] at hp
    unfold completed
    rw [List.length_map]
    exact reference_of_no_problems h hu hp
  · intro t ht view hb ancestor ha
    obtain ⟨u, hu, rfl⟩ := List.mem_map.1 ht
    have hview : u.body = .view view := by
      obtain ⟨name, body⟩ := u
      cases body <;> first | exact hb | cases hb
    obtain ⟨target, component, hr, hc, hsub⟩ := ancestors_of_no_problems h hu hview ha
    have hresolve := resolve?_completed (.ofModel rules m) failOnOpen ancestor
    rw [hr, Option.map_some] at hresolve
    exact ⟨_, component, hresolve, (component?_related _ _ target).trans hc, hsub⟩
  · intro t ht fact hb field hf hk target hr hc
    obtain ⟨u, hu, rfl⟩ := List.mem_map.1 ht
    obtain ⟨fact', hfact, hcomponent⟩ : ∃ fact' : FactType, u.body = .fact fact' ∧
        fact'.entity.component = fact.entity.component := by
      obtain ⟨name, body⟩ := u
      cases body <;> first | (cases hb; exact ⟨_, rfl, rfl⟩) | cases hb
    rw [resolve?_completed] at hr
    obtain ⟨v, hv, rfl⟩ := Option.map_eq_some_iff.1 hr
    rw [isComponent_related] at hc
    rw [isDimension_related]
    exact isDimension_of_no_problems h hu hfact (hcomponent ▸ hf) hk hv hc

/-- What is read with strict references is faithful to its model. -/
theorem faithful_of_build {policy : Policy} {m : Model} (hs : policy.strict = true)
    (h : build policy m = .ok c) : c.Faithful m := by
  rw [build_eq policy m, hs, Bool.true_and] at h
  cases hp : (problems (.ofModel policy.rules m)).isEmpty with
  | true =>
    rw [hp] at h
    cases h
    exact faithful_completed (List.isEmpty_iff.1 hp) policy.failOnOpen
  | false =>
    rw [hp] at h
    cases h

/-- A view leaves out a field of its ancestor, a fact refers to a dimension, and the labels of a
hierarchy have two levels. -/
theorem faithful_of_build_of_shop :
    let field := fun name type => Value.node "field" [("name", .text name), ("type", .text type)]
    let uk := Value.node "label" [("name", .text "UK"),
      ("children", .list [.text "North", .text "South"])]
    let m : Model := [
      ⟨"hierarchy", [("name", .text "Place"), ("levels", .text "Country, Region"),
        ("labels", .list [uk, .text "France"])]⟩,
      ⟨"dimension", [("name", .text "Customer"), ("natural_key", .text "name"),
        ("fields", .list [field "name" "string", field "place" "Place"])]⟩,
      ⟨"fact", [("name", .text "Sale"), ("fields", .list [field "customer" "Customer"])]⟩,
      ⟨"view", [("name", .text "Names"), ("view_of", .text "Customer"),
        ("fields", .list [field "name" "string"])]⟩]
    ∃ c, build ⟨.default, true, true⟩ m = .ok c ∧ c.Faithful m ∧ c.types.length = 15 := by
  intro field uk m
  have hnone : (ofReview (.ofModel .default m)).diagnostics = [] := by decide +kernel
  have hbuild : build ⟨.default, true, true⟩ m =
      .ok { (ofReview (.ofModel .default m)).inferAll (Review.ofModel .default m).links with
        failOnOpen := true } := by
    unfold build
    dsimp only
    rw [hnone]
    rfl
  exact ⟨_, hbuild, faithful_of_build rfl hbuild, by decide +kernel⟩

end Strict

end Catalogue

end Cardfile
