import Cardfile.Proofs.Drafts
import Cardfile.Proofs.Spellings

/-! # Declarations that are alike

Two declarations of one kind and name are alike if their normal forms are the same, but for the
order in which the names of a natural key stand. Models of such declarations make the same
catalogue.
-/

namespace Cardfile

/-- Two results with related values or the same error. -/
inductive Both {ε α : Type} (R : α → α → Prop) : Except ε α → Except ε α → Prop
  | ok {a b : α} : R a b → Both R (.ok a) (.ok b)
  | error (e : ε) : Both R (.error e) (.error e)

/-- The forms of components that differ in the order of their natural keys only, all names of which
are those of fields with a type. -/
structure ComponentForm.SameKey (form form' : ComponentForm) : Prop where
  fields : form.fields = form'.fields
  key : ∀ name, name ∈ form.naturalKey ↔ name ∈ form'.naturalKey
  typed : form.naturalKey ⊆ form.typedNames
  ancestors : form.ancestors = form'.ancestors
  externalId : form.externalId = form'.externalId

inductive Form.Alike : Form → Form → Prop
  | same (form : Form) : Alike form form
  | component {form form' : ComponentForm} : form.SameKey form' →
      Alike (.component form) (.component form')

structure NormalFact.Alike (fact fact' : NormalFact) : Prop where
  name : fact.name = fact'.name
  kind : fact.kind = fact'.kind
  form : fact.form.Alike fact'.form

structure Fact.Alike (fact fact' : Fact) : Prop where
  name : fact.name = fact'.name
  kind : fact.kind = fact'.kind
  forms : Both Form.Alike (formOf fact.kind fact.properties) (formOf fact.kind fact'.properties)

/-- Declarations of the same kind and name, with forms that are alike. -/
structure Declaration.Alike (d e : Declaration) : Prop where
  kind : d.kind = e.kind
  name : d.name? = e.name?
  forms : ∀ kind, Both Form.Alike (formOf kind d.properties) (formOf kind e.properties)

structure Reviewed.Alike (x y : Reviewed) : Prop where
  name : x.fact.name = y.fact.name
  kind : x.fact.kind = y.fact.kind
  outcome : Both NormalFact.Alike x.outcome y.outcome

theorem Both.bind {ε α β : Type} {R : α → α → Prop} {S : β → β → Prop} {x y : Except ε α}
    {k l : α → Except ε β} (h : Both R x y) (hk : ∀ a b, R a b → Both S (k a) (l b)) :
    Both S (x >>= k) (y >>= l) := by
  cases h with
  | ok h => exact hk _ _ h
  | error e => exact .error e

theorem Both.refl {ε α : Type} {R : α → α → Prop} (hR : ∀ a, R a a) (x : Except ε α) :
    Both R x x := by
  cases x with
  | ok a => exact .ok (hR a)
  | error e => exact .error e

section Reviews

variable {rules : RuleBase} {fact fact' : NormalFact} {form form' : Form} {f g : Fact}
  {facts facts' : List Fact} {r r' : Review} {m m' : Model}

theorem facts_alike (h : List.Forall₂ Declaration.Alike m m') :
    List.Forall₂ Fact.Alike m.facts m'.facts := by
  have hkinds : m.kinds = m'.kinds := by
    have hmap : List.Forall₂ Eq (m.map Declaration.kind) (m'.map Declaration.kind) :=
      List.rel_map (fun _ _ hd => hd.kind) h
    rw [List.forall₂_eq_eq_eq] at hmap
    rw [Model.kinds, Model.kinds, hmap]
  unfold Model.facts
  rw [hkinds]
  refine List.rel_flatMap (R := Eq) (List.forall₂_same.2 fun _ _ => rfl) ?_
  rintro kindName _ rfl
  have hofKind : List.Forall₂ Declaration.Alike (m.ofKind kindName) (m'.ofKind kindName) :=
    List.rel_filter (fun d e hd => by simp [hd.kind]) h
  dsimp only
  cases Kind.ofName? kindName with
  | none => exact .nil
  | some kind =>
    refine List.rel_map (fun d e hd => ?_) hofKind
    exact ⟨congrArg (·.getD "") hd.name, rfl, hd.forms kind⟩

theorem Form.Alike.check_eq (h : form.Alike form') (rule : Rule) :
    rule.check form = rule.check form' := by
  cases h with
  | same => rfl
  | component h =>
    cases rule with
    | fieldNamesUnique => rw [Rule.check, Rule.check, Rule.checkNames, Rule.checkNames, h.fields]
    | fieldsTyped => rw [Rule.check, Rule.check, Rule.checkTypes, Rule.checkTypes, h.fields]
    | _ => rfl

theorem NormalFact.Alike.check_eq (h : fact.Alike fact') (rules : RuleBase) :
    rules.check fact = rules.check fact' := by
  have hforms : (fun rule : Rule => rule.check fact.form) = fun rule => rule.check fact'.form :=
    funext fun rule => h.form.check_eq rule
  rw [RuleBase.check, RuleBase.check, h.kind, hforms]

theorem Fact.Alike.normalize (h : f.Alike g) : Both NormalFact.Alike f.normalize g.normalize := by
  unfold Fact.normalize
  rw [← h.name, ← h.kind]
  split
  · exact .error _
  · have hforms := h.forms
    generalize formOf f.kind f.properties = x at hforms ⊢
    generalize formOf f.kind g.properties = y at hforms ⊢
    cases hforms with
    | ok hform => exact .ok ⟨rfl, rfl, hform⟩
    | error flaw => exact .error flaw

theorem Fact.Alike.outcomeOf (h : f.Alike g) (rules : RuleBase) :
    Both NormalFact.Alike (Review.outcomeOf rules f) (Review.outcomeOf rules g) := by
  refine h.normalize.bind fun fact fact' hf => ?_
  rw [hf.check_eq]
  cases rules.check fact' with
  | error flaw => exact .error flaw
  | ok _ => exact .ok hf

/-- Whether a name is taken does not depend on the forms. -/
theorem reviews_alike (h : List.Forall₂ Fact.Alike facts facts') (rules : RuleBase)
    (seen : List String) :
    List.Forall₂ Reviewed.Alike (Review.ofFacts rules seen facts)
      (Review.ofFacts rules seen facts') := by
  induction h generalizing seen with
  | nil => exact .nil
  | @cons f g _ _ hfact _ ih =>
    have houtcome := hfact.outcomeOf rules
    unfold Review.ofFacts
    generalize Review.outcomeOf rules f = x at houtcome ⊢
    generalize Review.outcomeOf rules g = y at houtcome ⊢
    cases houtcome with
    | error flaw => exact .cons ⟨hfact.name, hfact.kind, .error flaw⟩ (ih seen)
    | ok hnormal =>
      -- both names are the same, so both are taken or neither is
      dsimp only
      rw [hnormal.name]
      split
      · exact .cons ⟨hfact.name, hfact.kind, .error _⟩ (ih seen)
      · exact .cons ⟨hfact.name, hfact.kind, .ok hnormal⟩ (ih _)

theorem failures_alike (h : List.Forall₂ Reviewed.Alike r r') :
    (r.failures.map fun f => (f.1.name, f.1.kind, f.2)) =
      r'.failures.map fun f => (f.1.name, f.1.kind, f.2) := by
  induction h with
  | nil => rfl
  | @cons x y _ _ hxy _ ih =>
    obtain ⟨f, outcome⟩ := x
    obtain ⟨g, outcome'⟩ := y
    obtain ⟨hname, hkind, houtcome⟩ := hxy
    dsimp only at hname hkind houtcome
    cases houtcome with
    | ok _ => exact ih
    | error flaw =>
      refine congrArg₂ List.cons ?_ ih
      dsimp only
      rw [hname, hkind]

theorem normalFacts_alike (h : List.Forall₂ Reviewed.Alike r r') :
    List.Forall₂ NormalFact.Alike r.normalFacts r'.normalFacts := by
  refine List.rel_filterMap (fun x y hxy => ?_) h
  obtain ⟨f, outcome⟩ := x
  obtain ⟨g, outcome'⟩ := y
  have houtcome := hxy.outcome
  dsimp only at houtcome ⊢
  cases houtcome with
  | ok hnormal => exact .some hnormal
  | error flaw => exact .none

theorem NormalFact.Alike.linksOf_eq (h : fact.Alike fact') :
    Review.linksOf fact = Review.linksOf fact' := by
  obtain ⟨name, kind, form⟩ := fact
  obtain ⟨name', kind', form'⟩ := fact'
  obtain ⟨hname, -, hform⟩ := h
  dsimp only at hname hform
  subst hname
  cases hform with
  | same => rfl
  | component hkey =>
    exact congrArg (List.filterMap (Review.linkOf? name)) hkey.fields

theorem links_alike (h : List.Forall₂ Reviewed.Alike r r') : r.links = r'.links := by
  have hlinks : List.Forall₂ Eq r.links r'.links :=
    List.rel_flatMap (normalFacts_alike h) fun _ _ hf => by
      rw [List.forall₂_eq_eq_eq]
      exact hf.linksOf_eq
  rwa [List.forall₂_eq_eq_eq] at hlinks

end Reviews

namespace Catalogue

section Building

variable {c : Catalogue} {form form' : ComponentForm} {fact fact' : NormalFact} {r r' : Review}
  {m m' : Model}

theorem names_addField (subject : String) (state : Catalogue × List Field) (form : FieldForm) :
    (addField subject state form).2.map Field.name =
      state.2.map Field.name ++ ([form].filter (·.shape.isSome)).map FieldForm.name := by
  unfold addField
  cases hs : form.shape with
  | none => simp [hs]
  | some shape => simp [hs]

theorem names_foldl_addField (subject : String) (state : Catalogue × List Field)
    (forms : List FieldForm) :
    (forms.foldl (addField subject) state).2.map Field.name =
      state.2.map Field.name ++ (forms.filter (·.shape.isSome)).map FieldForm.name := by
  induction forms generalizing state with
  | nil => simp
  | cons form rest ih =>
    rw [List.foldl_cons, ih, names_addField, List.append_assoc, ← List.map_append,
      ← List.filter_append, List.singleton_append]

/-- No name of the keys is missing among the fields, and so their order does not show. -/
theorem componentOf_of_sameKey (h : form.SameKey form') (c : Catalogue) (subject : String) :
    c.componentOf subject form = c.componentOf subject form' := by
  have hnames := names_foldl_addField subject (c, []) form.fields
  have hcontains : form.naturalKey.contains = form'.naturalKey.contains := by
    funext name
    simp [List.contains_eq_mem, h.key]
  unfold componentOf
  rw [← h.fields, ← h.ancestors, ← hcontains]
  generalize form.fields.foldl (addField subject) (c, []) = state at hnames ⊢
  obtain ⟨d, fields⟩ := state
  dsimp only at hnames ⊢
  -- fields without a type are dropped, but the keys have no names of those
  have hmissing : ∀ names ⊆ form.typedNames, (∀ name ∈ names, name ∈ form.naturalKey) →
      (names.filter fun name =>
        !((fields.map Field.name).filter form.naturalKey.contains).contains name) = [] := by
    intro names hsub hkey
    refine List.filter_eq_nil_iff.2 fun name hm => ?_
    have hfield : name ∈ fields.map Field.name := by
      rw [hnames]
      exact hsub hm
    simp [List.mem_filter, hfield, hkey name hm]
  rw [hmissing _ h.typed fun _ hm => hm,
    hmissing _ (fun name hm => h.typed ((h.key name).2 hm)) fun name hm => (h.key name).2 hm]

theorem componentBody_of_sameKey (h : form.SameKey form') (kind : Kind)
    (component : ComponentType) :
    componentBody kind form component = componentBody kind form' component := by
  unfold componentBody
  rw [h.externalId, h.fields]

theorem adds_alike (h : fact.Alike fact') (c : Catalogue) :
    c.addRestriction fact = c.addRestriction fact' ∧
      c.addEnumeration fact = c.addEnumeration fact' ∧
      c.addHierarchy fact = c.addHierarchy fact' ∧ c.addComponent fact = c.addComponent fact' := by
  obtain ⟨name, kind, form⟩ := fact
  obtain ⟨name', kind', form'⟩ := fact'
  obtain ⟨hname, hkind, hform⟩ := h
  dsimp only at hname hkind hform
  subst hname hkind
  cases hform with
  | same => exact ⟨rfl, rfl, rfl, rfl⟩
  | component hkey =>
    refine ⟨rfl, rfl, rfl, ?_⟩
    unfold addComponent NormalFact.component? Form.component?
    dsimp only
    rw [componentOf_of_sameKey hkey, componentBody_of_sameKey hkey]

theorem addKinds_alike {add : Catalogue → NormalFact → Catalogue}
    (h : List.Forall₂ Reviewed.Alike r r')
    (hadd : ∀ {f g : NormalFact}, f.Alike g → ∀ c, add c f = add c g) (kinds : List Kind) :
    addKinds r kinds add = addKinds r' kinds add := by
  have hkind : ∀ kind, List.Forall₂ NormalFact.Alike (r.normalOfKind kind) (r'.normalOfKind kind) :=
    fun kind => List.rel_filter (fun f g hfg => by simp [hfg.kind]) (normalFacts_alike h)
  have hkinds : List.Forall₂ NormalFact.Alike (kinds.flatMap r.normalOfKind)
      (kinds.flatMap r'.normalOfKind) :=
    List.rel_flatMap (R := Eq) (List.forall₂_same.2 fun _ _ => rfl) fun kind _ he => he ▸ hkind kind
  funext c
  exact List.rel_foldl (P := Eq) (fun c _ hc f g hfg => hc ▸ hadd hfg c) rfl hkinds

theorem ofReview_alike (h : List.Forall₂ Reviewed.Alike r r') : ofReview r = ofReview r' := by
  have hfailures := congrArg
    (List.map fun f : String × Kind × Flaw => (⟨f.1, .failedCheck f.2.1 f.2.2⟩ : Diagnostic))
    (failures_alike h)
  rw [List.map_map, List.map_map] at hfailures
  simp only [Function.comp_def] at hfailures
  unfold ofReview
  rw [hfailures, addKinds_alike h fun hf c => (adds_alike hf c).1,
    addKinds_alike h fun hf c => (adds_alike hf c).2.1,
    addKinds_alike h fun hf c => (adds_alike hf c).2.2.1,
    addKinds_alike h fun hf c => (adds_alike hf c).2.2.2]

/-- Models of declarations that are alike make the same catalogue, or the same error. -/
theorem build_alike (h : List.Forall₂ Declaration.Alike m m') (policy : Policy) :
    build policy m = build policy m' := by
  have hreviews := reviews_alike (facts_alike h) policy.rules []
  unfold build Review.ofModel
  dsimp only
  rw [ofReview_alike hreviews, links_alike hreviews]

end Building

end Catalogue

end Cardfile
