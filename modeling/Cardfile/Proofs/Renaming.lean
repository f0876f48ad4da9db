import Cardfile.Proofs.TypeNames

/-! # Renaming

Catalogues with the same types under the same names may have them in different places. What is
found along references is the same in both, and so is what is told of them.
-/

namespace Cardfile

section Types

variable (f g : TypeRef → TypeRef)

theorem TypeBody.mapReferences_mapReferences (b : TypeBody) :
    (b.mapReferences f).mapReferences g = b.mapReferences (g ∘ f) := by
  cases b <;>
    simp only [mapReferences, mapComponent, mapEntity, List.map_map, Option.map_map] <;> rfl

theorem NamedType.mapReferences_mapReferences (t : NamedType) :
    (t.mapReferences f).mapReferences g = t.mapReferences (g ∘ f) := by
  unfold mapReferences
  rw [TypeBody.mapReferences_mapReferences]

theorem TypeBody.label_mapReferences (b : TypeBody) : (b.mapReferences f).label = b.label := by
  cases b <;> rfl

theorem TypeBody.isDimension_mapReferences (b : TypeBody) :
    (b.mapReferences f).isDimension = b.isDimension := by
  cases b <;> rfl

theorem TypeBody.isComponent_mapReferences (b : TypeBody) :
    (b.mapReferences f).isComponent = b.isComponent := by
  cases b <;> rfl

theorem ComponentType.fieldNames_mapReferences (c : ComponentType) :
    (c.mapReferences f).fieldNames = c.fieldNames := by
  unfold fieldNames mapReferences
  rw [List.map_map]
  rfl

/-- The references of a type are those of its draft. -/
theorem Origin.mapReferences {fields : List FieldForm} {facts : List NormalFact} {name : String}
    {draft : Draft} (h : Origin fields facts name draft) (ref : String → TypeRef) :
    (draft ref).mapReferences f = draft (f ∘ ref) := by
  cases h with
  | basic host => rfl
  | declared hm hd => exact Catalogue.mapReferences_draft hd f ref
  | @collection field kind element key hm hs =>
    cases key <;> rfl

end Types

namespace Catalogue

variable {c d : Catalogue} {name : String} {t : NamedType} {facts facts' : List NormalFact}
  {τ : TypeRef → TypeRef}

/-- The reference to the type of the same name in another catalogue. -/
def translate (c d : Catalogue) (r : TypeRef) : TypeRef :=
  match c.resolve? r with
  | some t => d.reference t.name
  | none => .dangling (c.refName r)

/-- A reference by the name of the type that it leads to. -/
def byName (c : Catalogue) (r : TypeRef) : TypeRef :=
  match c.resolve? r with
  | some t => .pending t.name
  | none => .dangling (c.refName r)

/-- One catalogue is another with its types in other places; `τ` takes references along. -/
structure Renames (c d : Catalogue) (τ : TypeRef → TypeRef) : Prop where
  type? : ∀ name, d.type? name = (c.type? name).map (NamedType.mapReferences τ)
  resolve? : ∀ r, d.resolve? (τ r) = (c.resolve? r).map (NamedType.mapReferences τ)
  astray : ∀ r, c.resolve? r = none → τ r = .dangling (c.refName r)

section Finished

theorem translate_of_some {r : TypeRef} (h : c.resolve? r = some t) (d : Catalogue) :
    c.translate d r = d.reference t.name := by
  rw [translate, h]

theorem translate_of_none {r : TypeRef} (h : c.resolve? r = none) (d : Catalogue) :
    c.translate d r = .dangling (c.refName r) := by
  rw [translate, h]

theorem resolve?_reference (c : Catalogue) (name : String) :
    c.resolve? (c.reference name) = c.type? name := by
  unfold reference Catalogue.type?
  cases c.id? name <;> rfl

theorem Registered.type?_standard (h : c.Registered) (name : String) :
    c.type? (Host.standard name) = c.type? name := by
  unfold Catalogue.type?
  rw [h.id?_standard]

/-- Types that come from the same declarations are in both catalogues. -/
theorem FinishedFrom.exists_mem (h : c.FinishedFrom facts) (h' : d.FinishedFrom facts')
    (hu : Unambiguous facts') (hs : facts ⊆ facts') (ht : t ∈ c.types) :
    ∃ draft, Origin (facts.flatMap NormalFact.fields) facts t.name draft ∧
      t.body = draft c.final ∧ ⟨t.name, draft d.final⟩ ∈ d.types := by
  obtain ⟨draft, ho, hb⟩ := h.origin t ht
  have hfields : facts.flatMap NormalFact.fields ⊆ facts'.flatMap NormalFact.fields := by
    intro field hf
    obtain ⟨fact, hm, hfield⟩ := List.mem_flatMap.1 hf
    exact List.mem_flatMap.2 ⟨fact, hs hm, hfield⟩
  exact ⟨draft, ho, hb, h'.mem_types hu (ho.mono hfields hs)⟩

theorem FinishedFrom.exists_id? (h : c.FinishedFrom facts) (h' : d.FinishedFrom facts')
    (hu : Unambiguous facts') (hs : facts ⊆ facts') {id : Nat} (hid : c.id? name = some id) :
    ∃ id', d.id? name = some id' := by
  obtain ⟨t, ht, hname⟩ := h.stands hid
  obtain ⟨draft, -, -, hm⟩ := h.exists_mem h' hu hs (List.mem_of_getElem? ht)
  obtain ⟨id', hid'⟩ := List.mem_iff_getElem?.1 hm
  have hleads := h'.leads hid'
  rw [hname, h'.id?_standard] at hleads
  exact ⟨id', hleads⟩

theorem FinishedFrom.id?_eq_none (h : c.FinishedFrom facts) (h' : d.FinishedFrom facts')
    (hu : Unambiguous facts) (hp : facts.Perm facts') (hn : c.id? name = none) :
    d.id? name = none := by
  cases hid : d.id? name with
  | none => rfl
  | some id =>
    obtain ⟨id', he⟩ := h'.exists_id? h hu hp.symm.subset hid
    rw [hn] at he
    cases he

/-- References to a name are taken to each other. -/
theorem FinishedFrom.translate_final (h : c.FinishedFrom facts) (h' : d.FinishedFrom facts')
    (hu : Unambiguous facts) (hp : facts.Perm facts') (name : String) :
    c.translate d (c.final name) = d.final name := by
  have hu' : Unambiguous facts' := hu.of_subperm hp.symm.subperm
  cases hid : c.id? name with
  | none =>
    have hnone := h.id?_eq_none h' hu hp hid
    unfold final
    rw [hid, hnone]
    rfl
  | some id =>
    obtain ⟨id', hid'⟩ := h.exists_id? h' hu' hp.subset hid
    obtain ⟨t, ht, hname⟩ := h.stands hid
    have hresolve : c.resolve? (.resolved id) = some t := ht
    unfold final
    rw [hid, hid']
    dsimp only
    rw [translate_of_some hresolve, hname, Catalogue.reference, h'.id?_standard, hid']

/-- Catalogues from the same declarations have the same types under the same names. -/
theorem FinishedFrom.renames (h : c.FinishedFrom facts) (h' : d.FinishedFrom facts')
    (hu : Unambiguous facts) (hp : facts.Perm facts') : c.Renames d (c.translate d) := by
  have hu' : Unambiguous facts' := hu.of_subperm hp.symm.subperm
  have hfinal : c.translate d ∘ c.final = d.final := funext (h.translate_final h' hu hp)
  have htype : ∀ name,
      d.type? name = (c.type? name).map (NamedType.mapReferences (c.translate d)) := by
    intro name
    cases hid : c.id? name with
    | none =>
      have hnone := h.id?_eq_none h' hu hp hid
      unfold Catalogue.type?
      rw [hid, hnone]
      rfl
    | some id =>
      obtain ⟨t, hplace, ht, hname⟩ := h.type?_of_id? hid
      obtain ⟨draft, ho, hb, hm⟩ := h.exists_mem h' hu' hp.subset (List.mem_of_getElem? hplace)
      have htype := h'.type?_of_mem hm
      dsimp only at htype
      rw [hname, h'.type?_standard] at htype
      rw [htype, ht, Option.map_some, NamedType.mapReferences, hb, ho.mapReferences, hfinal, hname]
  refine ⟨htype, fun r => ?_, fun r hr => translate_of_none hr d⟩
  cases hr : c.resolve? r with
  | none =>
    rw [translate_of_none hr]
    rfl
  | some t =>
    obtain ⟨id, -, ht⟩ := Option.bind_eq_some_iff.1 hr
    rw [translate_of_some hr, resolve?_reference, htype,
      h.type?_of_mem (List.mem_of_getElem? ht)]

end Finished

section Renames

theorem mem_of_type? (h : c.type? name = some t) : t ∈ c.types := by
  obtain ⟨id, -, ht⟩ := Option.bind_eq_some_iff.1 h
  exact List.mem_of_getElem? ht

theorem Renames.mirrors (h : c.Renames d τ) : c.Mirrors d τ where
  type? name := by
    rw [h.type?, Option.map_map]
    rfl
  resolve? r := by
    rw [h.resolve?, Option.map_map]
    rfl

theorem Renames.byName (h : c.Renames d τ) (r : TypeRef) : d.byName (τ r) = c.byName r := by
  unfold Catalogue.byName
  rw [h.resolve?]
  cases hr : c.resolve? r with
  | none =>
    rw [h.astray r hr]
    rfl
  | some t => rfl

/-- The types are the same up to their order and their references. -/
theorem Renames.types_perm (h : c.Renames d τ) (hc : c.Registered) (hd : d.Registered) :
    (c.types.map (NamedType.mapReferences τ)).Perm d.types := by
  have hnames : ((c.types.map (NamedType.mapReferences τ)).map NamedType.name).Nodup := by
    rw [List.map_map]
    exact hc.nodup_names
  refine (List.perm_ext_iff_of_nodup hnames.of_map hd.nodup_names.of_map).2 fun t => ?_
  constructor
  · intro ht
    obtain ⟨u, hu, rfl⟩ := List.mem_map.1 ht
    have htype := h.type? u.name
    rw [hc.type?_of_mem hu] at htype
    exact mem_of_type? htype
  · intro ht
    have htype := h.type? t.name
    rw [hd.type?_of_mem ht] at htype
    obtain ⟨u, hu, he⟩ := Option.map_eq_some_iff.1 htype.symm
    exact List.mem_map.2 ⟨u, mem_of_type? hu, he⟩

/-- What is told of each type is the same up to its order. -/
theorem Renames.flatMap_perm (h : c.Renames d τ) (hc : c.Registered) (hd : d.Registered)
    {β : Type} {f g : NamedType → List β} (hf : ∀ t ∈ c.types, g (t.mapReferences τ) = f t) :
    (c.types.flatMap f).Perm (d.types.flatMap g) := by
  have hperm := (h.types_perm hc hd).flatMap_right g
  rw [List.flatMap_map, List.flatMap_congr hf] at hperm
  exact hperm

/-- References to names dangle in both. -/
theorem Renames.danglingDiagnostics (h : c.Renames d τ) (hc : c.Registered)
    (ht : ∀ p ∈ t.body.references, ∃ name, p.2 = c.final name) :
    (t.mapReferences τ).danglingDiagnostics = t.danglingDiagnostics := by
  unfold NamedType.danglingDiagnostics NamedType.mapReferences
  dsimp only
  rw [TypeBody.references_mapReferences, List.filterMap_map]
  refine List.filterMap_congr fun p hp => ?_
  obtain ⟨name, he⟩ := ht p hp
  dsimp only [Function.comp_apply]
  rw [he]
  cases hid : c.id? name with
  | none =>
    have hfinal : c.final name = .dangling name := by rw [final, hid]
    rw [hfinal, h.astray (.dangling name) rfl]
    rfl
  | some id =>
    have hfinal : c.final name = .resolved id := by rw [final, hid]
    obtain ⟨u, hu, -⟩ := hc.stands hid
    have hresolve := h.resolve? (.resolved id)
    have hplace : c.resolve? (.resolved id) = some u := hu
    rw [hplace] at hresolve
    rw [hfinal]
    cases hr : τ (.resolved id) with
    | dangling target =>
      rw [hr] at hresolve
      cases hresolve
    | _ => rfl

theorem Renames.ancestorIssues (h : c.Renames d τ) (view : ComponentType) (r : TypeRef) :
    d.ancestorIssues (view.mapReferences τ) (τ r) = c.ancestorIssues view r := by
  unfold Catalogue.ancestorIssues
  rw [h.resolve?]
  cases c.resolve? r with
  | none => rfl
  | some target =>
    rw [Option.map_some]
    dsimp only [NamedType.mapReferences]
    rw [TypeBody.component?_mapReferences, ComponentType.fieldNames_mapReferences]
    cases target.body.component? with
    | none => rfl
    | some component =>
      simp only [Option.map_some, ComponentType.field?_mapReferences, Option.isNone_map]

theorem Renames.viewIssues (h : c.Renames d τ) (t : NamedType) :
    d.viewIssues (t.mapReferences τ) = c.viewIssues t := by
  obtain ⟨name, body⟩ := t
  cases body with
  | view view =>
    have hissues : (view.ancestors.map τ).flatMap (d.ancestorIssues (view.mapReferences τ)) =
        view.ancestors.flatMap (c.ancestorIssues view) := by
      rw [List.flatMap_map]
      exact List.flatMap_congr fun r _ => h.ancestorIssues view r
    exact congrArg (List.map (Diagnostic.mk name)) hissues
  | _ => rfl

theorem Renames.factIssues (h : c.Renames d τ) (t : NamedType) :
    d.factIssues (t.mapReferences τ) = c.factIssues t := by
  obtain ⟨name, body⟩ := t
  cases body with
  | fact fact =>
    have hfields : ((fact.entity.component.fields.map (Field.mapReference τ)).filter
        (·.kind = .reference)) = (fact.entity.component.fields.filter (·.kind = .reference)).map
          (Field.mapReference τ) := List.filter_map
    refine (congrArg (List.filterMap _) hfields).trans ?_
    rw [List.filterMap_map]
    refine List.filterMap_congr fun field _ => ?_
    dsimp only [Function.comp_apply, Field.mapReference]
    rw [h.resolve?]
    cases c.resolve? field.type with
    | none => rfl
    | some target =>
      dsimp only [Option.map_some, NamedType.title, NamedType.mapReferences]
      rw [TypeBody.isComponent_mapReferences, TypeBody.isDimension_mapReferences,
        TypeBody.label_mapReferences]
  | _ => rfl

end Renames

end Catalogue

end Cardfile
