import Cardfile.Proofs.LabelPaths
import Cardfile.Proofs.Places
import Cardfile.Proofs.Reviewing

/-! # Drafts

A declaration in normal form tells which type it brings into a catalogue, with references by name,
and what is wrong with it by itself. Nothing else comes in but the collection types of its fields.
-/

namespace Cardfile

/-- Collection types are named after the types that they hold. -/
def CollectionKind.typeName (kind : CollectionKind) (element : String) : Option String → String
  | some key => kind.name ++ "<" ++ key ++ "," ++ element ++ ">"
  | none => kind.name ++ "<" ++ element ++ ">"

/-- The name of the type of a field. -/
def Shape.typeName : Shape → String
  | simple host => host.name
  | reference name => name
  | collection kind element key => kind.typeName (Host.standard element) (key.map Host.standard)

def Shape.fieldKind : Shape → FieldKind
  | simple _ => .simple
  | reference _ => .reference
  | collection _ _ _ => .collection

/-- A field with its reference by name, unless it has no type. -/
def FieldForm.typed (ref : String → TypeRef) (form : FieldForm) : Option Field :=
  form.shape.map fun shape => ⟨form.name, shape.fieldKind, ref shape.typeName, form.otherName⟩

theorem FieldForm.typed_of_some {form : FieldForm} {shape : Shape} (h : form.shape = some shape)
    (ref : String → TypeRef) : form.typed ref =
      some ⟨form.name, shape.fieldKind, ref shape.typeName, form.otherName⟩ := by
  rw [typed, h]
  rfl

/-- A field without a type is dropped. -/
def FieldForm.droppedIssue? (form : FieldForm) : Option Issue :=
  if form.shape.isNone then some (.droppedField form.name) else none

namespace ComponentForm

def typedNames (form : ComponentForm) : List String :=
  (form.fields.filter (·.shape.isSome)).map FieldForm.name

/-- The fields that a natural key may have, in their order. -/
def presentKey (form : ComponentForm) : List String :=
  form.typedNames.filter form.naturalKey.contains

/-- Fields and ancestors with references by name. -/
def typed (ref : String → TypeRef) (form : ComponentForm) : ComponentType :=
  ⟨form.fields.filterMap (FieldForm.typed ref), form.presentKey, form.ancestors.map ref⟩

/-- What is wrong with the fields and the natural key. -/
def issues (form : ComponentForm) : List Issue :=
  form.fields.filterMap FieldForm.droppedIssue? ++
    (form.naturalKey.filter fun name => !form.presentKey.contains name).map .undeclaredKey

end ComponentForm

namespace Hierarchy

/-- Adds the paths that can be added. -/
def addAll (h : Hierarchy) (paths : List (List String)) : Hierarchy :=
  paths.foldl (fun h path => (h.add path).toOption.getD h) h

/-- What is wrong with the paths that cannot be added. -/
def refusals (h : Hierarchy) : List (List String) → List Error
  | [] => []
  | path :: rest =>
    match h.add path with
    | .ok h => h.refusals rest
    | .error cause => cause :: h.refusals rest

end Hierarchy

namespace NormalFact

/-- The fields that a declaration is made of. -/
def fields (fact : NormalFact) : List FieldForm :=
  (fact.component?.map ComponentForm.fields).getD []

/-- The type that a declaration brings in. -/
def draft? (fact : NormalFact) : Option Draft :=
  match fact.form with
  | .component form => some fun ref => Catalogue.componentBody fact.kind form (form.typed ref)
  | .enumeration values finalized =>
    let e : Enumeration := values.foldl ValueSet.insert ValueSet.empty
    some fun _ => .enumeration (if finalized then e.finalize else e)
  | .hierarchy levels labels finalized =>
    let h := (Hierarchy.empty levels).addAll (Label.leafPathsOfAll labels)
    some fun _ => .hierarchy (if finalized then h.finalize else h)
  | form => ((Catalogue.restriction form).toOption.join).map fun body _ => body

/-- What is wrong with a declaration by itself. -/
def issues (fact : NormalFact) : List Issue :=
  match fact.form with
  | .component form => form.issues
  | .enumeration _ _ => []
  | .hierarchy levels labels _ =>
    ((Hierarchy.empty levels).refusals (Label.leafPathsOfAll labels)).map .rejected
  | form =>
    match Catalogue.restriction form with
    | .error cause => [.rejected cause]
    | .ok _ => []

def diagnostics (fact : NormalFact) : List Diagnostic := fact.issues.map (⟨fact.name, ·⟩)

end NormalFact

/-- Where a type may come from: the types of the fields or the declarations, if it is no basic
type. -/
inductive Origin (fields : List FieldForm) (facts : List NormalFact) : String → Draft → Prop
  | basic (host : Host) : Origin fields facts host.name fun _ => .basic host
  | declared {fact : NormalFact} {draft : Draft} : fact ∈ facts → fact.draft? = some draft →
      Origin fields facts fact.name draft
  | collection {field : FieldForm} {kind : CollectionKind} {element : String}
      {key : Option String} : field ∈ fields →
      field.shape = some (.collection kind element key) →
      Origin fields facts (Shape.collection kind element key).typeName fun ref =>
        .collection ⟨kind, ref element, key.map ref⟩

variable {c d e : Catalogue} {name subject : String} {id : Nat} {t : NamedType} {body : TypeBody}
  {draft : Draft} {fields fields' : List FieldForm} {facts facts' : List NormalFact}
  {fact : NormalFact}
  {form : FieldForm} {shape : Shape} {ds ds' : List Diagnostic}

theorem Origin.mono (h : Origin fields facts name draft) (hf : fields ⊆ fields')
    (hs : facts ⊆ facts') : Origin fields' facts' name draft := by
  cases h with
  | basic host => exact .basic host
  | declared hm hd => exact .declared (hs hm) hd
  | collection hm hd => exact .collection (hf hm) hd

namespace Catalogue

/-- All types come from somewhere, and are as drafted there. -/
structure Drafted (c : Catalogue) (fields : List FieldForm) (facts : List NormalFact) : Prop
    extends c.Registered where
  origin : ∀ t ∈ c.types, ∃ draft, Origin fields facts t.name draft ∧ c.Draws t.body draft

section Drafted

theorem drafted_basic (fields : List FieldForm) : basic.Drafted fields [] where
  toRegistered := registered_basic
  origin t ht := by
    have htypes : basic.types = Host.all.map fun host => ⟨host.name, .basic host⟩ := rfl
    rw [htypes] at ht
    obtain ⟨host, -, rfl⟩ := List.mem_map.1 ht
    exact ⟨_, .basic host, fun _ => rfl⟩

theorem Drafted.mono (h : c.Drafted fields facts) (hs : facts ⊆ facts') :
    c.Drafted fields facts' where
  toRegistered := h.toRegistered
  origin t ht := by
    obtain ⟨draft, ho, hb⟩ := h.origin t ht
    exact ⟨draft, ho.mono (List.Subset.refl _) hs, hb⟩

theorem Drafted.diagnoseAll (h : c.Drafted fields facts) (ds : List Diagnostic) :
    (c.diagnoseAll ds).Drafted fields facts where
  toRegistered := h.toRegistered.diagnoseAll ds
  origin t ht := by
    obtain ⟨draft, ho, hb⟩ := h.origin t ht
    exact ⟨draft, ho, hb.mono (grows_diagnoseAll c ds)⟩

theorem Drafted.push (h : c.Drafted fields facts) (hn : c.id? name = none)
    (ho : Origin fields facts name draft) (hb : c.Draws body draft) :
    (c.push name body).Drafted fields facts where
  toRegistered := h.toRegistered.push hn body
  origin t ht := by
    have hgrows := grows_push hn body
    rcases List.mem_append.1 ht with hold | hnew
    · obtain ⟨draft, ho, hb⟩ := h.origin t hold
      exact ⟨draft, ho, hb.mono hgrows⟩
    · rw [List.mem_singleton.1 hnew]
      exact ⟨draft, ho, hb.mono hgrows⟩

end Drafted

/-- A catalogue on the way to a new type: collection types and diagnostics have come in. -/
structure Prepared (c : Catalogue) (fields : List FieldForm) (ds : List Diagnostic)
    (d : Catalogue) : Prop where
  grows : c.Grows d
  drafted : ∀ {facts}, c.Drafted fields facts → d.Drafted fields facts
  diagnostics : d.diagnostics = c.diagnostics ++ ds

section Prepared

theorem prepared_refl (c : Catalogue) (fields : List FieldForm) : c.Prepared fields [] c :=
  ⟨grows_refl c, id, (List.append_nil _).symm⟩

theorem prepared_diagnoseAll (c : Catalogue) (fields : List FieldForm) (ds : List Diagnostic) :
    c.Prepared fields ds (c.diagnoseAll ds) :=
  ⟨grows_diagnoseAll c ds, fun h => h.diagnoseAll ds, rfl⟩

theorem Prepared.trans (h : c.Prepared fields ds d) (h' : d.Prepared fields ds' e) :
    c.Prepared fields (ds ++ ds') e where
  grows := h.grows.trans h'.grows
  drafted hc := h'.drafted (h.drafted hc)
  diagnostics := by rw [h'.diagnostics, h.diagnostics, List.append_assoc]

/-- The place of a collection type is that of its name, which may be new. -/
theorem intern_cases (c : Catalogue) (t : CollectionType) :
    (∃ id, c.id? (c.collectionName t) = some id ∧ c.intern t = (c, id)) ∨
      (c.id? (c.collectionName t) = none ∧
        c.intern t = (c.push (c.collectionName t) (.collection t), c.types.length)) := by
  unfold intern
  dsimp only
  cases hid : c.id? (c.collectionName t) with
  | some id => exact .inl ⟨id, rfl, rfl⟩
  | none => exact .inr ⟨rfl, rfl⟩

theorem Registered.collectionName_reference (h : c.Registered) (kind : CollectionKind)
    (element : String) (key : Option String) :
    c.collectionName ⟨kind, c.reference element, key.map c.reference⟩ =
      (Shape.collection kind element key).typeName := by
  unfold collectionName Shape.typeName CollectionKind.typeName
  cases key <;> simp only [Option.map_some, Option.map_none, h.refName_reference]

theorem draws_collection (c : Catalogue) (kind : CollectionKind) (element : String)
    (key : Option String) :
    c.Draws (.collection ⟨kind, c.reference element, key.map c.reference⟩) fun ref =>
      .collection ⟨kind, ref element, key.map ref⟩ := by
  intro f ref h
  have hkey : f ∘ c.reference = ref := funext h.reference
  dsimp only [TypeBody.mapReferences]
  rw [h.reference, Option.map_map, hkey]

/-- The type of a field goes by its name, which a collection type has from then on. -/
theorem shapeType_spec (h : c.Registered) (hf : form ∈ fields) (hs : form.shape = some shape) :
    let r := c.shapeType shape
    c.Prepared fields [] r.1 ∧ r.1.Registered ∧ r.2.1 = shape.fieldKind ∧
      r.1.StandsFor r.2.2 shape.typeName ∧
      (shape.fieldKind = .collection → ∃ id, r.1.id? shape.typeName = some id) := by
  cases shape with
  | simple host =>
    exact ⟨prepared_refl c fields, h, rfl, c.standsFor_reference _, fun hk => by cases hk⟩
  | reference name =>
    exact ⟨prepared_refl c fields, h, rfl, c.standsFor_reference _, fun hk => by cases hk⟩
  | collection kind element key =>
    have hname := h.collectionName_reference kind element key
    have hintern := c.intern_cases ⟨kind, c.reference element, key.map c.reference⟩
    rw [hname] at hintern
    dsimp only [shapeType]
    rcases hintern with ⟨id, hid, hi⟩ | ⟨hn, hi⟩
    · rw [hi]
      exact ⟨prepared_refl c fields, h, rfl, .resolved hid, fun _ => ⟨id, hid⟩⟩
    · rw [hi]
      have hid : (c.push (Shape.collection kind element key).typeName
          (.collection ⟨kind, c.reference element, key.map c.reference⟩)).id?
          (Shape.collection kind element key).typeName = some c.types.length := by
        rw [id?_push, if_pos rfl]
      refine ⟨⟨grows_push hn _, fun hc => ?_, (List.append_nil _).symm⟩, h.push hn _, rfl,
        .resolved hid, fun _ => ⟨_, hid⟩⟩
      exact hc.push hn (.collection hf hs) (c.draws_collection kind element key)

end Prepared

section Fields

/-- The collection types that some forms ask for are there. -/
def HasCollections (c : Catalogue) (forms : List FieldForm) : Prop :=
  ∀ form ∈ forms, ∀ shape, form.shape = some shape → shape.fieldKind = .collection →
    ∃ id, c.id? shape.typeName = some id

/-- A catalogue with fields whose references stand for the names in some forms. -/
structure TypesFields (c : Catalogue) (done : List Field) (forms : List FieldForm) : Prop where
  registered : c.Registered
  draws : ∀ {f ref}, c.Reads f ref →
    done.map (Field.mapReference f) =
      forms.filterMap (FieldForm.typed ref)
  collections : c.HasCollections forms

variable {forms before : List FieldForm} {done : List Field}

theorem HasCollections.mono (h : c.HasCollections forms) (hg : c.Grows d) :
    d.HasCollections forms := by
  intro form hm shape hs hk
  obtain ⟨id, hid⟩ := h form hm shape hs hk
  exact ⟨id, hg.names hid⟩

theorem HasCollections.concat (h : c.HasCollections forms)
    (hf : ∀ shape, form.shape = some shape → shape.fieldKind = .collection →
      ∃ id, c.id? shape.typeName = some id) : c.HasCollections (forms ++ [form]) := by
  intro form' hm
  rcases List.mem_append.1 hm with hm | hm
  · exact h form' hm
  · rw [List.mem_singleton.1 hm]
    exact hf

theorem addField_spec (h : c.TypesFields done before) (hf : form ∈ fields) (subject : String) :
    let r := addField subject (c, done) form
    c.Prepared fields (form.droppedIssue?.toList.map (⟨subject, ·⟩)) r.1 ∧
      r.1.TypesFields r.2 (before ++ [form]) := by
  unfold addField FieldForm.droppedIssue?
  cases hs : form.shape with
  | none =>
    have hgrows := grows_diagnoseAll c [⟨subject, .droppedField form.name⟩]
    refine ⟨prepared_diagnoseAll c fields _, h.registered.diagnoseAll _, fun {f ref} hr => ?_, ?_⟩
    · have hfield : form.typed ref = none := by rw [FieldForm.typed, hs]; rfl
      rw [h.draws (hr.mono hgrows), List.filterMap_append, List.filterMap_cons_none hfield,
        List.filterMap_nil, List.append_nil]
    · refine (h.collections.mono hgrows).concat fun shape hs' => ?_
      rw [hs] at hs'
      cases hs'
  | some shape =>
    obtain ⟨hp, hreg, hkind, href, hcoll⟩ := shapeType_spec h.registered hf hs
    refine ⟨hp, hreg, fun {f ref} hr => ?_, ?_⟩
    · rw [List.map_append, h.draws (hr.mono hp.grows), List.filterMap_append, List.map_singleton,
        List.filterMap_cons_some (FieldForm.typed_of_some hs ref), List.filterMap_nil,
        Field.mapReference, hr _ _ href, hkind]
    · refine (h.collections.mono hp.grows).concat fun shape' hs' => ?_
      rw [hs] at hs'
      cases hs'
      exact hcoll

theorem foldl_addField_spec (h : c.TypesFields done before) (hf : forms ⊆ fields)
    (subject : String) :
    let r := forms.foldl (addField subject) (c, done)
    c.Prepared fields ((forms.filterMap FieldForm.droppedIssue?).map (⟨subject, ·⟩)) r.1 ∧
      r.1.TypesFields r.2 (before ++ forms) := by
  induction forms generalizing c done before with
  | nil => exact ⟨prepared_refl c fields, (List.append_nil before).symm ▸ h⟩
  | cons form rest ih =>
    obtain ⟨hform, hrest⟩ := List.cons_subset.1 hf
    obtain ⟨hp, hstep⟩ := addField_spec h hform subject
    obtain ⟨hp', hall⟩ := ih hstep hrest
    have hds : ((form :: rest).filterMap FieldForm.droppedIssue?).map (Diagnostic.mk subject) =
        form.droppedIssue?.toList.map (⟨subject, ·⟩) ++
          (rest.filterMap FieldForm.droppedIssue?).map (⟨subject, ·⟩) := by
      rw [← List.map_append]
      cases hd : form.droppedIssue? with
      | none => rw [List.filterMap_cons_none hd]; rfl
      | some issue => rw [List.filterMap_cons_some hd]; rfl
    rw [hds]
    refine ⟨hp.trans hp', ?_⟩
    rw [List.append_assoc] at hall
    exact hall

end Fields

section Components

variable {form : ComponentForm}

theorem mapReferences_componentBody (f : TypeRef → TypeRef) (kind : Kind) (form : ComponentForm)
    (component : ComponentType) :
    (componentBody kind form component).mapReferences f =
      componentBody kind form (component.mapReferences f) := by
  cases kind <;> rfl

theorem foldl_diagnose (c : Catalogue) (subject : String) (issue : String → Issue)
    (names : List String) :
    names.foldl (fun c name => c.diagnose subject (issue name)) c =
      c.diagnoseAll (names.map fun name => ⟨subject, issue name⟩) := by
  induction names generalizing c with
  | nil => simp [diagnoseAll]
  | cons name rest ih =>
    rw [List.foldl_cons, ih]
    simp [diagnoseAll, diagnose]

theorem map_name_filterMap_typed (ref : String → TypeRef) (forms : List FieldForm) :
    (forms.filterMap (FieldForm.typed ref)).map Field.name =
      (forms.filter (·.shape.isSome)).map FieldForm.name := by
  induction forms with
  | nil => rfl
  | cons form rest ih =>
    cases hs : form.shape with
    | none => simp [FieldForm.typed, hs, ih]
    | some shape => simp [FieldForm.typed, hs, ih]

/-- The component of a declaration has the typed fields and ancestors. -/
theorem componentOf_spec (h : c.Registered) (hf : form.fields ⊆ fields) (subject : String) :
    let r := c.componentOf subject form
    c.Prepared fields (form.issues.map (⟨subject, ·⟩)) r.1 ∧
      (∀ {f ref}, r.1.Reads f ref → r.2.mapReferences f = form.typed ref) ∧
      r.1.HasCollections form.fields := by
  have hstart : c.TypesFields [] [] :=
    ⟨h, fun _ => rfl, fun _ hm => absurd hm List.not_mem_nil⟩
  obtain ⟨hp, ht⟩ := foldl_addField_spec hstart hf subject
  unfold componentOf
  dsimp only at hp ht ⊢
  generalize form.fields.foldl (addField subject) (c, []) = r at hp ht
  obtain ⟨d, done⟩ := r
  dsimp only at hp ht ⊢
  rw [List.nil_append] at ht
  have hnames : done.map Field.name = form.typedNames := by
    have hdraws := congrArg (List.map Field.name) (ht.draws d.reads_settle)
    rw [map_name_filterMap_typed, List.map_map] at hdraws
    exact hdraws
  have hkey : (done.map Field.name).filter form.naturalKey.contains = form.presentKey :=
    congrArg (List.filter form.naturalKey.contains) hnames
  rw [hkey, foldl_diagnose]
  refine ⟨?_, fun {f ref} hr => ?_, ht.collections⟩
  · have hissues : form.issues.map (Diagnostic.mk subject) =
        (form.fields.filterMap FieldForm.droppedIssue?).map (⟨subject, ·⟩) ++
          (form.naturalKey.filter fun name => !form.presentKey.contains name).map
            fun name => ⟨subject, .undeclaredKey name⟩ := by
      rw [ComponentForm.issues, List.map_append, List.map_map]
      rfl
    rw [hissues]
    exact hp.trans (prepared_diagnoseAll d fields _)
  · have hread := hr.mono (grows_diagnoseAll d _)
    have hancestors : (form.ancestors.map d.reference).map f = form.ancestors.map ref := by
      rw [List.map_map]
      exact List.map_congr_left fun name _ => hread.reference name
    rw [ComponentType.mapReferences, ComponentForm.typed, ← ht.draws hread, ← hancestors]
    rfl

end Components

section Hierarchies

theorem foldl_addPath (c : Catalogue) (h : Hierarchy) (subject : String)
    (paths : List (List String)) :
    paths.foldl (addPath subject) (c, h) =
      (c.diagnoseAll ((h.refusals paths).map fun cause => ⟨subject, .rejected cause⟩),
        h.addAll paths) := by
  induction paths generalizing c h with
  | nil => simp [diagnoseAll, Hierarchy.refusals, Hierarchy.addAll]
  | cons path rest ih =>
    rw [List.foldl_cons, Hierarchy.refusals, Hierarchy.addAll, List.foldl_cons]
    cases hadd : h.add path with
    | ok h' =>
      have hstep : addPath subject (c, h) path = (c, h') := by rw [addPath, hadd]
      rw [hstep]
      exact ih c h'
    | error cause =>
      have hstep : addPath subject (c, h) path = (c.diagnose subject (.rejected cause), h) := by
        rw [addPath, hadd]
      rw [hstep, ih]
      simp [diagnoseAll, diagnose, Hierarchy.addAll, Except.toOption]

end Hierarchies

section Facts

theorem mapReferences_typed (f : TypeRef → TypeRef) (ref : String → TypeRef)
    (form : ComponentForm) :
    (form.typed ref).mapReferences f = form.typed (f ∘ ref) := by
  unfold ComponentType.mapReferences ComponentForm.typed
  simp only [List.map_map, List.map_filterMap]
  congr 2
  funext field
  cases hs : field.shape <;> simp [FieldForm.typed, Field.mapReference, hs]

/-- A declaration brings in a type with fields, or one that restricts a basic type. -/
theorem draft?_cases (h : fact.draft? = some draft) :
    (∃ form, fact.component? = some form ∧
      draft = fun ref => componentBody fact.kind form (form.typed ref)) ∨
      ∃ body : TypeBody, body.host?.isSome = true ∧ draft = fun _ => body := by
  obtain ⟨name, kind, form⟩ := fact
  cases form with
  | component form =>
    cases h
    exact .inl ⟨form, rfl, rfl⟩
  | stringPattern pattern maxLength =>
    have hd : ((StringPattern.ofText pattern maxLength).map
        (some ∘ TypeBody.stringPattern)).toOption.join.map (fun body _ => body) = some draft := h
    cases hp : StringPattern.ofText pattern maxLength with
    | error cause =>
      rw [hp] at hd
      cases hd
    | ok p =>
      rw [hp] at hd
      cases hd
      exact .inr ⟨_, rfl, rfl⟩
  | _ =>
    cases h
    exact .inr ⟨_, rfl, rfl⟩

/-- The references of a type that a declaration brings in are those of its draft. -/
theorem mapReferences_draft (h : fact.draft? = some draft) (f : TypeRef → TypeRef)
    (ref : String → TypeRef) : (draft ref).mapReferences f = draft (f ∘ ref) := by
  rcases draft?_cases h with ⟨form, -, rfl⟩ | ⟨body, hb, rfl⟩
  · dsimp only
    rw [mapReferences_componentBody, mapReferences_typed]
  · cases body <;> first | rfl | cases hb

/-- A catalogue before a declaration adds its type, with that type. -/
def prepare (c : Catalogue) (fact : NormalFact) : Catalogue × Option TypeBody :=
  match fact.form with
  | .component form =>
    let (c, component) := c.componentOf fact.name form
    (c, some (componentBody fact.kind form component))
  | _ => (c.diagnoseAll fact.diagnostics, fact.draft?.map (· c.reference))

/-- Adds the type of a declaration, whatever its kind. -/
def addFact (c : Catalogue) (fact : NormalFact) : Catalogue :=
  match c.prepare fact with
  | (c, some body) => c.addOrDiagnose fact.name body
  | (c, none) => c

/-- What holds before a declaration adds its type: the type is as drafted. -/
structure Readies (c : Catalogue) (fields : List FieldForm) (fact : NormalFact) (d : Catalogue)
    (body? : Option TypeBody) : Prop extends c.Prepared fields fact.diagnostics d where
  body : Option.Rel (fun body draft => d.Draws body draft) body? fact.draft?
  collections : d.HasCollections fact.fields

theorem readies_plain (fields : List FieldForm) (hn : fact.fields = []) (c : Catalogue) :
    c.Readies fields fact (c.diagnoseAll fact.diagnostics) (fact.draft?.map (· c.reference)) where
  toPrepared := prepared_diagnoseAll c fields _
  body := by
    cases hd : fact.draft? with
    | none => exact .none
    | some draft =>
      refine .some fun {f ref} hr => ?_
      have hread := hr.mono (grows_diagnoseAll c _)
      rw [mapReferences_draft hd]
      exact congrArg draft (funext hread.reference)
  collections := by
    rw [hn]
    exact fun _ hm => absurd hm List.not_mem_nil

theorem prepare_spec (h : c.Registered) (hf : fact.fields ⊆ fields) :
    c.Readies fields fact (c.prepare fact).1 (c.prepare fact).2 := by
  obtain ⟨name, kind, form⟩ := fact
  cases form with
  | component form =>
    have hfields : form.fields ⊆ fields := hf
    obtain ⟨hp, hb, hc⟩ := componentOf_spec h hfields name
    refine ⟨hp, .some fun {f ref} hr => ?_, hc⟩
    rw [mapReferences_componentBody]
    exact congrArg (componentBody kind form) (hb hr)
  | _ => exact readies_plain fields rfl c

theorem addOrDiagnose_cases (c : Catalogue) (name : String) (body : TypeBody) :
    (c.id? name = none ∧ c.addOrDiagnose name body = c.push name body) ∨
      ∃ id, c.id? name = some id ∧
        c.addOrDiagnose name body = c.diagnoseAll [⟨name, .rejected (.definedType name)⟩] := by
  unfold addOrDiagnose insert Dict.contains
  cases hid : c.id? name with
  | none =>
    rw [id?] at hid
    rw [hid]
    exact .inl ⟨rfl, rfl⟩
  | some id =>
    rw [id?] at hid
    rw [hid]
    exact .inr ⟨id, rfl, rfl⟩

/-- What a declaration does to a catalogue: its collection types come in, and then its type,
unless there is none or the name is taken. -/
inductive Adds (c : Catalogue) (fields : List FieldForm) (fact : NormalFact) : Catalogue → Prop
  | nothing {d : Catalogue} {body? : Option TypeBody} : c.Readies fields fact d body? →
      fact.draft? = none → Adds c fields fact d
  | pushed {d : Catalogue} {body : TypeBody} {draft : Draft} :
      c.Readies fields fact d (some body) → fact.draft? = some draft → d.Draws body draft →
      d.id? fact.name = none → Adds c fields fact (d.push fact.name body)
  | refused {d : Catalogue} {body? : Option TypeBody} {draft : Draft} {id : Nat} :
      c.Readies fields fact d body? → fact.draft? = some draft → d.id? fact.name = some id →
      Adds c fields fact (d.diagnoseAll [⟨fact.name, .rejected (.definedType fact.name)⟩])

/-- The name of a declaration leads to a type, if the declaration brings one in. -/
def HasType (c : Catalogue) (fact : NormalFact) : Prop :=
  ∀ draft, fact.draft? = some draft → ∃ id, c.id? fact.name = some id

theorem HasType.mono (h : c.HasType fact) (hg : c.Grows d) : d.HasType fact := by
  intro draft hd
  obtain ⟨id, hid⟩ := h draft hd
  exact ⟨id, hg.names hid⟩

theorem adds_addFact (h : c.Registered) (hf : fact.fields ⊆ fields) :
    c.Adds fields fact (c.addFact fact) := by
  have hp := prepare_spec h hf
  unfold addFact
  generalize c.prepare fact = r at hp
  obtain ⟨d, body?⟩ := r
  have hb := hp.body
  cases hd : fact.draft? with
  | none =>
    rw [hd] at hb
    cases hb
    exact .nothing hp hd
  | some draft =>
    rw [hd] at hb
    cases hb with
    | @some body _ hdraws =>
      rcases addOrDiagnose_cases d fact.name body with ⟨hn, he⟩ | ⟨id, hid, he⟩
      · dsimp only
        rw [he]
        exact .pushed hp hd hdraws hn
      · dsimp only
        rw [he]
        exact .refused hp hd hid

theorem Adds.grows (h : c.Adds fields fact d) : c.Grows d := by
  cases h with
  | nothing hp => exact hp.grows
  | pushed hp _ _ hn => exact hp.grows.trans (grows_push hn _)
  | refused hp => exact hp.grows.trans (grows_diagnoseAll _ _)

theorem Adds.collections (h : c.Adds fields fact d) : d.HasCollections fact.fields := by
  cases h with
  | nothing hp => exact hp.collections
  | pushed hp _ _ hn => exact hp.collections.mono (grows_push hn _)
  | refused hp => exact hp.collections.mono (grows_diagnoseAll _ _)

theorem Adds.hasType (h : c.Adds fields fact d) : d.HasType fact := by
  intro draft hd
  cases h with
  | nothing _ hnone =>
    rw [hnone] at hd
    cases hd
  | pushed _ _ _ _ => exact ⟨_, (id?_push _ _ _ _).trans (if_pos rfl)⟩
  | refused _ _ hid => exact ⟨_, hid⟩

theorem Adds.drafted (h : c.Adds fields fact d) (hc : c.Drafted fields facts) :
    d.Drafted fields (fact :: facts) := by
  cases h with
  | nothing hp => exact (hp.drafted hc).mono (List.subset_cons_self _ _)
  | pushed hp hd hb hn =>
    exact ((hp.drafted hc).mono (List.subset_cons_self _ _)).push hn
      (.declared List.mem_cons_self hd) hb
  | refused hp => exact ((hp.drafted hc).mono (List.subset_cons_self _ _)).diagnoseAll _

end Facts

section Kinds

theorem addRestriction_eq (hf : fact.form.fits fact.kind = true)
    (hk : fact.kind ∈ Kind.restricted) (c : Catalogue) :
    c.addRestriction fact = c.addFact fact := by
  obtain ⟨name, kind, form⟩ := fact
  cases form with
  | enumeration =>
    obtain rfl : kind = .enumeration := of_decide_eq_true hf
    dsimp only at hk
    exact absurd hk (by decide)
  | hierarchy =>
    obtain rfl : kind = .hierarchy := of_decide_eq_true hf
    dsimp only at hk
    exact absurd hk (by decide)
  | component =>
    have hn : ∀ kind ∈ Kind.restricted, ¬ kind.isComponent = true := by decide
    exact absurd hf (hn kind hk)
  | stringPattern pattern maxLength =>
    unfold addRestriction addFact prepare NormalFact.diagnostics NormalFact.issues
      NormalFact.draft? restriction
    dsimp only
    cases StringPattern.ofText pattern maxLength with
    | error cause => rfl
    | ok p => exact congrArg (fun d => addOrDiagnose d _ _) c.diagnoseAll_nil.symm
  | _ => exact congrArg (fun d => addOrDiagnose d _ _) c.diagnoseAll_nil.symm

theorem addEnumeration_eq (hf : fact.form.fits .enumeration = true) (c : Catalogue) :
    c.addEnumeration fact = c.addFact fact := by
  obtain ⟨name, kind, form⟩ := fact
  cases form with
  | enumeration values finalized =>
    exact congrArg (fun d => addOrDiagnose d _ _) c.diagnoseAll_nil.symm
  | _ => cases hf

theorem addHierarchy_eq (hf : fact.form.fits .hierarchy = true) (c : Catalogue) :
    c.addHierarchy fact = c.addFact fact := by
  obtain ⟨name, kind, form⟩ := fact
  cases form with
  | hierarchy levels labels finalized =>
    unfold addHierarchy addFact prepare NormalFact.diagnostics NormalFact.issues
    dsimp only
    rw [Label.paths_eq, foldl_addPath, List.map_map]
    rfl
  | _ => cases hf

theorem addComponent_eq (hf : fact.form.fits fact.kind = true)
    (hk : fact.kind ∈ Kind.componentFamily) (c : Catalogue) :
    c.addComponent fact = c.addFact fact := by
  obtain ⟨name, kind, form⟩ := fact
  cases form with
  | component form => rfl
  | _ =>
    obtain rfl := of_decide_eq_true hf
    dsimp only at hk
    exact absurd hk (by decide)

end Kinds

end Catalogue

end Cardfile
