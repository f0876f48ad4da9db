import Cardfile.Proofs.Faithfulness
import Cardfile.Proofs.Inverses

/-! # Interning

Collection types are found by their names alone. A field that is declared as a collection has this
collection as its type, as long as nothing else in the model has the name; otherwise its type may be
that, whatever it is.
-/

namespace Cardfile

/-- The same shape by the own names of basic types. -/
def Shape.standard : Shape → Shape
  | collection kind element key => collection kind (Host.standard element) (key.map Host.standard)
  | shape => shape

/-- Nothing else in a model has the name of a collection: no declaration, and no collection that
holds other types. -/
structure Review.Unmistaken (r : Review) (shape : Shape) : Prop where
  declared : ∀ fact ∈ r.normalFacts, fact.name ≠ shape.typeName
  alike : ∀ other ∈ (r.normalFacts.flatMap NormalFact.fields).filterMap FieldForm.shape,
    other.fieldKind = .collection → other.typeName = shape.typeName →
      other.standard = shape.standard

namespace Catalogue

/-- A field as it is declared. If it is a collection, its type goes by the name of the collection,
and is of the same kind and holds the same types, unless it is mistaken for something else. -/
structure FieldKept (c : Catalogue) (r : Review) (field : Field) (form : FieldForm) : Prop where
  name : field.name = form.name
  collection : ∀ {kind element key}, form.shape = some (.collection kind element key) →
    field.kind = .collection ∧ ∃ t, c.resolve? field.type = some t ∧
      t.name = (Shape.collection kind element key).typeName ∧
      (r.Unmistaken (.collection kind element key) →
        t.body = .collection ⟨kind, c.final element, key.map c.final⟩)

end Catalogue

variable {c : Catalogue} {r : Review} {fact : NormalFact} {form : FieldForm} {field : Field}
  {kind kind' : CollectionKind} {element element' : String} {key key' : Option String}

section Names

/-- Names without the marks of collection types leave no room for mistakes. -/
theorem Review.unmistaken_of_plain (hp : ∀ fact ∈ r.normalFacts, Plain fact.name)
    (hh : ∀ fact ∈ r.normalFacts, ∀ form ∈ fact.fields, ∀ name ∈ form.held, Plain name)
    (hf : form ∈ r.normalFacts.flatMap NormalFact.fields)
    (hs : form.shape = some (.collection kind element key)) :
    r.Unmistaken (.collection kind element key) where
  declared fact hm he := not_plain_typeName _ _ _ (he ▸ hp fact hm)
  alike other ho hk he := by
    obtain ⟨form', hf', hs'⟩ := List.mem_filterMap.1 ho
    cases other with
    | collection kind' element' key' =>
      obtain ⟨helement, hkey⟩ := Catalogue.plain_held hh hf' hs'
      obtain ⟨rfl, helements, hkeys⟩ :=
        typeName_inj helement hkey (Catalogue.plain_held hh hf hs).1 he
      rw [Shape.standard, Shape.standard, helements, hkeys]
    | _ => cases hk

end Names

namespace Catalogue

section Fields

theorem forall₂_typed {R : Field → FieldForm → Prop} {ref : String → TypeRef}
    {forms : List FieldForm}
    (h : ∀ form ∈ forms, ∀ field, form.typed ref = some field → R field form) :
    List.Forall₂ R (forms.filterMap (FieldForm.typed ref)) (forms.filter (·.shape.isSome)) := by
  have hsome : ∀ form : FieldForm, (form.typed ref).isSome = form.shape.isSome :=
    fun _ => Option.isSome_map
  simpa only [hsome] using (forall₂_filterMap h).flip

theorem fieldKept_completed (failOnOpen : Bool) (hm : fact ∈ r.normalFacts)
    (hf : form ∈ fact.fields) (ht : form.typed (resolved r).final = some field) :
    (completed r failOnOpen).FieldKept r field form := by
  obtain ⟨shape, hs, rfl⟩ := Option.map_eq_some_iff.1 ht
  refine ⟨rfl, fun {kind element key} hcollection => ?_⟩
  rw [hs] at hcollection
  cases hcollection
  obtain ⟨t, ht, hname, hsource⟩ := (finished_resolved r).type_of_collection hm hf hs
  have hresolve := resolve?_completed r failOnOpen
    ((resolved r).final (Shape.collection kind element key).typeName)
  rw [ht, Option.map_some] at hresolve
  refine ⟨rfl, _, hresolve, hname, fun hu => ?_⟩
  rw [hname] at hsource
  rcases hsource with ⟨other, hother, he⟩ | ⟨other, hother, kind', element', key', hs', he, hb⟩
  · exact absurd he (hu.declared other hother)
  · have hsame := hu.alike _ (List.mem_filterMap.2 ⟨other, hother, hs'⟩) rfl he
    obtain ⟨rfl, helement, hkey⟩ := Shape.collection.inj hsame
    rw [collection_congr (finished_resolved r).final_standard helement hkey] at hb
    unfold related
    rw [hb]
    rfl

end Fields

/-- The collections of a component keep their shape in the catalogue, as long as nothing else has
their names. -/
theorem collections_keep_shape {policy : Policy} {m : Model} {t : NamedType}
    {component : ComponentType} (h : build policy m = .ok c) (ht : t ∈ c.types)
    (hc : t.body.component? = some component) :
    ∃ fact ∈ (Review.ofModel policy.rules m).normalFacts, ∃ form,
      fact.name = t.name ∧ fact.component? = some form ∧
        List.Forall₂ (c.FieldKept (.ofModel policy.rules m)) component.fields
          (form.fields.filter (·.shape.isSome)) := by
  obtain rfl := eq_completed_of_build h
  obtain ⟨u, hu, rfl⟩ := List.mem_map.1 ht
  rw [component?_related] at hc
  obtain ⟨fact, hm, form, hname, hform, rfl⟩ := (finished_resolved _).component hu hc
  refine ⟨fact, hm, form, hname, hform, forall₂_typed fun field hf kept hk => ?_⟩
  rw [← fields_of_component? hform] at hf
  exact fieldKept_completed policy.failOnOpen hm hf hk

theorem collections_keep_shape_of_prices :
    let tags := Value.node "field" [("name", .text "tags"), ("type", .text "text"),
      ("collection", .text "set")]
    let prices := Value.node "field" [("name", .text "prices"), ("type", .text "Price"),
      ("collection", .text "map"), ("key", .text "str")]
    let m : Model := [
      ⟨"component", [("name", .text "Item"), ("fields", .list [tags, prices])]⟩,
      ⟨"decimal", [("name", .text "Price"), ("precision", .integer 8), ("scale", .integer 2)]⟩]
    let r := Review.ofModel .default m
    r.Unmistaken (.collection .set "text" none) ∧
      r.Unmistaken (.collection .map "Price" (some "str")) ∧
      ∃ c t component, build ⟨.default, true, false⟩ m = .ok c ∧ t ∈ c.types ∧ t.name = "Item" ∧
        t.body.component? = some component ∧
        ∃ fact ∈ r.normalFacts, ∃ form, fact.name = t.name ∧ fact.component? = some form ∧
          List.Forall₂ (c.FieldKept r) component.fields (form.fields.filter (·.shape.isSome)) := by
  intro tags prices m r
  have hnone : (ofReview r).diagnostics = [] := by decide +kernel
  obtain ⟨c, hc⟩ : ∃ c : Catalogue,
      c = { (ofReview r).inferAll r.links with failOnOpen := false } := ⟨_, rfl⟩
  have hbuild : build ⟨.default, true, false⟩ m = .ok c := by
    unfold build
    dsimp only
    rw [hnone, hc]
    rfl
  obtain ⟨t, ht⟩ : ∃ t, (c.type? "Item").filter (·.name = "Item") = some t :=
    Option.isSome_iff_exists.1 (by rw [hc]; decide +kernel)
  obtain ⟨htype, hname⟩ := Option.filter_eq_some_iff.1 ht
  obtain ⟨component, hcomponent⟩ : ∃ component, c.component? "Item" = some component :=
    Option.isSome_iff_exists.1 (by rw [hc]; decide +kernel)
  rw [Catalogue.component?, htype, Option.bind_some] at hcomponent
  have hplain : ∀ fact ∈ r.normalFacts, Plain fact.name := by decide +kernel
  have hheld : ∀ fact ∈ r.normalFacts, ∀ form ∈ fact.fields, ∀ name ∈ form.held, Plain name := by
    decide +kernel
  have hfields : r.normalFacts.flatMap NormalFact.fields =
      [⟨"tags", some (.collection .set "text" none), none, none, false, none⟩,
        ⟨"prices", some (.collection .map "Price" (some "str")), none, none, false, none⟩] := by
    decide +kernel
  have htags : r.Unmistaken (.collection .set "text" none) :=
    Review.unmistaken_of_plain hplain hheld (hfields ▸ List.mem_cons_self) rfl
  have hprices : r.Unmistaken (.collection .map "Price" (some "str")) :=
    Review.unmistaken_of_plain hplain hheld
      (hfields ▸ List.mem_cons_of_mem _ List.mem_cons_self) rfl
  have hkept := collections_keep_shape hbuild (mem_of_type? htype) hcomponent
  exact ⟨htags, hprices, c, t, component, hbuild, mem_of_type? htype, of_decide_eq_true hname,
    hcomponent, hkept⟩

/-- An enumeration has the name of a collection, and a field that is declared as the collection has
the enumeration as its type. Two collections are spelled alike, and two fields that are declared as
one and as the other have one type. Nothing is told of either. -/
theorem collections_mistaken :
    let field := fun name type (more : Properties) =>
      Value.node "field" (("name", .text name) :: ("type", .text type) :: more)
    let item := fun fields : List Value => (⟨"component", [("name", .text "Item"),
      ("fields", .list fields)]⟩ : Declaration)
    let plain := fun name : String => (⟨"component", [("name", .text name),
      ("fields", .list [field "label" "string" []])]⟩ : Declaration)
    let policy : Policy := ⟨.default, true, false⟩
    (∃ c, build policy [⟨"enumeration", [("name", .text "set<string>"),
          ("values", .list [.text "red"])]⟩,
        item [field "tags" "string" [("collection", .text "set")]]] = .ok c ∧
      c.diagnostics = [] ∧
      ((c.component? "Item").bind (·.field? "tags")).map (fun f =>
        (f.kind, (c.resolve? f.type).map NamedType.title)) =
          some (.collection, some "set<string> (enumeration)")) ∧
    ∃ c, build policy [plain "a", plain "b", plain "a,b",
        item [field "one" "a,b" [("collection", .text "set")],
          field "other" "b" [("collection", .text "set"), ("key", .text "a")]]] = .ok c ∧
      c.diagnostics = [] ∧
      (c.component? "Item").map (·.fields.map Field.type) =
        some [.resolved 14, .resolved 14] := by
  intro field item plain policy
  have hbuild : ∀ m, (ofReview (.ofModel .default m)).diagnostics = [] →
      build policy m =
        .ok { (ofReview (.ofModel .default m)).inferAll (Review.ofModel .default m).links with
          failOnOpen := false } := by
    intro m hnone
    unfold build
    dsimp only [policy]
    rw [hnone]
    rfl
  refine ⟨⟨_, hbuild _ ?_, ?_, ?_⟩, _, hbuild _ ?_, ?_, ?_⟩
  all_goals decide +kernel

end Catalogue

end Cardfile
