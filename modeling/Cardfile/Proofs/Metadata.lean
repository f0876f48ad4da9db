import Cardfile.Proofs.Faithfulness
import Cardfile.Proofs.Inverses

/-! # Metadata of fields

Natural keys, relationships and measures are kept under the names of fields. The fields of a type
are those of its declaration that have a type. Its natural key and its relationships follow them,
but its measures are those of all fields that were declared.
-/

namespace Cardfile

variable {r : Review} {fact : NormalFact} {form : ComponentForm} {t : NamedType} {name : String}
  {component : ComponentType} {entity : EntityType} {x : Diagnostic} {rules : RuleBase} {m : Model}
  {failOnOpen : Bool}

/-- What a type is as a fact. -/
def TypeBody.fact? : TypeBody → Option FactType
  | .fact table => some table
  | _ => none

namespace ComponentForm

theorem mem_typedNames_iff : name ∈ form.typedNames ↔
    ∃ field ∈ form.fields, field.shape.isSome = true ∧ field.name = name := by
  simp only [typedNames, List.mem_map, List.mem_filter, and_assoc]

theorem presentKey_sublist (form : ComponentForm) : form.presentKey.Sublist form.typedNames :=
  List.filter_sublist

/-- A field that is declared but not kept is told to be dropped. -/
theorem mem_typedNames_or_dropped (h : name ∈ form.fields.map FieldForm.name) :
    name ∈ form.typedNames ∨ .droppedField name ∈ form.issues := by
  obtain ⟨field, hm, rfl⟩ := List.mem_map.1 h
  cases hs : field.shape with
  | some shape => exact .inl (mem_typedNames_iff.2 ⟨field, hm, by simp [hs], rfl⟩)
  | none =>
    refine .inr (List.mem_append_left _ (List.mem_filterMap.2 ⟨field, hm, ?_⟩))
    simp [FieldForm.droppedIssue?, hs]

end ComponentForm

namespace Catalogue

/-- A type as it stems from its declaration: it has the fields of the form, the relationships of
the declaration's links, and for a fact the measures of the form. -/
structure StemsFrom (r : Review) (t : NamedType) (fact : NormalFact) (form : ComponentForm) :
    Prop where
  name : t.name = fact.name
  component? : t.body.component? = some (form.typed (resolved r).final)
  entity? : ∀ entity, t.body.entity? = some entity → entity =
    ⟨form.typed (resolved r).final, form.externalId,
      (resolved r).relate (Review.linksOf fact) .empty⟩
  measures : ∀ table, t.body.fact? = some table → table.measures = measuresOf form.fields

section Stems

/-- The links from a declaration are its own, as it shares its name with no other. -/
theorem filter_source_links (hn : (r.normalFacts.map NormalFact.name).Nodup)
    (hm : fact ∈ r.normalFacts) : r.links.filter (·.source = fact.name) = Review.linksOf fact := by
  have hone : r.normalFacts.filter (·.name = fact.name) = [fact] := filter_eq_singleton hn hm
  rw [Review.links, filter_source_flatMap, hone, List.flatMap_singleton]

theorem entity?_componentBody {kind : Kind} {form : ComponentForm} {component : ComponentType}
    (h : (componentBody kind form component).entity? = some entity) :
    entity = ⟨component, form.externalId, .empty⟩ := by
  cases kind <;> cases h
  all_goals rfl

theorem measures_componentBody {kind : Kind} {form : ComponentForm} {component : ComponentType}
    {links : List Link} {c : Catalogue} {table : FactType}
    (h : (c.related links ⟨name, componentBody kind form component⟩).body.fact? = some table) :
    table.measures = measuresOf form.fields := by
  cases kind <;> cases h
  rfl

theorem exists_stem (ht : t ∈ (completed (.ofModel rules m) failOnOpen).types)
    (hc : t.body.component? = some component) :
    ∃ fact ∈ (Review.ofModel rules m).normalFacts, ∃ form, fact.component? = some form ∧
      StemsFrom (.ofModel rules m) t fact form := by
  generalize hr : Review.ofModel rules m = r at ht ⊢
  have hn : (r.normalFacts.map NormalFact.name).Nodup := hr ▸ Review.nodup_ofFacts rules [] m.facts
  obtain ⟨u, hu, rfl⟩ := List.mem_map.1 ht
  rw [component?_related] at hc
  obtain ⟨fact, hm, form, hform, rfl⟩ := (finished_resolved r).draft_of_component hu hc
  refine ⟨fact, hm, form, hform, rfl, ?_, fun entity he => ?_, fun table hb => ?_⟩
  · rw [component?_related, component?_componentBody]
  · rw [entity?_related, filter_source_links hn hm] at he
    obtain ⟨bare, hbare, rfl⟩ := Option.map_eq_some_iff.1 he
    rw [entity?_componentBody hbare]
  · exact measures_componentBody hb

end Stems

section Parts

theorem mem_problems_of_diagnostics (hm : fact ∈ r.normalFacts) (hx : x ∈ fact.diagnostics) :
    x ∈ problems r := by
  obtain ⟨told, hd, htells⟩ := tells_sketch r
  have htold : x ∈ (sketch r).diagnostics := by
    rw [hd]
    exact List.mem_append_right _ (htells.diagnostics fact (r.arranged_perm.mem_iff.2 hm) hx)
  exact List.mem_append_left _ htold

/-- What is read with strict references has no problems. -/
theorem problems_eq_nil_of_build {policy : Policy} {c : Catalogue} (h : build policy m = .ok c)
    (hs : policy.strict = true) : problems (.ofModel policy.rules m) = [] := by
  rw [build_eq policy m, hs, Bool.true_and] at h
  split at h
  · cases h
  · next hp => simpa using hp

theorem issues_of_component? (h : fact.component? = some form) : fact.issues = form.issues := by
  obtain ⟨name, kind, other⟩ := fact
  cases other <;> cases h
  rfl

theorem mem_keys_relate (c : Catalogue) (links : List Link) :
    name ∈ (c.relate links .empty).keys ↔
      ∃ link ∈ links, c.isEntityLink link = true ∧ link.field = name := by
  unfold relate
  rw [Dict.mem_keys_foldl_insert]
  simp [Dict.empty, Dict.keys, and_assoc]

theorem mem_keys_measuresOf {fields : List FieldForm} : name ∈ (measuresOf fields).keys ↔
    ∃ field ∈ fields, field.measure.isSome = true ∧ field.name = name := by
  unfold measuresOf Dict.ofList
  rw [Dict.mem_keys_foldl_insert]
  simp only [List.mem_filterMap, Option.map_eq_some_iff, Option.isSome_iff_exists]
  constructor
  · rintro (⟨p, ⟨field, hm, measure, hmeasure, rfl⟩, rfl⟩ | hnone)
    · exact ⟨field, hm, ⟨measure, hmeasure⟩, rfl⟩
    · cases hnone
  · rintro ⟨field, hm, ⟨measure, hmeasure⟩, rfl⟩
    exact .inl ⟨_, ⟨field, hm, measure, hmeasure, rfl⟩, rfl⟩

/-- What a link leads from is a field with a type. -/
theorem field_of_mem_linksOf {link : Link} (hform : fact.component? = some form)
    (h : link ∈ Review.linksOf fact) : link.field ∈ form.typedNames := by
  obtain ⟨field, hm, hl⟩ := mem_linksOf.1 h
  rw [fields_of_component? hform] at hm
  obtain ⟨target, htarget, rfl⟩ := linkOf?_eq_some_iff.1 hl
  obtain ⟨shape, hs, -⟩ := Option.bind_eq_some_iff.1 htarget
  exact ComponentForm.mem_typedNames_iff.2 ⟨field, hm, by simp [hs], rfl⟩

end Parts

section Metadata

/-- The natural key of a type and its relationships belong to its fields. So do the measures of a
fact, but for those of declared fields that were dropped. Strictly read, no fact has such. -/
theorem metadata_of_build {policy : Policy} {c : Catalogue} (h : build policy m = .ok c)
    (ht : t ∈ c.types) (hc : t.body.component? = some component) :
    component.naturalKey.Sublist component.fieldNames ∧
    (∀ entity, t.body.entity? = some entity →
      ∀ name ∈ entity.relationships.keys, name ∈ component.fieldNames) ∧
    ∀ table, t.body.fact? = some table → ∀ name ∈ table.measures.keys,
      name ∈ component.fieldNames ∨
        policy.strict = false ∧ ⟨t.name, .droppedField name⟩ ∈ c.diagnostics := by
  have hcompleted := eq_completed_of_build h
  rw [hcompleted] at ht ⊢
  obtain ⟨fact, hm, form, hform, hstems⟩ := exists_stem ht hc
  obtain rfl := Option.some.inj (hc.symm.trans hstems.component?)
  rw [fieldNames_typed]
  refine ⟨form.presentKey_sublist, fun entity he name hname => ?_, fun table hb name hname => ?_⟩
  · rw [hstems.entity? entity he] at hname
    obtain ⟨link, hl, -, rfl⟩ := (mem_keys_relate _ _).1 hname
    exact field_of_mem_linksOf hform hl
  · rw [hstems.measures table hb] at hname
    obtain ⟨field, hfield, -, rfl⟩ := mem_keys_measuresOf.1 hname
    refine (form.mem_typedNames_or_dropped (List.mem_map_of_mem hfield)).imp_right fun hissue => ?_
    have hdiagnostic : ⟨t.name, .droppedField field.name⟩ ∈ fact.diagnostics := by
      rw [hstems.name, NormalFact.diagnostics, issues_of_component? hform]
      exact List.mem_map_of_mem hissue
    have hproblem := mem_problems_of_diagnostics hm hdiagnostic
    refine ⟨?_, List.mem_append_left _ hproblem⟩
    cases hs : policy.strict with
    | false => rfl
    | true =>
      rw [problems_eq_nil_of_build h hs] at hproblem
      cases hproblem

theorem metadata_of_sales :
    let field := fun name type more => Value.node "field" ([("name", .text name),
      ("type", .text type)] ++ more)
    let m : Model := [
      ⟨"dimension", [("name", .text "Customer"), ("natural_key", .text "name"),
        ("fields", .list [field "name" "string" []])]⟩,
      ⟨"fact", [("name", .text "Sale"), ("natural_key", .text "customer"), ("fields", .list [
        field "customer" "Customer" [], field "amount" "double" [("measure", .text "sum")]])]⟩]
    ∃ c, build ⟨.default, true, false⟩ m = .ok c ∧ ∃ t ∈ c.types, ∃ table,
      t.body.fact? = some table ∧ table.measures.keys = ["amount"] ∧
        table.entity.relationships.keys = ["customer"] ∧
        table.entity.component.naturalKey.Sublist table.entity.component.fieldNames ∧
        ∀ name ∈ ["amount", "customer"], name ∈ table.entity.component.fieldNames := by
  intro field m
  obtain ⟨c, hc⟩ : ∃ c : Catalogue, c = completed (.ofModel .default m) false := ⟨_, rfl⟩
  have hnone : problems (.ofModel .default m) = [] := by decide +kernel
  have hbuild : build ⟨.default, true, false⟩ m = .ok c := by
    rw [build_eq, hc, hnone]
    rfl
  obtain ⟨t, ht, hkeys⟩ : ∃ t ∈ c.types, (t.body.fact?.map fun table =>
      (table.measures.keys, table.entity.relationships.keys)) =
        some (["amount"], ["customer"]) := by
    rw [hc]
    decide +kernel
  obtain ⟨table, htable, hkeys⟩ := Option.map_eq_some_iff.1 hkeys
  obtain ⟨hmeasures, hrelationships⟩ := Prod.mk.inj hkeys
  have hbody : t.body = .fact table := by
    obtain ⟨name, body⟩ := t
    cases body <;> cases htable
    rfl
  have hentity : t.body.entity? = some table.entity := by rw [hbody]; rfl
  have hcomponent : t.body.component? = some table.entity.component := by rw [hbody]; rfl
  obtain ⟨hkey, hrelated, hmeasured⟩ := metadata_of_build hbuild ht hcomponent
  refine ⟨c, hbuild, t, ht, table, htable, hmeasures, hrelationships, hkey, ?_⟩
  simp only [List.forall_mem_cons, List.not_mem_nil, false_implies, implies_true, and_true]
  refine ⟨?_, hrelated _ hentity "customer" (by simp [hrelationships])⟩
  exact (hmeasured table htable "amount" (by simp [hmeasures])).resolve_right (by simp)

/-- A measure of a field without a type stays when the field is dropped. -/
theorem measure_of_dropped_field :
    let field := Value.node "field" [("name", .text "amount"), ("measure", .text "sum")]
    let m : Model := [⟨"fact", [("name", .text "Sale"), ("fields", .list [field])]⟩]
    ∃ c, build ⟨.permissive, false, false⟩ m = .ok c ∧
      ∃ t ∈ c.types, (t.body.fact?.map fun table =>
        (table.measures.keys, table.entity.component.fieldNames)) = some (["amount"], []) := by
  intro field m
  refine ⟨completed (.ofModel .permissive m) false, build_eq ⟨.permissive, false, false⟩ m, ?_⟩
  decide +kernel

end Metadata

end Catalogue

end Cardfile
