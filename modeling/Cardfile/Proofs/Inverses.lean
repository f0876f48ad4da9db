import Cardfile.Proofs.DeclarationOrder
import Mathlib.Data.String.Basic

/-! # Inverses

Two fields that name each other as inverses become one relationship, seen from its two ends. Which
end owns it follows from the shape of the fields, but for a link of one to one, where each end owns
it that says so.
-/

namespace Cardfile

/-- Two relationships that are one, seen from its two ends. -/
structure Relationship.Mirrors (r s : Relationship) : Prop where
  source : s.source = r.target
  target : s.target = r.source
  inverse : s.inverse = some r.field
  inverse' : r.inverse = some s.field
  bidirectional : r.bidirectional = true
  bidirectional' : s.bidirectional = true
  atSource : s.atSource = r.atTarget
  atTarget : s.atTarget = r.atSource

/-- Two ends that carry one name. One of them is the owner, but of many to many neither is. -/
structure Relationship.Agrees (r s : Relationship) : Prop where
  name : s.name = r.name
  owner : if r.isManyToMany then r.owner = false ∧ s.owner = false else s.owner = !r.owner

namespace Relationship

section Ends

/-- Of two different names one comes first. -/
theorem canonicalName_of_lt (source target : String) :
    canonicalName target source (target < source) =
      canonicalName source target (source < target) := by
  unfold canonicalName
  rcases lt_trichotomy source target with h | h | h
  · rw [decide_eq_true h, decide_eq_false h.not_gt]
    rfl
  · subst h
    rw [decide_eq_false (lt_irrefl _)]
  · rw [decide_eq_true h, decide_eq_false h.not_gt]
    rfl

variable (source field target field' : String) (atSource atTarget : Cardinality)
  (owner owner' : Bool)

/-- The ends of a link, each with what it says of the owner. -/
theorem infer_mirrors :
    (infer source field target (some field') atSource atTarget owner).Mirrors
      (infer target field' source (some field) atTarget atSource owner') :=
  ⟨rfl, rfl, rfl, rfl, rfl, rfl, rfl, rfl⟩

/-- The ends agree unless a link of one to one is owned by both or by neither. -/
theorem infer_agrees (h : atSource = .one → atTarget = .one → owner' = !owner) :
    (infer source field target (some field') atSource atTarget owner).Agrees
      (infer target field' source (some field) atTarget atSource owner') := by
  cases atSource <;> cases atTarget
  · rw [h rfl rfl]
    refine ⟨?_, rfl⟩
    cases owner <;> rfl
  · exact ⟨rfl, rfl⟩
  · exact ⟨rfl, rfl⟩
  · exact ⟨canonicalName_of_lt source target, rfl, rfl⟩

end Ends

end Relationship

/-- A field of a declaration that leads to a target and names the field that leads back. -/
structure Review.Declares (r : Review) (source : String) (field : FieldForm)
    (target inverse : String) : Prop where
  declared : ∃ fact ∈ r.normalFacts, fact.name = source ∧ field ∈ fact.fields
  target : field.shape.bind Shape.target? = some target
  inverse : field.inverse = some inverse

/-- The link of a field that leads to a target. -/
def FieldForm.linkTo (field : FieldForm) (source target : String) : Link :=
  ⟨source, field.name, target, (field.shape.map Shape.isCollection).getD false, field.inverse,
    field.owner⟩

/-- Nothing but collections of the same type has the name of the collection type of a field. -/
def Review.Clear (r : Review) (field : FieldForm) : Prop :=
  ∀ shape ∈ field.shape, shape.fieldKind = .collection →
    (∀ fact ∈ r.normalFacts, fact.name ≠ shape.typeName) ∧
      ∀ other ∈ (r.normalFacts.flatMap NormalFact.fields).filterMap FieldForm.shape,
        other.fieldKind = .collection → other.typeName = shape.typeName →
          other.target? = shape.target?

instance (r : Review) (field : FieldForm) : Decidable (r.Clear field) :=
  inferInstanceAs (Decidable (∀ shape ∈ field.shape, shape.fieldKind = .collection →
    (∀ fact ∈ r.normalFacts, fact.name ≠ shape.typeName) ∧
      ∀ other ∈ (r.normalFacts.flatMap NormalFact.fields).filterMap FieldForm.shape,
        other.fieldKind = .collection → other.typeName = shape.typeName →
          other.target? = shape.target?))

variable {c : Catalogue} {r : Review} {facts : List NormalFact} {fact : NormalFact}
  {field : FieldForm} {form : ComponentForm} {shape : Shape} {t : NamedType} {link : Link}
  {links : List Link} {source target inverse : String}

section Declarations

/-- Of declarations with one name only the first counts. -/
theorem Review.nodup_ofFacts (rules : RuleBase) (seen : List String) (facts : List Fact) :
    ((ofFacts rules seen facts).normalFacts.map NormalFact.name).Nodup := by
  induction facts generalizing seen with
  | nil => exact List.nodup_nil
  | cons fact rest ih =>
    obtain ⟨outcome, seen', he, -, hok, hnew⟩ := ofFacts_cons rules seen fact rest
    rw [he]
    cases outcome with
    | error flaw => exact ih seen'
    | ok normal =>
      refine List.nodup_cons.2 ⟨fun hm => ?_, ih seen'⟩
      obtain ⟨other, ho, hname⟩ := List.mem_map.1 hm
      obtain ⟨reviewed, hreviewed, hother⟩ := exists_reviewed ho
      have hfree := (outcomeOf_of_mem hreviewed hother).2
      rw [hname] at hfree
      exact hfree (hok normal (hnew normal rfl).1)

/-- The natural key that a review tells of a name is the one that the type of the name is made
with. -/
theorem Review.naturalKey_of_mem (hn : (r.normalFacts.map NormalFact.name).Nodup)
    (hm : fact ∈ r.normalFacts) (h : fact.component? = some form) :
    r.naturalKey fact.name = form.naturalKey := by
  obtain ⟨other, hother⟩ : ∃ other, r.normal? fact.name = some other := by
    refine Option.ne_none_iff_exists'.1 fun hnone => ?_
    exact absurd (List.find?_eq_none.1 hnone fact hm) (by simp)
  have hname : other.name = fact.name := by simpa using List.find?_some hother
  obtain rfl : other = fact :=
    List.inj_on_of_nodup_map hn (List.mem_of_find?_eq_some hother) hm hname
  rw [Review.naturalKey, Review.component?, hother, Option.bind_some, h]
  rfl

theorem fields_of_component? (h : fact.component? = some form) : fact.fields = form.fields := by
  rw [NormalFact.fields, h]
  rfl

/-- With names of their own, fields are found by their names. -/
theorem field?_typed (hn : (form.fields.map FieldForm.name).Nodup) (hm : field ∈ form.fields)
    (hs : field.shape = some shape) (ref : String → TypeRef) :
    (form.typed ref).field? field.name =
      some ⟨field.name, shape.fieldKind, ref shape.typeName, field.otherName⟩ := by
  unfold ComponentType.field? ComponentForm.typed
  dsimp only
  generalize form.fields = fields at hn hm
  induction fields with
  | nil => cases hm
  | cons first rest ih =>
    rw [List.map_cons, List.nodup_cons] at hn
    rcases List.mem_cons.1 hm with rfl | hm
    · rw [List.filterMap_cons_some (FieldForm.typed_of_some hs ref)]
      exact List.find?_cons_of_pos (by simp)
    · have hne : first.name ≠ field.name := fun he =>
        hn.1 (he ▸ List.mem_map_of_mem hm)
      cases hf : first.shape with
      | none =>
        have htyped : first.typed ref = none := by rw [FieldForm.typed, hf]; rfl
        rw [List.filterMap_cons_none htyped]
        exact ih hn.2 hm
      | some shape' =>
        rw [List.filterMap_cons_some (FieldForm.typed_of_some hf ref),
          List.find?_cons_of_neg (by simpa using hne)]
        exact ih hn.2 hm

theorem linkOf?_eq_some_iff : Review.linkOf? source field = some link ↔
    ∃ target, field.shape.bind Shape.target? = some target ∧
      link = field.linkTo source target := by
  unfold Review.linkOf? FieldForm.linkTo
  cases field.shape with
  | none => simp
  | some shape => cases ht : shape.target? <;> simp [ht, eq_comm]

theorem linksOf_eq (fact : NormalFact) :
    Review.linksOf fact = fact.fields.filterMap (Review.linkOf? fact.name) := by
  unfold Review.linksOf NormalFact.fields
  cases fact.component? <;> rfl

theorem mem_linksOf : link ∈ Review.linksOf fact ↔
    ∃ field ∈ fact.fields, Review.linkOf? fact.name field = some link := by
  rw [linksOf_eq, List.mem_filterMap]

theorem Review.Declares.exists_shape (h : r.Declares source field target inverse) :
    ∃ shape, field.shape = some shape ∧ shape.target? = some target :=
  Option.bind_eq_some_iff.1 h.target

theorem Review.Declares.linkOf? (h : r.Declares source field target inverse) :
    Review.linkOf? source field = some (field.linkTo source target) :=
  linkOf?_eq_some_iff.2 ⟨target, h.target, rfl⟩

theorem Review.Declares.mem_links (h : r.Declares source field target inverse) :
    field.linkTo source target ∈ r.links := by
  obtain ⟨fact, hm, rfl, hf⟩ := h.declared
  exact List.mem_flatMap.2 ⟨fact, hm, mem_linksOf.2 ⟨field, hf, h.linkOf?⟩⟩

/-- With names of their own, declarations have one link for each of their fields. -/
theorem Review.Declares.link_unique (h : r.Declares source field target inverse)
    (hn : (r.normalFacts.map NormalFact.name).Nodup)
    (hu : ∀ fact ∈ r.normalFacts, (fact.fields.map FieldForm.name).Nodup)
    (hl : link ∈ r.links) (hs : link.source = source) (hf : link.field = field.name) :
    link = field.linkTo source target := by
  obtain ⟨fact, hm, hname, hfield⟩ := h.declared
  obtain ⟨fact', hm', hlink⟩ := List.mem_flatMap.1 hl
  have hname' : fact'.name = fact.name := by rw [← source_of_mem_linksOf hlink, hs, hname]
  obtain rfl := List.inj_on_of_nodup_map hn hm' hm hname'
  obtain ⟨field', hfield', hlink'⟩ := mem_linksOf.1 hlink
  have hfields : field'.name = field.name := by
    obtain ⟨target', -, rfl⟩ := linkOf?_eq_some_iff.1 hlink'
    exact hf
  obtain rfl := List.inj_on_of_nodup_map (hu fact' hm') hfield' hfield hfields
  rw [hname, h.linkOf?] at hlink'
  exact (Option.some.inj hlink').symm

end Declarations

namespace Catalogue

section Leading

/-- An entity has the fields of the declaration of its name. -/
theorem Finished.component?_of_isEntity (h : c.FinishedFrom facts)
    (hn : (facts.map NormalFact.name).Nodup) (hm : fact ∈ facts)
    (ht : c.type? fact.name = some t) (he : t.body.isEntity = true) :
    ∃ form, fact.component? = some form ∧ t.body.component? = some (form.typed c.final) := by
  obtain ⟨id, -, hplace, hname⟩ := h.name_of_isEntity ht he
  obtain ⟨component, hc⟩ : ∃ component, t.body.component? = some component := by
    obtain ⟨name, body⟩ := t
    cases body <;> first | exact ⟨_, rfl⟩ | cases he
  obtain ⟨fact', hm', form, hname', hform, rfl⟩ := h.component (List.mem_of_getElem? hplace) hc
  obtain rfl := List.inj_on_of_nodup_map hn hm' hm (hname'.trans hname)
  exact ⟨form, hform, hc⟩

theorem resolve?_final (h : c.type? source = some t) : c.resolve? (c.final source) = some t := by
  obtain ⟨id, hid, hplace⟩ := Option.bind_eq_some_iff.1 h
  rw [final, hid]
  exact hplace

/-- The type of a collection field has the name of the collection. It is one that a declaration with
this name drafts, or a collection that is spelled alike. -/
theorem Finished.type_of_collection {fields : List FieldForm} {kind : CollectionKind}
    {element : String} {key : Option String} (h : c.Finished fields facts) (hm : fact ∈ facts)
    (hf : field ∈ fact.fields) (hs : field.shape = some (.collection kind element key)) :
    ∃ u, c.resolve? (c.final (Shape.collection kind element key).typeName) = some u ∧
      u.name = (Shape.collection kind element key).typeName ∧
      ((∃ other ∈ facts, other.name = u.name) ∨
        ∃ other ∈ fields, ∃ kind' element' key',
          other.shape = some (.collection kind' element' key') ∧
            (Shape.collection kind' element' key').typeName = u.name ∧
              u.body = .collection ⟨kind', c.final element', key'.map c.final⟩) := by
  obtain ⟨id, hid⟩ := h.collections fact hm field hf _ hs rfl
  obtain ⟨u, hplace, hname⟩ := h.stands hid
  have hstandard : Host.standard (Shape.collection kind element key).typeName =
      (Shape.collection kind element key).typeName := standard_typeName _ _ _
  rw [hstandard] at hname
  refine ⟨u, ?_, hname, ?_⟩
  · rw [final, hid]
    exact hplace
  · obtain ⟨draft, ho, hb⟩ := h.origin u (List.mem_of_getElem? hplace)
    rw [hb]
    generalize hu : u.name = name at ho hname ⊢
    cases ho with
    | basic host => exact absurd (hname ▸ host.plain_name) (not_plain_typeName _ _ _)
    | declared hdeclared => exact .inl ⟨_, hdeclared, rfl⟩
    | @collection other kind' element' key' hother hshape =>
      exact .inr ⟨other, hother, kind', element', key', hshape, rfl, rfl⟩

/-- The type of a collection of entities holds them, if nothing else has its name. -/
theorem Finished.element?_of_clear (h : c.FinishedFrom r.normalFacts) (hm : fact ∈ r.normalFacts)
    (hf : field ∈ fact.fields) (hs : field.shape = some shape)
    (hk : shape.fieldKind = .collection) (hclear : r.Clear field)
    (ht : shape.target? = some target) :
    (c.resolve? (c.final shape.typeName)).bind (·.body.element?) = some (c.final target) := by
  obtain ⟨hfree, hsame⟩ := hclear shape hs hk
  cases shape with
  | collection kind element key =>
    obtain ⟨u, hu, hname, hsource⟩ := h.type_of_collection hm hf hs
    rw [hu, Option.bind_some]
    rw [hname] at hsource
    rcases hsource with ⟨other, hother, he⟩ | ⟨other, hother, kind', element', key', hs', he, hb⟩
    · exact absurd he (hfree other hother)
    · have htarget := hsame _ (List.mem_filterMap.2 ⟨other, hother, hs'⟩) rfl he
      rw [ht] at htarget
      cases htarget
      rw [hb]
      rfl
  | _ => cases hk

/-- A field leads to the entity that its declaration names. -/
theorem Finished.leadsTo_of_clear (h : c.FinishedFrom r.normalFacts) (hm : fact ∈ r.normalFacts)
    (hf : field ∈ fact.fields) (hs : field.shape = some shape) (hclear : r.Clear field)
    (ht : shape.target? = some target) (hc : c.type? target = some t)
    (he : t.body.isEntity = true) :
    c.leadsTo ⟨field.name, shape.fieldKind, c.final shape.typeName, field.otherName⟩ target =
      true := by
  obtain ⟨-, -, -, hname⟩ := h.name_of_isEntity hc he
  have hleading : c.leading?
      ⟨field.name, shape.fieldKind, c.final shape.typeName, field.otherName⟩ =
        some (c.final target) := by
    cases shape with
    | simple host => cases ht
    | reference name =>
      cases ht
      rfl
    | collection kind element key =>
      exact h.element?_of_clear hm hf hs rfl hclear ht
  rw [leadsTo_eq, hleading, Option.bind_some, resolve?_final hc, Option.bind_some, hname]
  exact beq_self_eq_true _

end Leading

section Relating

theorem entity?_related (c : Catalogue) (links : List Link) (t : NamedType) :
    (c.related links t).body.entity? = t.body.entity?.map fun e =>
      { e with relationships := c.relate (links.filter (·.source = t.name)) e.relationships } := by
  obtain ⟨name, body⟩ := t
  cases body <;> rfl

/-- The relationship of a field is that of its only link. -/
theorem get?_relate (hl : c.isEntityLink link = true) (hm : link ∈ links)
    (hu : ∀ other ∈ links, other.field = link.field → other = link)
    (rs : Dict String Relationship) :
    (c.relate links rs).get? link.field = some (c.relationOf link) := by
  have hall : ∀ links : List Link, (∀ other ∈ links, other.field = link.field → other = link) →
      ∀ rs : Dict String Relationship,
        (link ∈ links ∨ rs.get? link.field = some (c.relationOf link)) →
        (links.foldl (fun rs link => rs.insert link.field (c.relationOf link)) rs).get? link.field =
          some (c.relationOf link) := by
    intro links hu
    induction links with
    | nil => exact fun rs h => h.resolve_left List.not_mem_nil
    | cons first rest ih =>
      intro rs h
      obtain ⟨hfirst, hrest⟩ := List.forall_mem_cons.1 hu
      refine ih hrest _ ?_
      rw [Dict.get?_insert]
      split
      · next he => exact .inr (by rw [hfirst he])
      · next hne =>
        refine h.imp_left fun hm => (List.mem_cons.1 hm).resolve_left ?_
        rintro rfl
        exact hne rfl
  refine hall _ (fun other ho => hu other (List.mem_filter.1 ho).1) rs (.inl ?_)
  exact List.mem_filter.2 ⟨hm, hl⟩

variable {field' : FieldForm} {failOnOpen : Bool} {a b : EntityType}

theorem exists_type?_of_entity? (h : (completed r failOnOpen).entity? source = some a) :
    ∃ t e, (resolved r).type? source = some t ∧ t.body.entity? = some e ∧
      a.relationships =
        (resolved r).relate (r.links.filter (·.source = t.name)) e.relationships := by
  obtain ⟨u, hu, he⟩ := Option.bind_eq_some_iff.1 h
  rw [type?_completed] at hu
  obtain ⟨t, ht, rfl⟩ := Option.map_eq_some_iff.1 hu
  rw [entity?_related] at he
  obtain ⟨e, hentity, rfl⟩ := Option.map_eq_some_iff.1 he
  exact ⟨t, e, ht, hentity, rfl⟩

theorem isEntity_of_entity? {e : EntityType} (h : t.body.entity? = some e) :
    t.body.isEntity = true := by
  rw [TypeBody.isEntity, h]
  rfl

/-- A declared inverse that leads back counts. -/
theorem inverseOf_of_declares (hn : (r.normalFacts.map NormalFact.name).Nodup)
    (hu : ∀ fact ∈ r.normalFacts, (fact.fields.map FieldForm.name).Nodup)
    (hd : r.Declares source field target field'.name)
    (hd' : r.Declares target field' source field.name) (hclear : r.Clear field')
    {s : NamedType} (hs : (resolved r).type? source = some s) (hse : s.body.isEntity = true)
    (ht : (resolved r).type? target = some t) (hte : t.body.isEntity = true) :
    (resolved r).inverseOf (field.linkTo source target) =
      some (.ok (field'.name, cardinality (field'.linkTo target source).collection)) := by
  have hfinished := finished_resolved r
  obtain ⟨fact, hm, rfl, hf⟩ := hd'.declared
  obtain ⟨shape, hshape, htarget⟩ := hd'.exists_shape
  obtain ⟨form, hform, hcomponent⟩ := hfinished.component?_of_isEntity hn hm ht hte
  have hfields := fields_of_component? hform
  have hfield := field?_typed (hfields ▸ hu fact hm) (hfields ▸ hf) hshape (resolved r).final
  have hleads := hfinished.leadsTo_of_clear hm hf hshape hclear htarget hs hse
  have hfound : ((resolved r).component? fact.name).bind (·.field? field'.name) =
      some ⟨field'.name, shape.fieldKind, (resolved r).final shape.typeName, field'.otherName⟩ := by
    unfold Catalogue.component?
    rw [ht, Option.bind_some, hcomponent, Option.bind_some, hfield]
  have hkind : decide (shape.fieldKind = .collection) =
      (field'.linkTo fact.name source).collection := by
    unfold FieldForm.linkTo
    rw [hshape]
    cases shape <;> rfl
  unfold inverseOf FieldForm.linkTo
  dsimp only
  rw [hd.inverse, Option.map_some, hfound]
  dsimp only
  rw [hleads, if_pos rfl, hkind]
  rfl

/-- The relationship of a field with an inverse that leads back. -/
theorem get?_relationships (hn : (r.normalFacts.map NormalFact.name).Nodup)
    (hu : ∀ fact ∈ r.normalFacts, (fact.fields.map FieldForm.name).Nodup)
    (hd : r.Declares source field target field'.name)
    (hd' : r.Declares target field' source field.name) (hclear : r.Clear field')
    (ha : (completed r failOnOpen).entity? source = some a)
    (hb : (completed r failOnOpen).entity? target = some b) :
    a.relationships.get? field.name =
      some (.infer source field.name target (some field'.name)
        (cardinality (field'.linkTo target source).collection)
        (cardinality (field.linkTo source target).collection) field.owner) := by
  obtain ⟨s, e, hs, hse, hrelationships⟩ := exists_type?_of_entity? ha
  obtain ⟨t, e', ht, hte, -⟩ := exists_type?_of_entity? hb
  have hse := isEntity_of_entity? hse
  have hte := isEntity_of_entity? hte
  have hinverse := inverseOf_of_declares hn hu hd hd' hclear hs hse ht hte
  obtain ⟨-, -, -, hname⟩ := (finished_resolved r).name_of_isEntity hs hse
  have hlink : (resolved r).isEntityLink (field.linkTo source target) = true := by
    have hends : ((resolved r).entityType? source).isSome = true ∧
        ((resolved r).entityType? target).isSome = true := by
      rw [isSome_entityType?, isSome_entityType?, hs, ht, Option.bind_some, Option.bind_some, hse,
        hte]
      exact ⟨rfl, rfl⟩
    exact Bool.and_eq_true_iff.2 hends
  have hmem : field.linkTo source target ∈ r.links.filter (·.source = s.name) :=
    List.mem_filter.2 ⟨hd.mem_links, decide_eq_true hname.symm⟩
  have hget := get?_relate hlink hmem (fun other ho hf => by
    obtain ⟨hl, hsource⟩ := List.mem_filter.1 ho
    exact hd.link_unique hn hu hl ((of_decide_eq_true hsource).trans hname) hf) e.relationships
  rw [hrelationships]
  refine hget.trans (congrArg some ?_)
  unfold relationOf
  rw [hinverse]
  rfl

/-- Two fields that name each other as inverses come out as the two ends of one relationship. Where
both lead to one, each end is an owner that says so, and the ends agree if just one says so. In all
other cases they agree whatever they say. -/
theorem relationships_mirror {policy : Policy} {m : Model} (h : build policy m = .ok c)
    (hu : ∀ fact ∈ (Review.ofModel policy.rules m).normalFacts,
      (fact.fields.map FieldForm.name).Nodup)
    (hf : (Review.ofModel policy.rules m).Declares source field target field'.name)
    (hg : (Review.ofModel policy.rules m).Declares target field' source field.name)
    (hcf : (Review.ofModel policy.rules m).Clear field)
    (hcg : (Review.ofModel policy.rules m).Clear field')
    (ha : c.entity? source = some a) (hb : c.entity? target = some b) :
    ∃ r s, a.relationships.get? field.name = some r ∧ b.relationships.get? field'.name = some s ∧
      r.Mirrors s ∧
      (r.atSource = .one → r.atTarget = .one → r.owner = field.owner ∧ s.owner = field'.owner) ∧
      ((r.atSource = .one → r.atTarget = .one → field'.owner = !field.owner) → r.Agrees s) := by
  have hc := eq_completed_of_build h
  have hn := Review.nodup_ofFacts policy.rules [] m.facts
  rw [hc] at ha hb
  refine ⟨_, _, get?_relationships hn hu hf hg hcg ha hb, get?_relationships hn hu hg hf hcf hb ha,
    Relationship.infer_mirrors .., fun hs ht => ?_,
    fun howner => Relationship.infer_agrees _ _ _ _ _ _ _ _ howner⟩
  have hs : cardinality (field'.linkTo target source).collection = .one := hs
  have ht : cardinality (field.linkTo source target).collection = .one := ht
  rw [hs, ht]
  exact ⟨rfl, rfl⟩

theorem relationships_mirror_of_orders :
    let customer : FieldForm := ⟨"customer", some (.reference "Customer"), none, some "orders",
      false, none⟩
    let orders : FieldForm := ⟨"orders", some (.collection .set "Order" none), none,
      some "customer", true, none⟩
    let one := Value.node "field" [("name", .text "customer"), ("type", .text "Customer"),
      ("inverse", .text "orders")]
    let many := Value.node "field" [("name", .text "orders"), ("type", .text "Order"),
      ("collection", .text "set"), ("inverse", .text "customer"), ("owner", .bool true)]
    let m : Model := [
      ⟨"entity", [("name", .text "Order"), ("fields", .list [one])]⟩,
      ⟨"entity", [("name", .text "Customer"), ("fields", .list [many])]⟩]
    let review := Review.ofModel .default m
    review.Declares "Order" customer "Customer" orders.name ∧
      review.Declares "Customer" orders "Order" customer.name ∧
      review.Clear customer ∧ review.Clear orders ∧
      ∃ c a b, build ⟨.default, false, false⟩ m = .ok c ∧ c.entity? "Order" = some a ∧
        c.entity? "Customer" = some b ∧
        ∃ r s, a.relationships.get? "customer" = some r ∧
          b.relationships.get? "orders" = some s ∧ r.Mirrors s ∧ r.Agrees s := by
  intro customer orders one many m review
  have hcustomer : review.Declares "Order" customer "Customer" orders.name :=
    ⟨by decide +kernel, rfl, rfl⟩
  have horders : review.Declares "Customer" orders "Order" customer.name :=
    ⟨by decide +kernel, rfl, rfl⟩
  have hclear : review.Clear customer := by decide +kernel
  have hclear' : review.Clear orders := by decide +kernel
  have hunique : ∀ fact ∈ review.normalFacts, (fact.fields.map FieldForm.name).Nodup := by
    decide +kernel
  obtain ⟨c, hc⟩ : ∃ c : Catalogue,
      c = { (ofReview review).inferAll review.links with failOnOpen := false } := ⟨_, rfl⟩
  have hbuild : build ⟨.default, false, false⟩ m = .ok c := by rw [hc]; rfl
  obtain ⟨a, ha⟩ : ∃ a, c.entity? "Order" = some a :=
    Option.isSome_iff_exists.1 (by rw [hc]; decide +kernel)
  obtain ⟨b, hb⟩ : ∃ b, c.entity? "Customer" = some b :=
    Option.isSome_iff_exists.1 (by rw [hc]; decide +kernel)
  obtain ⟨r, s, hr, hs, hmirrors, -, hagrees⟩ :=
    relationships_mirror hbuild hunique hcustomer horders hclear hclear' ha hb
  exact ⟨hcustomer, horders, hclear, hclear', c, a, b, hbuild, ha, hb, r, s, hr, hs, hmirrors,
    hagrees fun _ _ => rfl⟩

/-- The ends of a link of one to one that no field owns have different names and no owner. And a
field that leads back through a collection does not, if an entity has the name of its type. -/
theorem relationships_apart :
    let field := fun name type inverse => Value.node "field" [("name", .text name),
      ("type", .text type), ("inverse", .text inverse)]
    let entity := fun name value => Declaration.mk "entity" [("name", .text name),
      ("fields", .list [value])]
    let many := Value.node "field" [("name", .text "as"), ("type", .text "A"),
      ("collection", .text "set"), ("inverse", .text "b")]
    (∃ c, build ⟨.default, true, false⟩ [entity "A" (field "b" "B" "a"),
        entity "B" (field "a" "A" "b")] = .ok c ∧
      ((c.relationships? "A").bind (·.get? "b")).map (fun r => (r.owner, r.name)) =
        some (false, "b_a") ∧
      ((c.relationships? "B").bind (·.get? "a")).map (fun r => (r.owner, r.name)) =
        some (false, "a_b")) ∧
    ∃ c, build ⟨.default, true, false⟩ [⟨"entity", [("name", .text "set<A>")]⟩,
        entity "A" (field "b" "B" "as"), entity "B" many] = .ok c ∧
      ((c.relationships? "A").bind (·.get? "b")).map Relationship.bidirectional = some false ∧
      ((c.relationships? "B").bind (·.get? "as")).map Relationship.bidirectional = some true := by
  intro field entity many
  have hbuild : ∀ m, (ofReview (.ofModel .default m)).diagnostics = [] →
      build ⟨.default, true, false⟩ m =
        .ok { (ofReview (.ofModel .default m)).inferAll (Review.ofModel .default m).links with
          failOnOpen := false } := by
    intro m hnone
    unfold build
    dsimp only
    rw [hnone]
    rfl
  refine ⟨⟨_, hbuild _ ?_, ?_, ?_⟩, _, hbuild _ ?_, ?_, ?_⟩
  all_goals decide +kernel

end Relating

end Catalogue

end Cardfile
