import Cardfile.Proofs.Accounting
import Cardfile.Proofs.Metadata

/-! # Links between entities

A field of an entity that names another entity for its target becomes a relationship, and no other
field does. The shape of the relationship is read off the two fields at its ends, the one that is
declared and the one in the catalogue that is named as its inverse. Inverses that do not lead back
are told, each once.
-/

namespace Cardfile

/-- The decision table for the owner of a relationship and for the side that comes first. -/
structure Relationship.FollowsTable (r : Relationship) (declaredOwner : Bool) : Prop where
  unidirectional : r.bidirectional = false → r.owner = true ∧ r.goesFirst = true
  oneToOne : r.bidirectional = true → r.atSource = .one → r.atTarget = .one →
    r.owner = declaredOwner ∧ r.goesFirst = declaredOwner
  oneToMany : r.bidirectional = true → r.atSource = .one → r.atTarget = .many →
    r.owner = false ∧ r.goesFirst = true
  manyToOne : r.bidirectional = true → r.atSource = .many → r.atTarget = .one →
    r.owner = true ∧ r.goesFirst = false
  manyToMany : r.bidirectional = true → r.atSource = .many → r.atTarget = .many →
    r.owner = false ∧ r.goesFirst = decide (r.source < r.target)
  name : r.name = canonicalName r.source r.target r.goesFirst

def FieldForm.isCollection (field : FieldForm) : Bool :=
  (field.shape.map Shape.isCollection).getD false

/-- The field of a type that is named as the inverse of a field. -/
def FieldForm.inverseIn? (field : FieldForm) (t : NamedType) : Option Field :=
  field.inverse.bind fun name => t.body.component?.bind (·.field? name)

/-- The fields of all declarations, each with the name of its declaration. -/
def Review.sides (r : Review) : List (String × FieldForm) :=
  r.normalFacts.flatMap fun fact => fact.fields.map (fact.name, ·)

namespace Catalogue

/-- A field that is declared for one entity and names another one for its target. -/
structure Joins (c : Catalogue) (r : Review) (s : NamedType) (field : FieldForm) (t : NamedType) :
    Prop where
  source : s ∈ c.types
  fromEntity : s.body.isEntity = true
  declared : ∃ fact ∈ r.normalFacts, fact.name = s.name ∧ field ∈ fact.fields
  names : field.shape.bind Shape.target? = some t.name
  target : t ∈ c.types
  toEntity : t.body.isEntity = true

/-- A field that refers to a type or holds a collection of it. -/
def Leads (c : Catalogue) (g : Field) (s : NamedType) : Prop :=
  g.kind = .reference ∧ c.resolve? g.type = some s ∨
    g.kind = .collection ∧ ∃ u held, c.resolve? g.type = some u ∧ u.body = .collection held ∧
      c.resolve? held.element = some s

def LeadsBack (c : Catalogue) (s : NamedType) (field : FieldForm) (t : NamedType) : Prop :=
  ∃ g, field.inverseIn? t = some g ∧ c.Leads g s

/-- The relationship that a field of one entity has to be to another one. -/
structure RelatedBy (c : Catalogue) (s : NamedType) (field : FieldForm) (t : NamedType)
    (rel : Relationship) : Prop where
  ends : rel.source = s.name ∧ rel.field = field.name ∧ rel.target = t.name
  toMany : rel.atTarget = .many ↔ field.isCollection = true
  bidirectional : rel.bidirectional = true ↔ c.LeadsBack s field t
  inverse : rel.inverse = if rel.bidirectional then field.inverse else none
  fromMany : rel.atSource = .many ↔
    if rel.bidirectional then ∃ g, field.inverseIn? t = some g ∧ g.kind = .collection
    else field.isCollection = false
  table : rel.FollowsTable field.owner

/-- What is wrong with a declared inverse that does not lead back. -/
def Unanswered (c : Catalogue) (r : Review) (source : String) (field : FieldForm) (issue : Issue) :
    Prop :=
  ∃ s t name, s.name = source ∧ c.Joins r s field t ∧ field.inverse = some name ∧
    ¬ c.LeadsBack s field t ∧
    issue = if (field.inverseIn? t).isSome then .inverseElsewhere name t.name s.name
      else .inverseMissing name t.name

/-- One relationship for each field that joins an entity to another one, and no others. -/
def Covers (c : Catalogue) (r : Review) (s : NamedType) (relationships : Dict String Relationship) :
    Prop :=
  ∃ fields : List FieldForm, fields.Nodup ∧
    (∀ field, field ∈ fields ↔ ∃ t, c.Joins r s field t) ∧
    List.Forall₂ (fun field entry => entry.1 = field.name ∧
      ∃ t, c.Joins r s field t ∧ c.RelatedBy s field t entry.2) fields relationships.entries

/-- One diagnostic for each field with an inverse that does not lead back, and no others. -/
def Reports (c : Catalogue) (r : Review) (told : List Diagnostic) : Prop :=
  ∃ sides : List (String × FieldForm), sides.Nodup ∧
    (∀ side, side ∈ sides ↔ ∃ issue, c.Unanswered r side.1 side.2 issue) ∧
    List.Forall₂ (fun side d => d.subject = side.1 ++ "." ++ side.2.name ∧
      c.Unanswered r side.1 side.2 d.issue) sides told

end Catalogue

variable {c : Catalogue} {r : Review} {s t : NamedType} {field : FieldForm} {g : Field}
  {fact : NormalFact} {rules : RuleBase} {m : Model} {link : Link} {name source : String}

section Rules

theorem Rule.nodup_of_firstRepeated? {seen names : List String}
    (h : firstRepeated? seen names = none) : names.Nodup ∧ ∀ name ∈ names, name ∉ seen := by
  -- the names seen so far grow along the list, and what comes later avoids all of them
  induction names generalizing seen with
  | nil => simp
  | cons first rest ih =>
    unfold firstRepeated? at h
    split at h
    · cases h
    · next hfirst =>
      obtain ⟨hrest, hnew⟩ := ih h
      refine ⟨List.nodup_cons.2 ⟨fun hm => hnew first hm List.mem_cons_self, hrest⟩, ?_⟩
      rintro name (_ | ⟨_, hm⟩)
      · simpa using hfirst
      · exact fun hs => hnew name hm (List.mem_cons_of_mem _ hs)

theorem forM_ok {ε α : Type} {f : α → Except ε Unit} {l : List α} (h : l.forM f = .ok ()) :
    ∀ a ∈ l, f a = .ok () := by
  induction l with
  | nil => simp
  | cons a l ih =>
    have h : (f a >>= fun _ => l.forM f) = .ok () := h
    obtain ⟨⟨⟩, ha, hl⟩ := bind_ok h
    exact List.forall_mem_cons.2 ⟨ha, ih hl⟩

theorem Review.check_of_mem (hm : fact ∈ (ofModel rules m).normalFacts) :
    rules.check fact = .ok () := by
  obtain ⟨declared, -, ho⟩ := exists_outcomeOf hm
  obtain ⟨normal, -, ho⟩ := bind_ok ho
  obtain ⟨⟨⟩, hcheck, ho⟩ := bind_ok ho
  cases ho
  exact hcheck

/-- Under the rule for field names the fields of a declaration have names of their own. -/
theorem Review.nodup_fieldNames
    (hu : ∀ kind ∈ Kind.componentFamily, Rule.fieldNamesUnique ∈ rules.rulesFor kind)
    (hm : fact ∈ (ofModel rules m).normalFacts) : (fact.fields.map FieldForm.name).Nodup := by
  have hfits := fits_of_mem hm
  have hcheck := check_of_mem hm
  obtain ⟨name, kind, form⟩ := fact
  cases form with
  | component form =>
    have hkind : kind ∈ Kind.componentFamily := by simpa [Form.fits, Kind.isComponent] using hfits
    have hnames : Rule.checkNames form = .ok () := forM_ok hcheck _ (hu kind hkind)
    unfold Rule.checkNames at hnames
    split at hnames
    · cases hnames
    · next hnone => exact (Rule.nodup_of_firstRepeated? hnone).1
  | _ => exact .nil

end Rules

section Shapes

theorem Relationship.followsTable_infer (source field target : String) (inverse : Option String)
    (atSource atTarget : Cardinality) (owner : Bool) :
    (infer source field target inverse atSource atTarget owner).FollowsTable owner := by
  constructor <;> cases inverse <;> cases atSource <;> cases atTarget <;> simp [infer, ownership]

theorem Catalogue.cardinality_eq_many {b : Bool} : cardinality b = .many ↔ b = true := by
  cases b <;> simp [cardinality]

end Shapes

section Sides

theorem Review.nodup_sides (hn : (r.normalFacts.map NormalFact.name).Nodup)
    (hu : ∀ fact ∈ r.normalFacts, (fact.fields.map FieldForm.name).Nodup) : r.sides.Nodup := by
  refine List.nodup_flatMap.2 ⟨fun fact hm => ?_, ?_⟩
  · exact (hu fact hm).of_map.map fun _ _ he => (Prod.mk.inj he).2
  · -- a side that two declarations share would give them one name
    refine (List.pairwise_map.1 hn).imp fun hne side hside hside' => hne ?_
    obtain ⟨_, -, rfl⟩ := List.mem_map.1 hside
    obtain ⟨_, -, he⟩ := List.mem_map.1 hside'
    exact (Prod.mk.inj he).1.symm

theorem Review.mem_sides {side : String × FieldForm} : side ∈ r.sides ↔
    ∃ fact ∈ r.normalFacts, fact.name = side.1 ∧ side.2 ∈ fact.fields := by
  obtain ⟨source, field⟩ := side
  simp only [Review.sides, List.mem_flatMap, List.mem_map, Prod.mk.injEq]
  constructor
  · rintro ⟨fact, hm, _, hf, hname, rfl⟩
    exact ⟨fact, hm, hname, hf⟩
  · rintro ⟨fact, hm, hname, hf⟩
    exact ⟨fact, hm, field, hf, hname, rfl⟩

end Sides

namespace Catalogue

section Leading

theorem mem_of_resolve? {ref : TypeRef} (h : c.resolve? ref = some t) : t ∈ c.types := by
  obtain ⟨id, -, hplace⟩ := Option.bind_eq_some_iff.1 h
  exact List.mem_of_getElem? hplace

/-- A reference leads to a type if it leads to one of its name. -/
theorem Registered.name_of_resolve?_iff (h : c.Registered) (hs : s ∈ c.types) {ref : TypeRef} :
    (c.resolve? ref).bind (fun t => some t.name) = some s.name ↔ c.resolve? ref = some s := by
  constructor
  · intro hname
    obtain ⟨t, ht, hname⟩ := Option.bind_eq_some_iff.1 hname
    obtain rfl : t = s :=
      List.inj_on_of_nodup_map h.nodup_names (mem_of_resolve? ht) hs (Option.some.inj hname)
    exact ht
  · intro hs
    simp [hs]

theorem Registered.leadsTo_iff (h : c.Registered) (hs : s ∈ c.types) :
    c.leadsTo g s.name = true ↔ c.Leads g s := by
  rw [leadsTo_eq, beq_iff_eq, Option.bind_eq_some_iff]
  simp only [h.name_of_resolve?_iff hs]
  unfold leading? Leads
  cases g.kind with
  | simple => simp
  | reference => simp
  | collection =>
    simp only [reduceCtorEq, false_and, true_and, false_or, Option.bind_eq_some_iff]
    constructor
    · rintro ⟨element, ⟨u, hu, helement⟩, hs⟩
      obtain ⟨name, body⟩ := u
      cases body <;> cases helement
      exact ⟨_, _, hu, rfl, hs⟩
    · rintro ⟨u, held, hu, hbody, hs⟩
      exact ⟨held.element, ⟨u, hu, by rw [hbody]; rfl⟩, hs⟩

end Leading

section Ends

theorem Registered.isSome_entityType?_iff (h : c.Registered) :
    (c.entityType? name).isSome = true ↔
      ∃ t ∈ c.types, t.body.isEntity = true ∧ t.name = name := by
  constructor
  · intro hsome
    obtain ⟨t, ht⟩ := Option.isSome_iff_exists.1 hsome
    obtain ⟨htype, hentity⟩ := Option.filter_eq_some_iff.1 ht
    obtain ⟨-, -, -, hname⟩ := h.name_of_isEntity htype hentity
    exact ⟨t, mem_of_type? htype, hentity, hname⟩
  · rintro ⟨t, ht, hentity, rfl⟩
    simp [isSome_entityType?, h.type?_of_mem ht, hentity]

/-- The link of a field, if it leads from entity to entity. -/
def entityLink? (c : Catalogue) (source : String) (field : FieldForm) : Option Link :=
  (Review.linkOf? source field).filter c.isEntityLink

/-- The links that count are those of the fields that join two entities. -/
theorem Registered.entityLink?_eq_some_iff (h : c.Registered) (hm : fact ∈ r.normalFacts)
    (hf : field ∈ fact.fields) : c.entityLink? fact.name field = some link ↔
      ∃ s t, s.name = fact.name ∧ c.Joins r s field t ∧ link = field.linkTo s.name t.name := by
  simp only [entityLink?, Option.filter_eq_some_iff, linkOf?_eq_some_iff, isEntityLink,
    Bool.and_eq_true, h.isSome_entityType?_iff]
  constructor
  · rintro ⟨⟨target, htarget, rfl⟩, ⟨s, hs, hse, hsname⟩, t, ht, hte, rfl⟩
    have hname : s.name = fact.name := hsname
    exact ⟨s, t, hname, ⟨hs, hse, ⟨fact, hm, hname.symm, hf⟩, htarget, ht, hte⟩, by rw [hname]⟩
  · rintro ⟨s, t, hname, hj, rfl⟩
    exact ⟨⟨t.name, hj.names, by rw [hname]⟩, ⟨s, hj.source, hj.fromEntity, rfl⟩,
      t, hj.target, hj.toEntity, rfl⟩

end Ends

section Inverse

theorem Joins.field?_target (hj : c.Joins r s field t) (h : c.Registered) :
    (c.component? t.name).bind (·.field? name) = t.body.component?.bind (·.field? name) := by
  rw [Catalogue.component?, h.type?_of_mem hj.target, Option.bind_some]

/-- A declared inverse that leads back counts. -/
theorem Joins.inverseOf_of_leadsBack (hj : c.Joins r s field t) (h : c.Registered)
    (hb : c.LeadsBack s field t) :
    ∃ name g, field.inverse = some name ∧ field.inverseIn? t = some g ∧
      c.inverseOf (field.linkTo s.name t.name) =
        some (.ok (name, cardinality (g.kind = .collection))) := by
  obtain ⟨g, hg, hleads⟩ := hb
  obtain ⟨name, hname, hfield⟩ := Option.bind_eq_some_iff.1 hg
  refine ⟨name, g, hname, hg, ?_⟩
  simp [inverseOf, FieldForm.linkTo, hname, hj.field?_target h, hfield,
    (h.leadsTo_iff hj.source).2 hleads]

/-- What is wrong with a declared inverse that does not lead back. -/
theorem Joins.inverseOf_of_not_leadsBack (hj : c.Joins r s field t) (h : c.Registered)
    (hb : ¬ c.LeadsBack s field t) :
    c.inverseOf (field.linkTo s.name t.name) = field.inverse.map fun name =>
      .error (if (field.inverseIn? t).isSome then .inverseElsewhere name t.name s.name
        else .inverseMissing name t.name) := by
  unfold inverseOf FieldForm.linkTo
  cases hname : field.inverse with
  | none => rfl
  | some name =>
    have hin : field.inverseIn? t = t.body.component?.bind (·.field? name) := by
      simp [FieldForm.inverseIn?, hname]
    simp only [Option.map_some, hj.field?_target h, ← hin]
    cases hg : field.inverseIn? t with
    | none => rfl
    | some g =>
      have hleads : ¬ c.leadsTo g s.name = true := fun hleads =>
        hb ⟨g, hg, (h.leadsTo_iff hj.source).1 hleads⟩
      simp [hleads]

theorem Joins.relatedBy (hj : c.Joins r s field t) (h : c.Registered) :
    c.RelatedBy s field t (c.relationOf (field.linkTo s.name t.name)) := by
  by_cases hb : c.LeadsBack s field t
  · obtain ⟨name, g, hname, hg, hinverse⟩ := hj.inverseOf_of_leadsBack h hb
    have hrel : c.relationOf (field.linkTo s.name t.name) =
        .infer s.name field.name t.name (some name) (cardinality (g.kind = .collection))
          (cardinality field.isCollection) field.owner := by
      rw [relationOf, hinverse]
      rfl
    rw [hrel]
    exact {
      ends := ⟨rfl, rfl, rfl⟩
      toMany := cardinality_eq_many
      bidirectional := iff_of_true rfl hb
      inverse := hname.symm
      fromMany := cardinality_eq_many.trans (by simp [Relationship.infer, hg])
      table := Relationship.followsTable_infer .. }
  · have hrel : c.relationOf (field.linkTo s.name t.name) =
        .infer s.name field.name t.name none (cardinality !field.isCollection)
          (cardinality field.isCollection) field.owner := by
      rw [relationOf, hj.inverseOf_of_not_leadsBack h hb]
      cases field.inverse <;> rfl
    rw [hrel]
    exact {
      ends := ⟨rfl, rfl, rfl⟩
      toMany := cardinality_eq_many
      bidirectional := iff_of_false Bool.false_ne_true hb
      inverse := rfl
      fromMany := cardinality_eq_many.trans (by simp [Relationship.infer])
      table := Relationship.followsTable_infer .. }

end Inverse

section Entries

theorem mirrors_completed (r : Review) (failOnOpen : Bool) :
    (resolved r).Mirrors (completed r failOnOpen) id :=
  have h := mirrors_related (resolved r) r.links []
  ⟨h.type?, h.resolve?⟩

theorem component?_of_entity? {b : TypeBody} {e : EntityType} (h : b.entity? = some e) :
    b.component? = some e.component := by
  cases b <;> cases h <;> rfl

theorem field_of_entityLink? (h : c.entityLink? source field = some link) :
    link.field = field.name := by
  obtain ⟨target, -, rfl⟩ := linkOf?_eq_some_iff.1 (Option.filter_eq_some_iff.1 h).1
  rfl

/-- Fields with names of their own have a relationship each, if they have a link that counts. -/
theorem entries_relate (c : Catalogue) (hn : (fact.fields.map FieldForm.name).Nodup) :
    (c.relate (Review.linksOf fact) .empty).entries =
      fact.fields.filterMap fun field =>
        (c.entityLink? fact.name field).map fun link => (field.name, c.relationOf link) := by
  have hlinks : (Review.linksOf fact).filter c.isEntityLink =
      fact.fields.filterMap (c.entityLink? fact.name) := by
    rw [linksOf_eq, List.filter_filterMap]
    rfl
  have hnames : ((fact.fields.filterMap (c.entityLink? fact.name)).map Link.field).Nodup :=
    (map_filterMap_sublist _ _ FieldForm.name (fun _ _ => field_of_entityLink?) _).nodup hn
  rw [relate, hlinks, Dict.entries_foldl_insert hnames (by simp [Dict.empty, Dict.keys]),
    List.map_filterMap]
  refine List.filterMap_congr fun field hf => ?_
  cases hl : c.entityLink? fact.name field with
  | none => rfl
  | some link => simp [field_of_entityLink? hl]

end Entries

section Told

/-- What is told of a declared inverse. -/
def inverseDiagnostic? (c : Catalogue) (side : String × FieldForm) : Option Diagnostic :=
  (c.entityLink? side.1 side.2).bind fun link =>
    match c.inverseOf link with
    | some (.error issue) => some ⟨side.1 ++ "." ++ side.2.name, issue⟩
    | _ => none

theorem linkDiagnostics_linkOf? (c : Catalogue) (source : String) (field : FieldForm) :
    (Review.linkOf? source field).toList.flatMap c.linkDiagnostics =
      (c.inverseDiagnostic? (source, field)).toList := by
  unfold inverseDiagnostic? entityLink?
  cases hl : Review.linkOf? source field with
  | none => rfl
  | some link =>
    obtain ⟨target, -, rfl⟩ := linkOf?_eq_some_iff.1 hl
    unfold linkDiagnostics
    cases he : c.isEntityLink (field.linkTo source target) with
    | false => simp [he]
    | true =>
      simp only [Option.toList_some, List.flatMap_singleton, Option.filter_some, he, if_true,
        Option.bind_some]
      cases c.inverseOf (field.linkTo source target) with
      | none => rfl
      | some inverse => cases inverse <;> rfl

theorem linkDiagnostics_links (c : Catalogue) (r : Review) :
    r.links.flatMap c.linkDiagnostics = r.sides.filterMap c.inverseDiagnostic? := by
  unfold Review.links Review.sides
  rw [List.flatMap_assoc, List.filterMap_flatMap]
  refine List.flatMap_congr fun fact _ => ?_
  rw [linksOf_eq, List.filterMap_map, List.filterMap_eq_flatMap_toList,
    List.filterMap_eq_flatMap_toList, List.flatMap_assoc]
  exact List.flatMap_congr fun field _ => c.linkDiagnostics_linkOf? fact.name field

/-- A field is told of its inverse if this does not lead back, and of nothing else. -/
theorem Registered.inverseDiagnostic?_eq_some_iff (h : c.Registered) {side : String × FieldForm}
    (hside : side ∈ r.sides) {d : Diagnostic} :
    c.inverseDiagnostic? side = some d ↔
      d.subject = side.1 ++ "." ++ side.2.name ∧ c.Unanswered r side.1 side.2 d.issue := by
  obtain ⟨source, field⟩ := side
  obtain ⟨fact, hm, rfl, hf⟩ := Review.mem_sides.1 hside
  simp only [inverseDiagnostic?, Option.bind_eq_some_iff, h.entityLink?_eq_some_iff hm hf]
  constructor
  · rintro ⟨link, ⟨s, t, hname, hj, rfl⟩, hd⟩
    by_cases hb : c.LeadsBack s field t
    · obtain ⟨_, _, -, -, hinverse⟩ := hj.inverseOf_of_leadsBack h hb
      rw [hinverse] at hd
      cases hd
    · rw [hj.inverseOf_of_not_leadsBack h hb] at hd
      cases hinverse : field.inverse with
      | none =>
        rw [hinverse] at hd
        cases hd
      | some name =>
        rw [hinverse] at hd
        cases hd
        exact ⟨rfl, s, t, name, hname, hj, hinverse, hb, rfl⟩
  · obtain ⟨subject, issue⟩ := d
    rintro ⟨rfl, s, t, name, hname, hj, hinverse, hb, rfl⟩
    refine ⟨_, ⟨s, t, hname, hj, rfl⟩, ?_⟩
    rw [hj.inverseOf_of_not_leadsBack h hb, hinverse]
    rfl

theorem filter_isInverse_completed (r : Review) (failOnOpen : Bool) :
    (completed r failOnOpen).diagnostics.filter (·.issue.isInverse) =
      r.sides.filterMap (completed r failOnOpen).inverseDiagnostic? := by
  have hproblems : (problems r).filter (·.issue.isInverse) = [] :=
    List.filter_eq_nil_iff.2 fun x hx => by simp [isInverse_problems r x hx]
  have hlinks : (r.links.flatMap (resolved r).linkDiagnostics).filter (·.issue.isInverse) =
      r.links.flatMap (resolved r).linkDiagnostics :=
    List.filter_eq_self.2 (isInverse_linkDiagnostics _ _)
  rw [← linkDiagnostics_links, funext (mirrors_completed r failOnOpen).linkDiagnostics]
  change List.filter _ (problems r ++ _) = _
  rw [List.filter_append, hproblems, hlinks, List.nil_append]

theorem Registered.reports (h : c.Registered) (hsides : r.sides.Nodup) :
    c.Reports r (r.sides.filterMap c.inverseDiagnostic?) := by
  refine ⟨r.sides.filter fun side => (c.inverseDiagnostic? side).isSome, hsides.filter _,
    fun side => ?_, forall₂_filterMap fun side hside d hd =>
      (h.inverseDiagnostic?_eq_some_iff hside).1 hd⟩
  simp only [List.mem_filter, Option.isSome_iff_exists]
  constructor
  · rintro ⟨hside, d, hd⟩
    exact ⟨d.issue, ((h.inverseDiagnostic?_eq_some_iff hside).1 hd).2⟩
  · rintro ⟨issue, hissue⟩
    have hside : side ∈ r.sides := by
      obtain ⟨s, t, -, hname, hj, -⟩ := hissue
      exact Review.mem_sides.2 (hname ▸ hj.declared)
    exact ⟨hside, ⟨side.1 ++ "." ++ side.2.name, issue⟩,
      (h.inverseDiagnostic?_eq_some_iff hside).2 ⟨rfl, hissue⟩⟩

end Told

section Relationships

theorem Registered.covers (h : c.Registered) (hn : (r.normalFacts.map NormalFact.name).Nodup)
    (hu : (fact.fields.map FieldForm.name).Nodup) (hm : fact ∈ r.normalFacts) (hs : s ∈ c.types)
    (hname : fact.name = s.name) :
    c.Covers r s (c.relate (Review.linksOf fact) .empty) := by
  have hlink : ∀ field ∈ fact.fields, ∀ link, c.entityLink? fact.name field = some link ↔
      ∃ t, c.Joins r s field t ∧ link = field.linkTo s.name t.name := by
    intro field hf link
    rw [h.entityLink?_eq_some_iff hm hf]
    constructor
    · rintro ⟨s', t, hname', hj, rfl⟩
      -- no other type has the name of the declaration
      obtain rfl := List.inj_on_of_nodup_map h.nodup_names hj.source hs (hname'.trans hname)
      exact ⟨t, hj, rfl⟩
    · rintro ⟨t, hj, rfl⟩
      exact ⟨s, t, hname.symm, hj, rfl⟩
  unfold Covers
  rw [c.entries_relate hu]
  refine ⟨_, hu.of_map.filter _, fun field => ?_, forall₂_filterMap fun field hf entry he => ?_⟩
  · simp only [List.mem_filter, Option.isSome_map, Option.isSome_iff_exists]
    constructor
    · rintro ⟨hf, link, hl⟩
      obtain ⟨t, hj, -⟩ := (hlink field hf link).1 hl
      exact ⟨t, hj⟩
    · rintro ⟨t, hj⟩
      obtain ⟨fact', hm', hname', hf⟩ := hj.declared
      obtain rfl := List.inj_on_of_nodup_map hn hm' hm (hname'.trans hname.symm)
      exact ⟨hf, _, (hlink field hf _).2 ⟨t, hj, rfl⟩⟩
  · obtain ⟨link, hl, rfl⟩ := Option.map_eq_some_iff.1 he
    obtain ⟨t, hj, rfl⟩ := (hlink field hf link).1 hl
    exact ⟨rfl, t, hj, hj.relatedBy h⟩

/-- An entity has one relationship for each of its fields that names an entity for its target, and
no others. Each inverse that does not lead back is told once, and nothing else of this sort is. -/
theorem relationships_of_build {policy : Policy} (h : build policy m = .ok c)
    (hu : ∀ kind ∈ Kind.componentFamily, Rule.fieldNamesUnique ∈ policy.rules.rulesFor kind) :
    let r := Review.ofModel policy.rules m
    (∀ s ∈ c.types, ∀ e, s.body.entity? = some e →
      (∃ fact ∈ r.normalFacts, fact.name = s.name ∧
        e.component.fields = fact.fields.filterMap (FieldForm.typed c.final)) ∧
      c.Covers r s e.relationships) ∧
    c.Reports r (c.diagnostics.filter (·.issue.isInverse)) := by
  intro r
  obtain rfl := eq_completed_of_build h
  have hn : (r.normalFacts.map NormalFact.name).Nodup :=
    Review.nodup_ofFacts policy.rules [] m.facts
  have hfields : ∀ fact ∈ r.normalFacts, (fact.fields.map FieldForm.name).Nodup :=
    fun fact hm => Review.nodup_fieldNames hu hm
  have hregistered := registered_completed r policy.failOnOpen
  refine ⟨fun s hs e he => ?_, ?_⟩
  · obtain ⟨fact, hm, form, hform, hstems⟩ := exists_stem hs (component?_of_entity? he)
    rw [hstems.entity? e he]
    refine ⟨⟨fact, hm, hstems.name.symm, ?_⟩, ?_⟩
    · rw [fields_of_component? hform]
      rfl
    · have hcovers := hregistered.covers hn (hfields fact hm) hm hs hstems.name.symm
      rwa [(mirrors_completed r policy.failOnOpen).relate] at hcovers
  · rw [filter_isInverse_completed]
    exact hregistered.reports (Review.nodup_sides hn hfields)

theorem relationships_of_build_of_orders :
    let field := fun name type more => Value.node "field" ([("name", .text name),
      ("type", .text type)] ++ more)
    let m : Model := [
      ⟨"entity", [("name", .text "Order"), ("fields", .list [
        field "customer" "Customer" [("inverse", .text "orders")],
        field "payer" "Customer" [("inverse", .text "name")]])]⟩,
      ⟨"entity", [("name", .text "Customer"), ("fields", .list [field "name" "string" [],
        field "orders" "Order" [("collection", .text "set"), ("inverse", .text "customer")]])]⟩]
    let r := Review.ofModel .default m
    ∃ c, build ⟨.default, true, false⟩ m = .ok c ∧
      (∃ s ∈ c.types, ∃ e, s.body.entity? = some e ∧ e.relationships.keys = ["customer", "payer"] ∧
        c.Covers r s e.relationships) ∧
      c.Reports r [⟨"Order.payer", .inverseElsewhere "name" "Customer" "Order"⟩] := by
  intro field m r
  obtain ⟨c, hc⟩ : ∃ c : Catalogue, c = completed r false := ⟨_, rfl⟩
  have hnone : problems r = [] := by decide +kernel
  have hbuild : build ⟨.default, true, false⟩ m = .ok c := by
    rw [build_eq, hc, hnone]
    rfl
  have hunique : ∀ kind ∈ Kind.componentFamily,
      Rule.fieldNamesUnique ∈ RuleBase.default.rulesFor kind := by decide +kernel
  obtain ⟨s, hs, hkeys⟩ : ∃ s ∈ c.types,
      s.body.entity?.map (·.relationships.keys) = some ["customer", "payer"] := by
    rw [hc]
    decide +kernel
  obtain ⟨e, he, hkeys⟩ := Option.map_eq_some_iff.1 hkeys
  have htold : c.diagnostics.filter (·.issue.isInverse) =
      [⟨"Order.payer", .inverseElsewhere "name" "Customer" "Order"⟩] := by
    rw [hc]
    decide +kernel
  obtain ⟨hcovers, hreports⟩ := relationships_of_build hbuild hunique
  exact ⟨c, hbuild, ⟨s, hs, e, he, hkeys, (hcovers s hs e he).2⟩, htold ▸ hreports⟩

end Relationships

end Catalogue

end Cardfile
