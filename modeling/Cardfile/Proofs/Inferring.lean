import Cardfile.Proofs.Places
import Mathlib.Data.List.Induction

/-! # Inferring

Each link adds one relationship to the type of its source and may be found wrong with its inverse.
What links find in a catalogue does not depend on the relationships that are there.
-/

namespace Cardfile

/-- What a collection type holds. -/
def TypeBody.element? : TypeBody → Option TypeRef
  | collection t => some t.element
  | _ => none

namespace NamedType

/-- The same type without relationships. -/
def bare (t : NamedType) : NamedType :=
  { t with body := t.body.mapEntity fun e => { e with relationships := .empty } }

end NamedType

section Types

variable {τ : TypeRef → TypeRef} {f g : EntityType → EntityType}

theorem TypeBody.mapEntity_mapEntity (b : TypeBody) :
    (b.mapEntity f).mapEntity g = b.mapEntity (g ∘ f) := by
  cases b <;> rfl

theorem TypeBody.mapEntity_eq_self (b : TypeBody) (h : ∀ e, f e = e) : b.mapEntity f = b := by
  cases b <;> simp only [mapEntity, h]

theorem TypeBody.mapReferences_id (b : TypeBody) : b.mapReferences id = b := by
  cases b <;> simp [mapReferences, mapComponent, mapEntity]

theorem TypeBody.component?_mapReferences (b : TypeBody) :
    (b.mapReferences τ).component? = b.component?.map (ComponentType.mapReferences τ) := by
  cases b <;> rfl

theorem TypeBody.element?_mapReferences (b : TypeBody) :
    (b.mapReferences τ).element? = b.element?.map τ := by
  cases b <;> rfl

theorem TypeBody.isEntity_mapReferences (b : TypeBody) :
    (b.mapReferences τ).isEntity = b.isEntity := by
  cases b <;> rfl

theorem NamedType.mapReferences_id (t : NamedType) : t.mapReferences id = t := by
  unfold mapReferences
  rw [TypeBody.mapReferences_id]

theorem NamedType.bare_component? (t : NamedType) :
    t.bare.body.component? = t.body.component? := by
  obtain ⟨name, body⟩ := t
  cases body <;> rfl

theorem NamedType.bare_references (t : NamedType) :
    t.bare.body.references = t.body.references := by
  obtain ⟨name, body⟩ := t
  cases body <;> rfl

theorem NamedType.bare_element? (t : NamedType) : t.bare.body.element? = t.body.element? := by
  obtain ⟨name, body⟩ := t
  cases body <;> rfl

theorem NamedType.bare_isEntity (t : NamedType) : t.bare.body.isEntity = t.body.isEntity := by
  obtain ⟨name, body⟩ := t
  cases body <;> rfl

theorem ComponentType.field?_mapReferences (c : ComponentType) (name : String) :
    (c.mapReferences τ).field? name = (c.field? name).map (Field.mapReference τ) := by
  unfold field? mapReferences
  rw [List.find?_map]
  rfl

end Types

namespace Catalogue

variable {c d : Catalogue} {link : Link} {links : List Link} {name : String}
  {t : NamedType} {τ : TypeRef → TypeRef}

/-- Two catalogues with the same types under the same names, apart from relationships. Where the
types stand may differ; `τ` takes the references of one to those of the other. -/
structure Mirrors (c d : Catalogue) (τ : TypeRef → TypeRef) : Prop where
  type? : ∀ name, (d.type? name).map NamedType.bare =
    (c.type? name).map fun t => (t.mapReferences τ).bare
  resolve? : ∀ r, (d.resolve? (τ r)).map NamedType.bare =
    (c.resolve? r).map fun t => (t.mapReferences τ).bare

section Mirrors

variable {β : Type}

theorem bind_eq_of_map_bare {o o' : Option NamedType} {h : NamedType → NamedType}
    (ho : o'.map NamedType.bare = o.map fun t => (h t).bare) {g : NamedType → Option β}
    (hg : ∀ t, g t.bare = g t) : o'.bind g = o.bind fun t => g (h t) := by
  have hbind : (o'.map NamedType.bare).bind g = (o.map fun t => (h t).bare).bind g := by rw [ho]
  rw [Option.bind_map, Option.bind_map] at hbind
  simpa only [Function.comp_def, hg] using hbind

/-- What can be seen of a type apart from its relationships is the same under a name. -/
theorem Mirrors.bind_type? (h : c.Mirrors d τ) {g : NamedType → Option β}
    (hg : ∀ t, g t.bare = g t) (name : String) :
    (d.type? name).bind g = (c.type? name).bind fun t => g (t.mapReferences τ) :=
  bind_eq_of_map_bare (h.type? name) hg

/-- What can be seen of a type apart from its relationships is the same behind a reference. -/
theorem Mirrors.bind_resolve? (h : c.Mirrors d τ) {g : NamedType → Option β}
    (hg : ∀ t, g t.bare = g t) (r : TypeRef) :
    (d.resolve? (τ r)).bind g = (c.resolve? r).bind fun t => g (t.mapReferences τ) :=
  bind_eq_of_map_bare (h.resolve? r) hg

theorem Mirrors.component? (h : c.Mirrors d τ) (name : String) :
    d.component? name = (c.component? name).map (ComponentType.mapReferences τ) := by
  unfold Catalogue.component?
  rw [h.bind_type? NamedType.bare_component?]
  cases c.type? name with
  | none => rfl
  | some t => exact t.body.component?_mapReferences

theorem isSome_entityType? (c : Catalogue) (name : String) :
    (c.entityType? name).isSome =
      ((c.type? name).bind fun t => some t.body.isEntity).getD false := by
  unfold entityType?
  cases c.type? name with
  | none => rfl
  | some t => cases he : t.body.isEntity <;> simp [Option.filter, he]

theorem Mirrors.isEntityLink (h : c.Mirrors d τ) (link : Link) :
    d.isEntityLink link = c.isEntityLink link := by
  have hentity : ∀ name, (d.entityType? name).isSome = (c.entityType? name).isSome := by
    intro name
    rw [isSome_entityType?, isSome_entityType?,
      h.bind_type? (g := fun t => some t.body.isEntity) fun t => congrArg some t.bare_isEntity]
    simp only [NamedType.mapReferences, TypeBody.isEntity_mapReferences]
  unfold Catalogue.isEntityLink
  rw [hentity, hentity]

/-- The reference by which a field leads to a type. -/
def leading? (c : Catalogue) (field : Field) : Option TypeRef :=
  match field.kind with
  | .simple => none
  | .reference => some field.type
  | .collection => (c.resolve? field.type).bind (·.body.element?)

theorem leadsTo_eq (c : Catalogue) (field : Field) (target : String) :
    c.leadsTo field target =
      (((c.leading? field).bind fun r => (c.resolve? r).bind fun t => some t.name) ==
        some target) := by
  have arrives : ∀ t : NamedType, decide (t.name = target) = (some t.name == some target) :=
    fun _ => (beq_eq_decide _ _).symm
  unfold leadsTo leading?
  cases field.kind with
  | simple => rfl
  | reference =>
    dsimp only [Option.bind_some]
    cases c.resolve? field.type with
    | none => rfl
    | some t => exact arrives t
  | collection =>
    cases c.resolve? field.type with
    | none => rfl
    | some held =>
      obtain ⟨name, body⟩ := held
      cases body with
      | collection held =>
        dsimp only [Option.map_some, Option.bind_some, TypeBody.element?]
        cases c.resolve? held.element with
        | none => rfl
        | some t => exact arrives t
      | _ => rfl

theorem Mirrors.leading? (h : c.Mirrors d τ) (field : Field) :
    d.leading? (field.mapReference τ) = (c.leading? field).map τ := by
  unfold Catalogue.leading? Field.mapReference
  dsimp only
  cases field.kind with
  | collection =>
    dsimp only
    rw [h.bind_resolve? NamedType.bare_element?]
    cases c.resolve? field.type with
    | none => rfl
    | some t => exact t.body.element?_mapReferences
  | _ => rfl

theorem Mirrors.leadsTo (h : c.Mirrors d τ) (field : Field) (target : String) :
    d.leadsTo (field.mapReference τ) target = c.leadsTo field target := by
  rw [leadsTo_eq, leadsTo_eq, h.leading?]
  cases c.leading? field with
  | none => rfl
  | some r =>
    rw [Option.map_some, Option.bind_some, Option.bind_some,
      h.bind_resolve? (g := fun t => some t.name) fun _ => rfl]
    rfl

theorem Mirrors.inverseOf (h : c.Mirrors d τ) (link : Link) :
    d.inverseOf link = c.inverseOf link := by
  unfold Catalogue.inverseOf
  rw [h.component?]
  cases link.inverse with
  | none => rfl
  | some inverse =>
    cases c.component? link.target with
    | none => rfl
    | some component =>
      simp only [Option.map_some, Option.bind_some, ComponentType.field?_mapReferences]
      cases component.field? inverse with
      | none => rfl
      | some field =>
        simp only [Option.map_some, h.leadsTo]
        rfl

end Mirrors

/-- The relationship that a link adds. -/
def relationOf (c : Catalogue) (link : Link) : Relationship :=
  relationshipOf link ((c.inverseOf link).bind Except.toOption)

/-- What is wrong with the inverse of a link. -/
def linkDiagnostics (c : Catalogue) (link : Link) : List Diagnostic :=
  if c.isEntityLink link then
    match c.inverseOf link with
    | some (.error issue) => [⟨link.source ++ "." ++ link.field, issue⟩]
    | _ => []
  else []

/-- Adds the relationships of some links that lead from entity to entity. -/
def relate (c : Catalogue) (links : List Link) (rs : Dict String Relationship) :
    Dict String Relationship :=
  (links.filter c.isEntityLink).foldl (fun rs link => rs.insert link.field (c.relationOf link)) rs

/-- A type with the relationships that its links add to it. -/
def related (c : Catalogue) (links : List Link) (t : NamedType) : NamedType :=
  { t with
    body := t.body.mapEntity fun e =>
      { e with relationships := c.relate (links.filter (·.source = t.name)) e.relationships } }

section Links

theorem Mirrors.relationOf (h : c.Mirrors d τ) (link : Link) :
    d.relationOf link = c.relationOf link := by
  unfold Catalogue.relationOf
  rw [h.inverseOf]

theorem Mirrors.linkDiagnostics (h : c.Mirrors d τ) (link : Link) :
    d.linkDiagnostics link = c.linkDiagnostics link := by
  unfold Catalogue.linkDiagnostics
  rw [h.isEntityLink, h.inverseOf]

theorem Mirrors.relate (h : c.Mirrors d τ) : d.relate = c.relate := by
  unfold Catalogue.relate
  rw [funext h.isEntityLink, funext h.relationOf]

theorem Mirrors.related (h : c.Mirrors d τ) : d.related = c.related := by
  unfold Catalogue.related
  rw [h.relate]

theorem bare_related (c : Catalogue) (links : List Link) (t : NamedType) :
    (c.related links t).bare = t.bare := by
  obtain ⟨name, body⟩ := t
  cases body <;> rfl

theorem component?_related (c : Catalogue) (links : List Link) (t : NamedType) :
    (c.related links t).body.component? = t.body.component? := by
  rw [← NamedType.bare_component?, bare_related, NamedType.bare_component?]

theorem references_related (c : Catalogue) (links : List Link) (t : NamedType) :
    (c.related links t).body.references = t.body.references := by
  rw [← NamedType.bare_references, bare_related, NamedType.bare_references]

theorem related_nil (c : Catalogue) (t : NamedType) : c.related [] t = t := by
  unfold related
  rw [TypeBody.mapEntity_eq_self]
  exact fun _ => rfl

theorem related_related (c : Catalogue) (links later : List Link) (t : NamedType) :
    c.related later (c.related links t) = c.related (links ++ later) t := by
  unfold related
  dsimp only
  rw [TypeBody.mapEntity_mapEntity]
  congr 2
  funext e
  simp only [Function.comp_apply, relate, List.filter_append, List.foldl_append]

/-- Other relationships and diagnostics do not change what links find. -/
theorem mirrors_related (c : Catalogue) (links : List Link) (ds : List Diagnostic) :
    c.Mirrors { c with types := c.types.map (c.related links), diagnostics := ds } id := by
  have hplace : ∀ place : Nat, ((c.types.map (c.related links))[place]?).map NamedType.bare =
      (c.types[place]?).map fun t : NamedType => (t.mapReferences id).bare := by
    intro place
    rw [List.getElem?_map, Option.map_map]
    refine congrArg (Option.map · _) (funext fun t => ?_)
    rw [Function.comp_apply, bare_related, NamedType.mapReferences_id]
  constructor
  · intro name
    unfold type?
    change (Option.bind (c.id? name) _).map _ = _
    cases c.id? name with
    | none => rfl
    | some place => exact hplace place
  · intro r
    cases r with
    | resolved place => exact hplace place
    | _ => rfl

/-- To change the type at a place is to change the one with its name. -/
theorem Registered.modify_eq (h : c.Registered) {id : Nat} (ht : c.types[id]? = some t)
    (f : TypeBody → TypeBody) :
    (c.modify id f).types =
      c.types.map fun u => if u.name = t.name then { u with body := f u.body } else u := by
  refine List.ext_getElem? fun place => ?_
  rw [modify, List.getElem?_modify, List.getElem?_map]
  cases hu : c.types[place]? with
  | none => rfl
  | some u =>
    have hname : u.name = t.name ↔ id = place := by
      constructor
      · intro he
        have hplace := h.leads hu
        rw [he, h.leads ht] at hplace
        exact Option.some.inj hplace
      · rintro rfl
        rw [ht] at hu
        rw [Option.some.inj hu]
    rw [Option.map_some]
    simp only [hname]
    split <;> rfl

/-- A type has no name but its own, unless it is basic. -/
theorem Registered.name_of_type? (h : c.Registered) (ht : c.type? name = some t)
    (hb : ∀ host, t.body ≠ .basic host) : t.name = name := by
  have hnone : Host.ofName? name = none := by
    cases hh : Host.ofName? name with
    | none => rfl
    | some host =>
      rw [h.basic hh] at ht
      cases ht
      exact absurd rfl (hb host)
  obtain ⟨id, hid, hplace⟩ := Option.bind_eq_some_iff.1 ht
  obtain ⟨u, hu, hname⟩ := h.stands hid
  rw [hplace] at hu
  cases hu
  exact hname.trans (Host.standard_of_none hnone)

theorem Registered.name_of_isEntity (h : c.Registered) (ht : c.type? name = some t)
    (he : t.body.isEntity = true) :
    ∃ id, c.id? name = some id ∧ c.types[id]? = some t ∧ t.name = name := by
  obtain ⟨id, hid, hplace⟩ := Option.bind_eq_some_iff.1 ht
  refine ⟨id, hid, hplace, h.name_of_type? ht fun host hb => ?_⟩
  rw [hb] at he
  cases he

theorem name_of_isEntityLink (h : c.Registered) (hl : c.isEntityLink link = true) :
    ∃ id t, c.id? link.source = some id ∧ c.types[id]? = some t ∧ t.name = link.source := by
  unfold isEntityLink at hl
  obtain ⟨t, ht⟩ := Option.isSome_iff_exists.1 (Bool.and_eq_true_iff.1 hl).1
  obtain ⟨htype, hentity⟩ := Option.filter_eq_some_iff.1 ht
  obtain ⟨id, hid, hplace, hname⟩ := h.name_of_isEntity htype hentity
  exact ⟨id, t, hid, hplace, hname⟩

theorem related_singleton (hl : c.isEntityLink link = true) (t : NamedType) :
    c.related [link] t =
      if t.name = link.source then
        { t with
          body := t.body.mapEntity fun e =>
            { e with relationships := e.relationships.insert link.field (c.relationOf link) } }
      else t := by
  unfold related relate
  split
  · next he => simp [he, hl]
  · next hne =>
    have hne' : ¬ link.source = t.name := fun e => hne e.symm
    simp only [hne', decide_false, List.filter_cons_of_neg, List.filter_nil, List.foldl_nil,
      Bool.false_eq_true, not_false_eq_true]
    rw [TypeBody.mapEntity_eq_self]
    exact fun _ => rfl

theorem addRelationship_eq (h : c.Registered) (hl : c.isEntityLink link = true) :
    c.addRelationship link (c.relationOf link) =
      { c with types := c.types.map (c.related [link]) } := by
  obtain ⟨id, t, hid, ht, hname⟩ := name_of_isEntityLink h hl
  have htypes := h.modify_eq ht fun b => b.mapEntity fun e =>
    { e with relationships := e.relationships.insert link.field (c.relationOf link) }
  rw [hname] at htypes
  unfold addRelationship
  rw [hid, funext (related_singleton hl), ← htypes]
  rfl

theorem inferLink_of_isEntityLink (hl : c.isEntityLink link = true) :
    c.inferLink link =
      (c.diagnoseAll (c.linkDiagnostics link)).addRelationship link (c.relationOf link) := by
  unfold inferLink linkDiagnostics relationOf
  rw [hl]
  rw [if_neg (by decide), if_pos rfl]
  cases c.inverseOf link with
  | none => rw [diagnoseAll_nil]; rfl
  | some inverse =>
    cases inverse with
    | ok inverse => rw [diagnoseAll_nil]; rfl
    | error issue => rfl

theorem inferLink_eq (h : c.Registered) (link : Link) :
    c.inferLink link =
      { c with
        types := c.types.map (c.related [link])
        diagnostics := c.diagnostics ++ c.linkDiagnostics link } := by
  cases hl : c.isEntityLink link with
  | false =>
    have hsame : c.related [link] = id := by
      funext t
      unfold related relate
      rw [TypeBody.mapEntity_eq_self]
      · rfl
      · intro e
        by_cases hs : link.source = t.name <;> simp [hs, hl]
    have hnone : c.linkDiagnostics link = [] := by
      unfold linkDiagnostics
      rw [hl]
      rfl
    unfold inferLink
    rw [hl, hsame, hnone, List.map_id, List.append_nil]
    rfl
  | true =>
    rw [inferLink_of_isEntityLink hl]
    exact addRelationship_eq (h.diagnoseAll _) hl

theorem Registered.related (h : c.Registered) (links : List Link) (ds : List Diagnostic) :
    ({ c with types := c.types.map (c.related links), diagnostics := ds } : Catalogue).Registered :=
  h.map (f := c.related links) (fun _ => rfl) (fun _ _ => rfl) ds

/-- Types get the relationships of their links, whatever the others have got before. -/
theorem inferAll_eq (h : c.Registered) (links : List Link) :
    c.inferAll links =
      { c with
        types := c.types.map (c.related links)
        diagnostics := c.diagnostics ++ links.flatMap c.linkDiagnostics } := by
  induction links using List.reverseRecOn with
  | nil =>
    have hsame : c.related [] = id := funext c.related_nil
    rw [hsame, List.map_id, List.flatMap_nil, List.append_nil]
    rfl
  | append_singleton links link ih =>
    unfold inferAll at ih ⊢
    rw [List.foldl_append, ih, List.foldl_cons, List.foldl_nil, inferLink_eq (h.related links _)]
    have hm := c.mirrors_related links (c.diagnostics ++ links.flatMap c.linkDiagnostics)
    rw [hm.related, hm.linkDiagnostics]
    simp only [List.map_map, List.flatMap_append, List.flatMap_singleton, List.append_assoc]
    congr 2
    funext t
    exact c.related_related links [link] t

/-- Inferring relationships makes no type an entity, so it does not matter which link comes
first. -/
theorem inferredCount_eq (h : c.Registered) (links : List Link) :
    c.inferredCount links = (links.filter c.isEntityLink).length := by
  induction links generalizing c with
  | nil => rfl
  | cons link rest ih =>
    rw [inferredCount, inferLink_eq h, ih (h.related [link] _),
      funext (c.mirrors_related [link] _).isEntityLink]
    cases hl : c.isEntityLink link with
    | true => rw [List.filter_cons_of_pos hl, List.length_cons, if_pos rfl, Nat.add_comm]
    | false =>
      rw [List.filter_cons_of_neg (by rw [hl]; exact Bool.false_ne_true),
        if_neg Bool.false_ne_true, Nat.zero_add]

end Links

end Catalogue

end Cardfile
