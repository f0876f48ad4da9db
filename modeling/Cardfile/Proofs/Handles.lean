import Cardfile.Proofs.Renaming

/-! # Handles

The handle of a type is its place in the catalogue, and names and references hold handles. Whatever
is done to a catalogue, and in whatever order, types are put at the end only and are rewritten in
their places, so a handle means the same type from the moment on that it is given out.
-/

namespace Cardfile

theorem Host.ofName?_of_mem {name : String} {host : Host}
    (h : name ∈ host.name :: host.aliases) :
    Host.ofName? name = some host := by
  cases host <;> simp only [Host.name, Host.aliases, List.mem_cons, List.not_mem_nil, or_false] at h
    <;> rcases h with rfl | rfl | rfl <;> rfl

/-- The same type at a later time. Its relationships may be others, and references that were pending
may be settled. -/
def NamedType.Stays (t later : NamedType) : Prop :=
  ∃ τ : TypeRef → TypeRef, (∀ r, r.isPending = false → τ r = r) ∧
    later.bare = (t.mapReferences τ).bare

section Types

variable {t u v : NamedType} {τ : TypeRef → TypeRef}

theorem NamedType.bare_mapReferences (t : NamedType) :
    (t.mapReferences τ).bare = t.bare.mapReferences τ := by
  obtain ⟨name, body⟩ := t
  cases body <;> rfl

namespace NamedType

theorem stays_refl (t : NamedType) : t.Stays t :=
  ⟨id, fun _ _ => rfl, by rw [mapReferences_id]⟩

theorem Stays.trans (h : t.Stays u) (h' : u.Stays v) : t.Stays v := by
  obtain ⟨τ, hτ, hu⟩ := h
  obtain ⟨σ, hσ, hv⟩ := h'
  refine ⟨σ ∘ τ, fun r hr => ?_, ?_⟩
  · rw [Function.comp_apply, hτ r hr, hσ r hr]
  · rw [hv, bare_mapReferences, hu, ← bare_mapReferences, mapReferences_mapReferences]

theorem Stays.name (h : t.Stays u) : u.name = t.name := by
  obtain ⟨τ, -, hu⟩ := h
  have hname : u.bare.name = (t.mapReferences τ).bare.name := congrArg NamedType.name hu
  exact hname

theorem Stays.eq_basic {name : String} {host : Host} (h : Stays ⟨name, .basic host⟩ u) :
    u = ⟨name, .basic host⟩ := by
  obtain ⟨τ, -, hu⟩ := h
  obtain ⟨other, body⟩ := u
  cases body <;> cases hu
  rfl

end NamedType

end Types

namespace Catalogue

/-- What can be done to a catalogue. -/
inductive Operation
  | insert (name : String) (body : TypeBody)
  | intern (held : CollectionType)
  | reference (name : String)
  | resolve
  | infer (links : List Link)

/-- What an operation gives. -/
inductive Reply
  | handle (id : Nat)
  | failure (cause : Error)
  | reference (r : TypeRef)
  | dangling (refs : List DanglingRef)
  | done

/-- The handle that is given out. -/
def Reply.handle? : Reply → Option Nat
  | .handle id => some id
  | .reference r => r.id?
  | _ => none

/-- The references that come into a catalogue with an operation. -/
def Operation.brings : Operation → List TypeRef
  | .insert _ body => body.references.map Prod.snd
  | .intern held => held.element :: held.key.toList
  | _ => []

/-- The name of the type that an operation asks for. -/
def Operation.name? (c : Catalogue) : Operation → Option String
  | .insert name _ => some name
  | .intern held => some (c.collectionName held)
  | .reference name => some name
  | _ => none

def perform (c : Catalogue) : Operation → Catalogue × Reply
  | .insert name body =>
    match c.insert name body with
    | .ok (d, id) => (d, .handle id)
    | .error cause => (c, .failure cause)
  | .intern held => ((c.intern held).1, .handle (c.intern held).2)
  | .reference name => (c, .reference (c.reference name))
  | .resolve => (c.resolvePending.1, .dangling c.resolvePending.2)
  | .infer links => (c.inferAll links, .done)

def performAll (c : Catalogue) (ops : List Operation) : Catalogue :=
  ops.foldl (fun c op => (c.perform op).1) c

variable {c d e : Catalogue} {name : String} {id : Nat} {t : NamedType} {r : TypeRef}
  {op : Operation} {ops : List Operation}

/-- What becomes of a reference when all pending ones are settled. -/
inductive Settles (c : Catalogue) : TypeRef → TypeRef → Prop
  | found {name : String} {id : Nat} :
    c.id? name = some id → Settles c (.pending name) (.resolved id)
  | missing {name : String} : c.id? name = none → Settles c (.pending name) (.dangling name)
  | resolved (id : Nat) : Settles c (.resolved id) (.resolved id)
  | dangling (name : String) : Settles c (.dangling name) (.dangling name)

/-- Everywhere in a catalogue where a reference stands, in the order of the types. -/
def standing (c : Catalogue) : List (String × Place × TypeRef) :=
  c.types.flatMap fun t => t.body.references.map (t.name, ·)

/-- A reference that was pending and is dangling now. -/
def newlyDangling? :
    (String × Place × TypeRef) × (String × Place × TypeRef) → Option DanglingRef
  | ((owner, place, .pending target), (_, _, .dangling _)) => some ⟨owner, place, target⟩
  | _ => none

/-- A catalogue with its pending references settled, and nothing else changed. -/
structure SettledAs (c d : Catalogue) (dangling : List DanglingRef) : Prop where
  types : ∃ τ, (∀ r, c.Settles r (τ r)) ∧
    d = { c with types := c.types.map (NamedType.mapReferences τ) }
  told : dangling = (c.standing.zip d.standing).filterMap newlyDangling?
  noneLeft : ∀ p ∈ d.standing, p.2.2.isPending = false
  hasPending : d.hasPending = false

/-- Types keep their handles and stay the same, and names lead where they led. -/
structure Keeps (c d : Catalogue) : Prop where
  types : ∀ {id : Nat} {t : NamedType}, c.types[id]? = some t →
    ∃ later, d.types[id]? = some later ∧ t.Stays later
  names : ∀ {name id}, c.id? name = some id → d.id? name = some id

/-- A handle that an operation brings into a catalogue where it is not that of a type. -/
def Foreign (ops : List Operation) (id : Nat) : Prop :=
  ∃ before op later, ops = before ++ op :: later ∧ .resolved id ∈ op.brings ∧
    (basic.performAll before).types.length ≤ id

/-- How handles, names and references go together after some operations. -/
structure InOrder (c : Catalogue) (ops : List Operation) : Prop where
  handles : c.handles = List.range c.types.length
  distinct : (c.types.map NamedType.name).Nodup
  leads : ∀ id t, c.types[id]? = some t → c.id? t.name = some id
  hosts : ∀ host : Host, ∀ name ∈ host.name :: host.aliases,
    c.type? name = some ⟨host.name, .basic host⟩
  stored : ∀ p ∈ c.standing, ∀ id, p.2.2 = .resolved id → id < c.types.length ∨ Foreign ops id

section Settling

theorem settles_settle (c : Catalogue) (r : TypeRef) : c.Settles r (settle c.names r) := by
  cases r with
  | resolved id => exact .resolved id
  | dangling name => exact .dangling name
  | pending name =>
    unfold settle
    dsimp only
    split
    · next hid => exact .found hid
    · next hid => exact .missing hid

theorem Settles.isPending {r' : TypeRef} (h : c.Settles r r') : r'.isPending = false := by
  cases h <;> rfl

/-- The pending references with unknown names are those that come out dangling. -/
theorem unresolved_eq (c : Catalogue) (t : NamedType) :
    unresolved c.names t = t.body.references.filterMap fun p =>
      newlyDangling? ((t.name, p), (t.name, p.1, settle c.names p.2)) := by
  unfold unresolved
  congr 1
  funext ⟨place, r⟩
  cases r with
  | pending name =>
    dsimp only [settle]
    cases hid : c.names.get? name with
    | some id => simp [Dict.contains, hid, newlyDangling?]
    | none => simp [Dict.contains, hid, newlyDangling?]
  | _ => rfl

theorem standing_mapReferences (c : Catalogue) (f : TypeRef → TypeRef) :
    ({ c with types := c.types.map (NamedType.mapReferences f) } : Catalogue).standing =
      c.standing.map fun p => (p.1, p.2.1, f p.2.2) := by
  unfold standing
  simp only [List.flatMap_map, List.map_flatMap, NamedType.mapReferences,
    TypeBody.references_mapReferences, List.map_map]
  rfl

theorem settledAs_resolvePending (c : Catalogue) :
    c.SettledAs c.resolvePending.1 c.resolvePending.2 := by
  have hstanding : c.resolvePending.1.standing =
      c.standing.map fun p => (p.1, p.2.1, settle c.names p.2.2) :=
    standing_mapReferences c (settle c.names)
  have hleft : ∀ p ∈ c.resolvePending.1.standing, p.2.2.isPending = false := by
    intro p hp
    rw [hstanding] at hp
    obtain ⟨q, -, rfl⟩ := List.mem_map.1 hp
    exact (c.settles_settle q.2.2).isPending
  refine ⟨⟨settle c.names, c.settles_settle, rfl⟩, ?_, hleft, ?_⟩
  · have hzip := List.zip_map' (l := c.standing) (f := id)
      (g := fun p => (p.1, p.2.1, settle c.names p.2.2))
    rw [List.map_id] at hzip
    rw [hstanding, hzip, List.filterMap_map, standing, List.filterMap_flatMap]
    refine List.flatMap_congr fun t _ => ?_
    rw [unresolved_eq, List.filterMap_map]
    rfl
  · refine List.any_eq_false.2 fun t ht => ?_
    rw [Bool.not_eq_true, List.any_eq_false]
    intro p hp
    rw [hleft (t.name, p) (List.mem_flatMap.2 ⟨t, ht, List.mem_map_of_mem hp⟩)]
    decide

end Settling

section Steps

theorem keeps_refl (c : Catalogue) : c.Keeps c :=
  ⟨fun {_ t} h => ⟨t, h, t.stays_refl⟩, fun h => h⟩

theorem Keeps.trans (h : c.Keeps d) (h' : d.Keeps e) : c.Keeps e where
  types ht := by
    obtain ⟨u, hu, hs⟩ := h.types ht
    obtain ⟨v, hv, hs'⟩ := h'.types hu
    exact ⟨v, hv, hs.trans hs'⟩
  names hid := h'.names (h.names hid)

theorem Grows.keeps (h : c.Grows d) : c.Keeps d :=
  ⟨fun {_ t} ht => ⟨t, h.getElem? ht, t.stays_refl⟩, h.names⟩

/-- All that an operation can do to the types: one more at the end under a new name, or others in
their places. A reference that a new version of a type holds is old, or the entry of a name. -/
inductive Changes (c : Catalogue) (brought : List TypeRef) : Catalogue → Prop
  | push {name : String} {body : TypeBody} : c.id? name = none →
    (∀ p ∈ body.references, p.2 ∈ brought) → Changes c brought (c.push name body)
  | map (f : NamedType → NamedType) (ds : List Diagnostic) : (∀ t : NamedType, t.Stays (f t)) →
    (∀ t : NamedType, ∀ p ∈ (f t).body.references, ∀ id, p.2 = .resolved id →
      p ∈ t.body.references ∨ ∃ name, c.id? name = some id) →
    Changes c brought { c with types := c.types.map f, diagnostics := ds }

theorem changes_refl (c : Catalogue) (brought : List TypeRef) : c.Changes brought c := by
  have h : c.Changes brought { c with types := c.types.map fun t => t } :=
    .map (fun t => t) c.diagnostics NamedType.stays_refl fun _ p hp _ _ => .inl hp
  rwa [List.map_id'] at h

theorem changes_resolvePending (c : Catalogue) (brought : List TypeRef) :
    c.Changes brought c.resolvePending.1 := by
  refine .map (NamedType.mapReferences (settle c.names)) c.diagnostics (fun t => ?_) ?_
  · refine ⟨settle c.names, fun r hr => ?_, rfl⟩
    cases r with
    | pending name => cases hr
    | _ => rfl
  · intro t p hp id hid
    rw [NamedType.mapReferences, TypeBody.references_mapReferences] at hp
    obtain ⟨⟨place, r⟩, hq, rfl⟩ := List.mem_map.1 hp
    have hs := c.settles_settle r
    dsimp only at hid ⊢
    rw [hid] at hs ⊢
    cases hs with
    | found hname => exact .inr ⟨_, hname⟩
    | resolved => exact .inl hq

/-- A type is inserted unless its name leads somewhere already. -/
theorem perform_insert_cases (c : Catalogue) (name : String) (body : TypeBody) :
    (∃ id, c.id? name = some id ∧
        c.perform (.insert name body) = (c, .failure (.definedType name))) ∨
      (c.id? name = none ∧
        c.perform (.insert name body) = (c.push name body, .handle c.types.length)) := by
  cases hid : c.id? name with
  | some id =>
    have hknown : c.names.contains name = true := Dict.contains_iff.2 ⟨id, hid⟩
    refine .inl ⟨id, rfl, ?_⟩
    rw [perform, Catalogue.insert, if_pos hknown]
  | none =>
    have hnew : ¬ c.names.contains name = true := fun hknown => by
      obtain ⟨id, hled⟩ := Dict.contains_iff.1 hknown
      cases hid.symm.trans hled
    refine .inr ⟨rfl, ?_⟩
    rw [perform, Catalogue.insert, if_neg hnew]

theorem Registered.changes_perform (h : c.Registered) (op : Operation) :
    c.Changes op.brings (c.perform op).1 := by
  cases op with
  | insert name body =>
    rcases c.perform_insert_cases name body with ⟨id, -, he⟩ | ⟨hid, he⟩
    · rw [he]
      exact c.changes_refl _
    · rw [he]
      exact .push hid fun p hp => List.mem_map_of_mem hp
  | intern held =>
    rcases c.intern_cases held with ⟨id, -, he⟩ | ⟨hid, he⟩
    · rw [perform, he]
      exact c.changes_refl _
    · rw [perform, he]
      refine .push hid fun p hp => ?_
      obtain ⟨kind, element, key⟩ := held
      have hm := List.mem_map_of_mem (f := Prod.snd) hp
      cases key <;> exact hm
  | reference name => exact c.changes_refl _
  | resolve => exact c.changes_resolvePending _
  | infer links =>
    rw [perform, inferAll_eq h]
    refine .map (c.related links) _ (fun t => ⟨id, fun _ _ => rfl, ?_⟩) fun t p hp _ _ => ?_
    · rw [bare_related, NamedType.mapReferences_id]
    · rw [references_related] at hp
      exact .inl hp

variable {brought : List TypeRef}

theorem Changes.keeps (h : c.Changes brought d) : c.Keeps d := by
  cases h with
  | push hn _ => exact (grows_push hn _).keeps
  | map f ds hf _ =>
    refine ⟨fun {id t} ht => ⟨f t, ?_, hf t⟩, fun hid => hid⟩
    rw [List.getElem?_map, ht, Option.map_some]

theorem Changes.registered (h : c.Changes brought d) (hc : c.Registered) : d.Registered := by
  cases h with
  | push hn _ => exact hc.push hn _
  | map f ds hf _ =>
    exact hc.map (fun t => (hf t).name) (fun _ _ => (hf _).eq_basic) ds

theorem Changes.handles (h : c.Changes brought d) (hc : c.handles = List.range c.types.length) :
    d.handles = List.range d.types.length := by
  cases h with
  | push _ _ =>
    dsimp only [Catalogue.push]
    rw [List.length_append, List.length_singleton, List.range_succ, hc]
  | map f ds _ _ => rw [List.length_map, hc]

theorem mem_standing {p : String × Place × TypeRef} :
    p ∈ c.standing ↔ ∃ t ∈ c.types, p.1 = t.name ∧ p.2 ∈ t.body.references := by
  unfold standing
  simp only [List.mem_flatMap, List.mem_map]
  constructor
  · rintro ⟨t, ht, q, hq, rfl⟩
    exact ⟨t, ht, rfl, hq⟩
  · rintro ⟨t, ht, hname, hp⟩
    exact ⟨t, ht, p.2, hp, by rw [← hname]⟩

/-- A resolved reference was there before, or it is the entry of a name, or it was brought. -/
theorem Changes.standing (h : c.Changes brought d) {p : String × Place × TypeRef}
    (hp : p ∈ d.standing) (hr : p.2.2 = .resolved id) :
    (∃ q ∈ c.standing, q.2.2 = .resolved id) ∨ (∃ name, c.id? name = some id) ∨
      .resolved id ∈ brought := by
  obtain ⟨t, ht, -, hm⟩ := mem_standing.1 hp
  cases h with
  | push _ hb =>
    rcases List.mem_append.1 ht with hold | hnew
    · exact .inl ⟨(t.name, p.2), mem_standing.2 ⟨t, hold, rfl, hm⟩, hr⟩
    · cases List.mem_singleton.1 hnew
      exact .inr (.inr (hr ▸ hb _ hm))
  | map f ds _ hf =>
    obtain ⟨u, hu, rfl⟩ := List.mem_map.1 ht
    rcases hf u p.2 hm id hr with hold | hname
    · exact .inl ⟨(u.name, p.2), mem_standing.2 ⟨u, hu, rfl, hold⟩, hr⟩
    · exact .inr (.inl hname)

theorem Keeps.length_le (h : c.Keeps d) : c.types.length ≤ d.types.length := by
  by_contra hlt
  have hplace : d.types.length < c.types.length := Nat.lt_of_not_le hlt
  obtain ⟨later, hl, -⟩ := h.types (List.getElem?_eq_getElem hplace)
  exact Nat.lt_irrefl _ (List.getElem?_eq_some_iff.1 hl).1

end Steps

section Runs

theorem performAll_concat (c : Catalogue) (ops : List Operation) (op : Operation) :
    c.performAll (ops ++ [op]) = ((c.performAll ops).perform op).1 := by
  unfold performAll
  rw [List.foldl_append]
  rfl

theorem Registered.performAll (h : c.Registered) (ops : List Operation) :
    (c.performAll ops).Registered := by
  induction ops generalizing c with
  | nil => exact h
  | cons op ops ih => exact ih ((h.changes_perform op).registered h)

theorem Registered.keeps_performAll (h : c.Registered) (ops : List Operation) :
    c.Keeps (c.performAll ops) := by
  induction ops generalizing c with
  | nil => exact c.keeps_refl
  | cons op ops ih =>
    have hs := h.changes_perform op
    exact hs.keeps.trans (ih (hs.registered h))

theorem Foreign.concat (h : Foreign ops id) (op : Operation) : Foreign (ops ++ [op]) id := by
  obtain ⟨before, first, later, rfl, hb, hle⟩ := h
  exact ⟨before, first, later ++ [op], by rw [List.append_assoc]; rfl, hb, hle⟩

theorem Registered.lt_of_id? (h : c.Registered) (hid : c.id? name = some id) :
    id < c.types.length := by
  obtain ⟨t, ht, -⟩ := h.stands hid
  exact (List.getElem?_eq_some_iff.1 ht).1

theorem inOrder_basic : basic.InOrder [] where
  handles := by decide
  distinct := registered_basic.nodup_names
  leads _ _ := registered_basic.leads
  hosts _ _ hn := registered_basic.basic (Host.ofName?_of_mem hn)
  stored p hp := by
    have hnone : basic.standing = [] := by decide
    rw [hnone] at hp
    cases hp

/-- One operation keeps everything in order. -/
theorem InOrder.perform (h : (basic.performAll ops).InOrder ops) (op : Operation) :
    ((basic.performAll ops).perform op).1.InOrder (ops ++ [op]) := by
  have hc := registered_basic.performAll ops
  have hs := hc.changes_perform op
  have hd := hs.registered hc
  refine ⟨hs.handles h.handles, hd.nodup_names, fun _ _ => hd.leads,
    fun _ _ hn => hd.basic (Host.ofName?_of_mem hn), fun p hp id hr => ?_⟩
  -- names lead to types, so only the operation itself can bring what is no handle yet
  rcases hs.standing hp hr with ⟨q, hq, hold⟩ | ⟨name, hname⟩ | hbrought
  · refine (h.stored q hq id hold).imp (fun hlt => ?_) (·.concat op)
    exact Nat.lt_of_lt_of_le hlt hs.keeps.length_le
  · exact .inl (Nat.lt_of_lt_of_le (hc.lt_of_id? hname) hs.keeps.length_le)
  · rcases Nat.lt_or_ge id (basic.performAll ops).types.length with hlt | hge
    · exact .inl (Nat.lt_of_lt_of_le hlt hs.keeps.length_le)
    · exact .inr ⟨ops, op, [], rfl, hbrought, hge⟩

theorem inOrder_performAll (ops : List Operation) : (basic.performAll ops).InOrder ops := by
  induction ops using List.reverseRecOn with
  | nil => exact inOrder_basic
  | append_singleton ops op ih =>
    rw [performAll_concat]
    exact ih.perform op

/-- The handle that is given out is that of the type that was asked for. -/
theorem Registered.handle_perform (h : c.Registered) (hid : (c.perform op).2.handle? = some id) :
    ∃ name t, op.name? c = some name ∧ (c.perform op).1.id? name = some id ∧
      (c.perform op).1.types[id]? = some t ∧ t.name = Host.standard name := by
  have hd := (h.changes_perform op).registered h
  suffices hname : ∃ name, op.name? c = some name ∧ (c.perform op).1.id? name = some id by
    obtain ⟨name, hn, hlead⟩ := hname
    obtain ⟨t, ht, hs⟩ := hd.stands hlead
    exact ⟨name, t, hn, hlead, ht, hs⟩
  cases op with
  | insert name body =>
    refine ⟨name, rfl, ?_⟩
    rcases c.perform_insert_cases name body with ⟨known, -, he⟩ | ⟨-, he⟩
    · rw [he] at hid
      cases hid
    · rw [he] at hid ⊢
      cases hid
      dsimp only
      rw [id?_push, if_pos rfl]
  | intern held =>
    refine ⟨_, rfl, ?_⟩
    rcases c.intern_cases held with ⟨known, hknown, he⟩ | ⟨-, he⟩
    · rw [perform, he] at hid ⊢
      cases hid
      exact hknown
    · rw [perform, he] at hid ⊢
      cases hid
      dsimp only
      rw [id?_push, if_pos rfl]
  | reference name =>
    refine ⟨name, rfl, ?_⟩
    dsimp only [perform, Reply.handle?] at hid ⊢
    unfold Catalogue.reference at hid
    split at hid
    · next hknown =>
      cases hid
      exact hknown
    · cases hid
  | resolve => cases hid
  | infer links => cases hid

/-- An insertion fails exactly if a type goes by the name already, be it as an alias, and then
nothing is changed. -/
theorem Registered.insert_fails (h : c.Registered) (name : String) (body : TypeBody) :
    ((∃ cause, (c.perform (.insert name body)).2 = .failure cause) ↔
        ∃ t ∈ c.types, t.name = Host.standard name) ∧
      ∀ cause, (c.perform (.insert name body)).2 = .failure cause →
        (c.perform (.insert name body)).1 = c := by
  rcases c.perform_insert_cases name body with ⟨id, hid, he⟩ | ⟨hid, he⟩
  · obtain ⟨t, ht, hs⟩ := h.stands hid
    rw [he]
    exact ⟨⟨fun _ => ⟨t, List.mem_of_getElem? ht, hs⟩, fun _ => ⟨_, rfl⟩⟩, fun _ _ => rfl⟩
  · have hnone : ¬ ∃ t ∈ c.types, t.name = Host.standard name := by
      rintro ⟨t, ht, hs⟩
      obtain ⟨id, hplace⟩ := List.mem_iff_getElem?.1 ht
      rw [Host.standard_of_none (h.ofName?_of_none hid)] at hs
      cases hid.symm.trans (hs ▸ h.leads hplace)
    rw [he]
    refine ⟨⟨?_, fun hn => absurd hn hnone⟩, fun _ hf => by cases hf⟩
    rintro ⟨cause, hf⟩
    cases hf

/-- Whatever has been done to a new catalogue, handles, names and references are in order, the next
operation gives out the handle of the type that it asks for, or fails without a change, handles keep
their types whatever is done then, and to resolve is to settle the pending references alone. -/
theorem handles_keep_types (ops : List Operation) :
    let c := basic.performAll ops
    c.InOrder ops ∧
      (∀ name body, ((∃ cause, (c.perform (.insert name body)).2 = .failure cause) ↔
          ∃ t ∈ c.types, t.name = Host.standard name) ∧
        ∀ cause, (c.perform (.insert name body)).2 = .failure cause →
          (c.perform (.insert name body)).1 = c) ∧
      (∀ op id, (c.perform op).2.handle? = some id →
        ∃ name t, op.name? c = some name ∧ (c.perform op).1.id? name = some id ∧
          (c.perform op).1.types[id]? = some t ∧ t.name = Host.standard name) ∧
      (∀ later, c.Keeps (c.performAll later)) ∧
      c.SettledAs c.resolvePending.1 c.resolvePending.2 := by
  have hc := registered_basic.performAll ops
  exact ⟨inOrder_performAll ops, hc.insert_fails, fun _ _ => hc.handle_perform,
    hc.keeps_performAll, settledAs_resolvePending _⟩

/-- A collection of a type that is inserted later. -/
example :
    (basic.performAll [.intern ⟨.list, .pending "Item", none⟩, .insert "Item" (.view ⟨[], [], []⟩),
        .resolve]).standing = [("list<Item>", .element, .resolved 12)] := by
  decide

end Runs

end Catalogue

end Cardfile
