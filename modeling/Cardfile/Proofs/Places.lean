import Cardfile.Catalogue.Build
import Cardfile.Proofs.Collections

/-! # Places

A catalogue grows by types under new names and by diagnostics. What a name leads to stays, so a
reference that was made on the way means in the end what its name means then.
-/

namespace Cardfile

/-- The name that a type has in a catalogue: a basic type has one name besides its aliases. -/
def Host.standard (name : String) : String := ((Host.ofName? name).map Host.name).getD name

theorem Host.mem_names {name : String} {host : Host} (h : Host.ofName? name = some host) :
    name ∈ host.name :: host.aliases := by
  have hf := List.find?_some h
  rw [Bool.or_eq_true, decide_eq_true_iff, List.contains_iff_mem] at hf
  exact List.mem_cons.2 (hf.imp_left Eq.symm)

theorem Host.standard_of_none {name : String} (h : Host.ofName? name = none) :
    Host.standard name = name := by
  rw [standard, h]
  rfl

theorem Host.standard_of_some {name : String} {host : Host} (h : Host.ofName? name = some host) :
    Host.standard name = host.name := by
  rw [standard, h]
  rfl

/-- The same field with another reference. -/
def Field.mapReference (τ : TypeRef → TypeRef) (field : Field) : Field :=
  { field with type := τ field.type }

/-- The same component with other references. -/
def ComponentType.mapReferences (τ : TypeRef → TypeRef) (c : ComponentType) : ComponentType :=
  { c with fields := c.fields.map (Field.mapReference τ), ancestors := c.ancestors.map τ }

/-- The same type with other references. -/
def NamedType.mapReferences (τ : TypeRef → TypeRef) (t : NamedType) : NamedType :=
  { t with body := t.body.mapReferences τ }

/-- A type with its references by name. -/
abbrev Draft := (String → TypeRef) → TypeBody

namespace Catalogue

variable {c d e : Catalogue} {name other : String} {id : Nat} {t : NamedType} {body : TypeBody}
  {draft : Draft}

/-- What a reference to a name comes to. -/
def final (c : Catalogue) (name : String) : TypeRef :=
  match c.id? name with
  | some id => .resolved id
  | none => .dangling name

/-- Names lead to types, and the name of a type to its place. -/
structure Registered (c : Catalogue) : Prop where
  leads : ∀ {id t}, c.types[id]? = some t → c.id? t.name = some id
  stands : ∀ {name id}, c.id? name = some id →
    ∃ t, c.types[id]? = some t ∧ t.name = Host.standard name
  basic : ∀ {name host}, Host.ofName? name = some host →
    c.type? name = some ⟨host.name, .basic host⟩

/-- Types keep their places, and names lead where they led. -/
structure Grows (c d : Catalogue) : Prop where
  types : c.types <+: d.types
  names : ∀ {name id}, c.id? name = some id → d.id? name = some id

/-- A reference that has been made for a name. -/
inductive StandsFor (c : Catalogue) : TypeRef → String → Prop
  | pending (name : String) : StandsFor c (.pending name) name
  | resolved {id : Nat} {name : String} : c.id? name = some id → StandsFor c (.resolved id) name

/-- Whether one function does for references what another does for the names they stand for. -/
def Reads (c : Catalogue) (f : TypeRef → TypeRef) (ref : String → TypeRef) : Prop :=
  ∀ r name, c.StandsFor r name → f r = ref name

/-- A type whose references stand for the names in a draft. -/
def Draws (c : Catalogue) (body : TypeBody) (draft : Draft) : Prop :=
  ∀ {f ref}, c.Reads f ref → body.mapReferences f = draft ref

section Registered

theorem registered_basic : basic.Registered where
  leads {id t} h := by
    have hids : ∀ id < basic.types.length,
        ((basic.types[id]?).bind fun t => basic.id? t.name) = some id := by decide
    have hid := hids id (List.getElem?_eq_some_iff.1 h).1
    rw [h] at hid
    exact hid
  stands {name id} h := by
    have hnames : ∀ e ∈ basic.names.entries,
        (basic.types[e.2]?).map NamedType.name = some (Host.standard e.1) := by decide
    exact Option.map_eq_some_iff.1 (hnames (name, id) (Dict.mem_entries_iff.2 h))
  basic {name host} h := by
    have hm := Host.mem_names h
    cases host <;> simp only [Host.name, Host.aliases, List.mem_cons, List.not_mem_nil,
      or_false] at hm <;> rcases hm with rfl | rfl | rfl <;> rfl

theorem Registered.type?_of_id? (h : c.Registered) (hid : c.id? name = some id) :
    ∃ t, c.types[id]? = some t ∧ c.type? name = some t ∧ t.name = Host.standard name := by
  obtain ⟨t, ht, hn⟩ := h.stands hid
  exact ⟨t, ht, by rw [type?, hid]; exact ht, hn⟩

theorem Registered.type?_of_mem (h : c.Registered) (ht : t ∈ c.types) :
    c.type? t.name = some t := by
  obtain ⟨id, hid⟩ := List.mem_iff_getElem?.1 ht
  rw [type?, h.leads hid]
  exact hid

theorem Registered.ofName?_of_none (h : c.Registered) (hn : c.id? name = none) :
    Host.ofName? name = none := by
  cases hh : Host.ofName? name with
  | none => rfl
  | some host =>
    have ht := h.basic hh
    rw [type?, hn] at ht
    cases ht

/-- No two types have one name. -/
theorem Registered.nodup_names (h : c.Registered) : (c.types.map NamedType.name).Nodup := by
  rw [List.nodup_iff_getElem?_ne_getElem?]
  intro i j hij hj he
  rw [List.length_map] at hj
  have hi : i < c.types.length := Nat.lt_trans hij hj
  rw [List.getElem?_map, List.getElem?_map, List.getElem?_eq_getElem hi,
    List.getElem?_eq_getElem hj] at he
  have hname : c.types[i].name = c.types[j].name := Option.some.inj he
  have hplaces := h.leads (List.getElem?_eq_getElem hi)
  rw [hname, h.leads (List.getElem?_eq_getElem hj)] at hplaces
  exact Nat.ne_of_gt hij (Option.some.inj hplaces)

theorem id?_push (c : Catalogue) (name : String) (body : TypeBody) (other : String) :
    (c.push name body).id? other = if name = other then some c.types.length else c.id? other :=
  Dict.get?_insert ..

theorem getElem?_types_push (h : (c.push name body).types[id]? = some t) :
    c.types[id]? = some t ∨ id = c.types.length ∧ t = ⟨name, body⟩ := by
  have happ : (c.types ++ [⟨name, body⟩])[id]? = some t := h
  rw [List.getElem?_append] at happ
  split at happ
  · exact .inl happ
  · next hle =>
    obtain ⟨hlt, rfl⟩ := List.getElem?_eq_some_iff.1 happ
    have hid : id - c.types.length < 1 := hlt
    exact .inr ⟨by omega, List.getElem_singleton _⟩

theorem getElem?_types_push_self (c : Catalogue) (name : String) (body : TypeBody) :
    (c.push name body).types[c.types.length]? = some ⟨name, body⟩ :=
  List.getElem?_concat_length

theorem grows_refl (c : Catalogue) : c.Grows c := ⟨List.prefix_refl _, fun h => h⟩

theorem Grows.trans (h : c.Grows d) (h' : d.Grows e) : c.Grows e :=
  ⟨h.types.trans h'.types, fun hid => h'.names (h.names hid)⟩

theorem Grows.getElem? (h : c.Grows d) (ht : c.types[id]? = some t) : d.types[id]? = some t := by
  obtain ⟨later, hl⟩ := h.types
  rw [← hl, List.getElem?_append_left (List.getElem?_eq_some_iff.1 ht).1]
  exact ht

theorem grows_push (hn : c.id? name = none) (body : TypeBody) : c.Grows (c.push name body) where
  types := List.prefix_append _ _
  names {other id} h := by
    rw [id?_push, if_neg]
    · exact h
    · rintro rfl
      rw [hn] at h
      cases h

theorem diagnoseAll_nil (c : Catalogue) : c.diagnoseAll [] = c := by
  unfold diagnoseAll
  rw [List.append_nil]

theorem grows_diagnoseAll (c : Catalogue) (ds : List Diagnostic) : c.Grows (c.diagnoseAll ds) :=
  ⟨List.prefix_refl _, fun h => h⟩

theorem Grows.type? (h : c.Grows d) (ht : c.type? name = some t) : d.type? name = some t := by
  obtain ⟨id, hid, htype⟩ := Option.bind_eq_some_iff.1 ht
  rw [Catalogue.type?, h.names hid]
  exact h.getElem? htype

theorem Registered.push (h : c.Registered) (hn : c.id? name = none) (body : TypeBody) :
    (c.push name body).Registered where
  leads {id t} ht := by
    rcases getElem?_types_push ht with hold | ⟨rfl, rfl⟩
    · exact (grows_push hn body).names (h.leads hold)
    · rw [id?_push, if_pos rfl]
  stands {other id} hid := by
    rw [id?_push] at hid
    split at hid
    · next he =>
      cases hid
      have hs := Host.standard_of_none (h.ofName?_of_none hn)
      exact ⟨_, getElem?_types_push_self c name body, he ▸ hs.symm⟩
    · obtain ⟨t, ht, hs⟩ := h.stands hid
      exact ⟨t, (grows_push hn body).getElem? ht, hs⟩
  basic hh := (grows_push hn body).type? (h.basic hh)

theorem Registered.diagnoseAll (h : c.Registered) (ds : List Diagnostic) :
    (c.diagnoseAll ds).Registered := ⟨h.leads, h.stands, h.basic⟩

/-- Types may change in their places. -/
theorem Registered.map (h : c.Registered) {f : NamedType → NamedType}
    (hn : ∀ t, (f t).name = t.name) (hb : ∀ name host, f ⟨name, .basic host⟩ = ⟨name, .basic host⟩)
    (ds : List Diagnostic) :
    ({ c with types := c.types.map f, diagnostics := ds } : Catalogue).Registered where
  leads {id t} ht := by
    rw [List.getElem?_map] at ht
    obtain ⟨u, hu, rfl⟩ := Option.map_eq_some_iff.1 ht
    rw [hn]
    exact h.leads hu
  stands {name id} hid := by
    obtain ⟨t, ht, hs⟩ := h.stands hid
    exact ⟨f t, by rw [List.getElem?_map, ht, Option.map_some], (hn t).trans hs⟩
  basic {name host} hh := by
    obtain ⟨id, hid, ht⟩ := Option.bind_eq_some_iff.1 (h.basic hh)
    refine Option.bind_eq_some_iff.2 ⟨id, hid, ?_⟩
    rw [List.getElem?_map, ht, Option.map_some, hb]

end Registered

section References

theorem standsFor_reference (c : Catalogue) (name : String) :
    c.StandsFor (c.reference name) name := by
  unfold reference
  cases hid : c.id? name with
  | some id => exact .resolved hid
  | none => exact .pending name

theorem StandsFor.mono {r : TypeRef} (h : c.StandsFor r name) (hg : c.Grows d) :
    d.StandsFor r name := by
  cases h with
  | pending => exact .pending name
  | resolved hid => exact .resolved (hg.names hid)

theorem Reads.mono {f : TypeRef → TypeRef} {ref : String → TypeRef} (h : d.Reads f ref)
    (hg : c.Grows d) : c.Reads f ref :=
  fun r name hs => h r name (hs.mono hg)

theorem Reads.reference {f : TypeRef → TypeRef} {ref : String → TypeRef} (h : c.Reads f ref)
    (name : String) : f (c.reference name) = ref name :=
  h _ name (c.standsFor_reference name)

theorem Draws.mono (h : c.Draws body draft) (hg : c.Grows d) : d.Draws body draft :=
  fun hr => h (hr.mono hg)

/-- To settle a reference is to look up the name that it stands for. -/
theorem reads_settle (c : Catalogue) : c.Reads (settle c.names) c.final := by
  intro r name h
  cases h with
  | pending => rfl
  | resolved hid => rw [final, hid]; rfl

theorem Registered.refName_reference (h : c.Registered) (name : String) :
    c.refName (c.reference name) = Host.standard name := by
  unfold reference
  cases hid : c.id? name with
  | some id =>
    obtain ⟨t, ht, hs⟩ := h.stands hid
    dsimp only [refName]
    rw [ht, ← hs]
    rfl
  | none => exact (Host.standard_of_none (h.ofName?_of_none hid)).symm

end References

end Catalogue

end Cardfile
