import Cardfile.Proofs.Resolving
import Mathlib.Data.List.Perm.Subperm

/-! # Type names

The name of a collection type tells what the type holds, as long as the names that it is made of
have none of its marks. Then a catalogue has exactly the types that its declarations ask for, and
no declaration is refused.
-/

namespace Cardfile

/-- A name without the marks in the names of collection types. -/
def Plain (name : String) : Prop := ∀ mark ∈ ['<', '>', ','], mark ∉ name.toList

theorem plain_iff {name : String} :
    (['<', '>', ','].all fun mark => !name.toList.contains mark) = true ↔ Plain name := by
  simp [Plain]

instance (name : String) : Decidable (Plain name) := decidable_of_iff _ plain_iff

/-- The names that the name of a collection type is made of. -/
def Shape.held : Shape → List String
  | collection _ element key => element :: key.toList
  | _ => []

def FieldForm.held (form : FieldForm) : List String := (form.shape.map Shape.held).getD []

section Names

variable {name element element' : String} {key key' : Option String} {kind kind' : CollectionKind}

theorem plain_of_ofName? {host : Host} (h : Host.ofName? name = some host) : Plain name := by
  have hnames : ∀ host ∈ Host.all, ∀ name ∈ host.name :: host.aliases, Plain name := by decide
  exact hnames host (List.mem_of_find?_eq_some h) name (Host.mem_names h)

theorem Host.ofName?_name (host : Host) : Host.ofName? host.name = some host := by
  cases host <;> rfl

theorem Host.plain_name (host : Host) : Plain host.name := by
  cases host <;> decide

theorem CollectionKind.plain_name (kind : CollectionKind) : Plain kind.name := by
  cases kind <;> decide

theorem CollectionKind.name_injective : Function.Injective CollectionKind.name := by
  intro kind kind' h
  cases kind <;> cases kind' <;> first | rfl | exact absurd h (by decide)

theorem Plain.standard (h : Plain name) : Plain (Host.standard name) := by
  cases hh : Host.ofName? name with
  | none =>
    rw [Host.standard_of_none hh]
    exact h
  | some host =>
    rw [Host.standard_of_some hh]
    exact host.plain_name

/-- What stands between the outer marks of the name of a collection type. -/
def inside (element : String) : Option String → List Char
  | some key => key.toList ++ ',' :: element.toList
  | none => element.toList

theorem toList_typeName (kind : CollectionKind) (element : String) (key : Option String) :
    (kind.typeName element key).toList =
      kind.name.toList ++ '<' :: (inside element key ++ ['>']) := by
  cases key <;> simp [CollectionKind.typeName, inside, String.toList_append]

theorem not_plain_typeName (kind : CollectionKind) (element : String) (key : Option String) :
    ¬ Plain (kind.typeName element key) := by
  intro h
  have hmark := h '<' (by decide)
  rw [toList_typeName] at hmark
  exact hmark (List.mem_append_right _ List.mem_cons_self)

theorem standard_typeName (kind : CollectionKind) (element : String) (key : Option String) :
    Host.standard (kind.typeName element key) = kind.typeName element key := by
  refine Host.standard_of_none ?_
  cases hh : Host.ofName? (kind.typeName element key) with
  | none => rfl
  | some host => exact absurd (plain_of_ofName? hh) (not_plain_typeName kind element key)

theorem inside_inj (he : Plain element) (hk : ∀ name ∈ key, Plain name) (hp : Plain element')
    (h : inside element key = inside element' key') : element = element' ∧ key = key' := by
  have hcomma : ',' ∉ element.toList := he ',' (by decide)
  cases key with
  | none =>
    cases key' with
    | none => exact ⟨String.toList_inj.1 h, rfl⟩
    | some key' =>
      have hin : ',' ∈ inside element' (some key') :=
        List.mem_append_right _ List.mem_cons_self
      rw [← h] at hin
      exact absurd hin hcomma
  | some key =>
    cases key' with
    | none =>
      have hin : ',' ∈ inside element (some key) := List.mem_append_right _ List.mem_cons_self
      rw [h] at hin
      exact absurd hin (hp ',' (by decide))
    | some key' =>
      have hkey : ',' ∉ key.toList := hk key rfl ',' (by decide)
      obtain ⟨hkeys, -, helements⟩ := (List.append_cons_inj_of_notMem hkey hcomma).1 h
      exact ⟨String.toList_inj.1 helements, congrArg some (String.toList_inj.1 hkeys)⟩

theorem not_mem_inside (he : Plain element) (hk : ∀ name ∈ key, Plain name) :
    '<' ∉ inside element key := by
  have helement : '<' ∉ element.toList := he '<' (by decide)
  cases key with
  | none => exact helement
  | some key =>
    refine List.not_mem_append (hk key rfl '<' (by decide)) ?_
    exact List.not_mem_cons_of_ne_of_not_mem (by decide) helement

theorem typeName_inj (he : Plain element) (hk : ∀ name ∈ key, Plain name) (hp : Plain element')
    (h : kind.typeName element key = kind'.typeName element' key') :
    kind = kind' ∧ element = element' ∧ key = key' := by
  have hlist := congrArg String.toList h
  rw [toList_typeName, toList_typeName] at hlist
  have hkind : '<' ∉ kind.name.toList := kind.plain_name '<' (by decide)
  have hinside : '<' ∉ inside element key ++ ['>'] :=
    List.not_mem_append (not_mem_inside he hk) (by decide)
  obtain ⟨hkinds, -, hheld⟩ := (List.append_cons_inj_of_notMem hkind hinside).1 hlist
  obtain rfl := CollectionKind.name_injective (String.toList_inj.1 hkinds)
  exact ⟨rfl, inside_inj he hk hp (List.append_cancel_right hheld)⟩

end Names

/-- Declarations none of which asks for a type with the name of another type. -/
structure Unambiguous (facts : List NormalFact) : Prop where
  nodup : (facts.map NormalFact.name).Nodup
  notBasic : ∀ fact ∈ facts, Host.ofName? fact.name = none
  plain : ∀ fact ∈ facts, Plain fact.name
  held : ∀ fact ∈ facts, ∀ form ∈ fact.fields, ∀ name ∈ form.held, Plain name

theorem Unambiguous.of_subperm {facts facts' : List NormalFact} (h : Unambiguous facts)
    (hs : facts'.Subperm facts) : Unambiguous facts' where
  nodup := by
    obtain ⟨l, hp, hl⟩ := hs
    exact (hp.map _).nodup_iff.1 (h.nodup.sublist (hl.map _))
  notBasic fact hm := h.notBasic fact (hs.subset hm)
  plain fact hm := h.plain fact (hs.subset hm)
  held fact hm := h.held fact (hs.subset hm)

namespace Catalogue

variable {c : Catalogue} {name : String} {draft : Draft} {fields : List FieldForm}
  {facts before : List NormalFact} {fact : NormalFact} {r : Review}

section Origins

/-- Only a declaration brings in a type with its name. -/
theorem declared_of_origin (hu : Unambiguous facts) (hm : fact ∈ facts)
    {facts' : List NormalFact} (ho : Origin fields facts' fact.name draft) :
    ∃ other ∈ facts', other.name = fact.name ∧ other.draft? = some draft := by
  generalize he : fact.name = name at ho
  cases ho with
  | basic host =>
    have hbasic := hu.notBasic fact hm
    rw [he, host.ofName?_name] at hbasic
    cases hbasic
  | declared hother hd => exact ⟨_, hother, rfl, hd⟩
  | collection =>
    have hplain := hu.plain fact hm
    rw [he] at hplain
    exact absurd hplain (not_plain_typeName _ _ _)

theorem plain_held
    (hh : ∀ fact ∈ facts, ∀ form ∈ fact.fields, ∀ name ∈ form.held, Plain name) {field : FieldForm}
    (hf : field ∈ facts.flatMap NormalFact.fields) {kind : CollectionKind} {element : String}
    {key : Option String} (hs : field.shape = some (.collection kind element key)) :
    Plain (Host.standard element) ∧ ∀ name ∈ key.map Host.standard, Plain name := by
  obtain ⟨fact, hm, hfield⟩ := List.mem_flatMap.1 hf
  have hheld := hh fact hm field hfield
  rw [FieldForm.held, hs] at hheld
  refine ⟨(hheld element List.mem_cons_self).standard, fun name hname => ?_⟩
  obtain ⟨other, hother, rfl⟩ := Option.map_eq_some_iff.1 hname
  exact (hheld other (List.mem_cons_of_mem _ (Option.mem_toList.2 hother))).standard

/-- Collections hold the same by the names of basic types and by their aliases. -/
theorem collection_congr {ref : String → TypeRef} (hr : ∀ name, ref (Host.standard name) = ref name)
    {kind : CollectionKind} {element element' : String} {key key' : Option String}
    (he : Host.standard element = Host.standard element')
    (hk : key.map Host.standard = key'.map Host.standard) :
    (⟨kind, ref element, key.map ref⟩ : CollectionType) = ⟨kind, ref element', key'.map ref⟩ := by
  have hkeys : ∀ key : Option String, key.map ref = (key.map Host.standard).map ref := by
    intro key
    rw [Option.map_map]
    exact congrArg (Option.map · key) (funext fun name => (hr name).symm)
  rw [← hr element, he, hr element', hkeys key, hk, ← hkeys key']

/-- Collection types with one name are one type. -/
theorem eq_of_collection_origin (hu : Unambiguous facts) {field : FieldForm}
    (hf : field ∈ facts.flatMap NormalFact.fields) {kind : CollectionKind} {element : String}
    {key : Option String} (hs : field.shape = some (.collection kind element key))
    (ho : Origin (facts.flatMap NormalFact.fields) facts
      (Shape.collection kind element key).typeName draft)
    {ref : String → TypeRef} (hr : ∀ name, ref (Host.standard name) = ref name) :
    draft ref = .collection ⟨kind, ref element, key.map ref⟩ := by
  generalize hname : (Shape.collection kind element key).typeName = name at ho
  have hnot : ¬ Plain name := hname ▸ not_plain_typeName _ _ _
  cases ho with
  | basic host => exact absurd host.plain_name hnot
  | declared hm => exact absurd (hu.plain _ hm) hnot
  | @collection field' kind' element' key' hf' hs' =>
    obtain ⟨he, hk⟩ := plain_held hu.held hf hs
    obtain ⟨he', -⟩ := plain_held hu.held hf' hs'
    obtain ⟨rfl, helement, hkey⟩ := typeName_inj he hk he' hname
    exact congrArg TypeBody.collection (collection_congr hr helement.symm hkey.symm)

end Origins

section Diagnostics

/-- The name of a declaration is free until its type is added. -/
theorem Drafted.id?_eq_none (h : c.Drafted fields facts) (hu : Unambiguous (fact :: facts)) :
    c.id? fact.name = none := by
  cases hid : c.id? fact.name with
  | none => rfl
  | some id =>
    obtain ⟨t, ht, hname⟩ := h.stands hid
    obtain ⟨draft, ho, -⟩ := h.origin t (List.mem_of_getElem? ht)
    rw [hname, Host.standard_of_none (hu.notBasic fact List.mem_cons_self)] at ho
    obtain ⟨other, hm, he, -⟩ := declared_of_origin hu List.mem_cons_self ho
    have hnodup := hu.nodup
    rw [List.map_cons, List.nodup_cons, ← he] at hnodup
    exact absurd (List.mem_map_of_mem hm) hnodup.1

theorem Sketched.diagnostics_add (h : c.Sketched fields facts) (hf : fact.fields ⊆ fields)
    (hu : Unambiguous (fact :: facts)) :
    (c.addFact fact).diagnostics = c.diagnostics ++ fact.diagnostics := by
  have hadds := adds_addFact h.toRegistered hf
  generalize c.addFact fact = e at hadds
  cases hadds with
  | nothing hp => exact hp.diagnostics
  | pushed hp => exact hp.diagnostics
  | refused hp _ hid =>
    rw [(hp.drafted h.toDrafted).id?_eq_none hu] at hid
    cases hid

theorem Sketched.diagnostics_addAll (h : c.Sketched fields before)
    (hf : ∀ fact ∈ facts, fact.fields ⊆ fields) (hu : Unambiguous (facts ++ before)) :
    (facts.foldl addFact c).diagnostics =
      c.diagnostics ++ facts.flatMap NormalFact.diagnostics := by
  induction facts generalizing c before with
  | nil => exact (List.append_nil _).symm
  | cons fact rest ih =>
    obtain ⟨hfirst, hrest⟩ := List.forall_mem_cons.1 hf
    have hhere : Unambiguous (fact :: before) :=
      hu.of_subperm ((List.sublist_append_right rest before).cons_cons fact).subperm
    have hnext : Unambiguous (rest ++ fact :: before) :=
      hu.of_subperm List.perm_middle.subperm
    rw [List.foldl_cons, ih (h.add hfirst) hrest hnext, h.diagnostics_add hfirst hhere,
      List.append_assoc, List.flatMap_cons]

/-- What is told of declarations is what is wrong with each by itself. -/
theorem diagnostics_sketch (hu : Unambiguous r.normalFacts) :
    (sketch r).diagnostics =
      r.failureDiagnostics ++ r.arranged.flatMap NormalFact.diagnostics := by
  have harranged : Unambiguous (r.arranged ++ []) := by
    rw [List.append_nil]
    exact hu.of_subperm r.arranged_perm.subperm
  exact (sketched_start r _).diagnostics_addAll (fields_of_arranged r) harranged

end Diagnostics

section Types

theorem Registered.id?_standard (h : c.Registered) (name : String) :
    c.id? (Host.standard name) = c.id? name := by
  cases hh : Host.ofName? name with
  | none => rw [Host.standard_of_none hh]
  | some host =>
    obtain ⟨id, hid, ht⟩ := Option.bind_eq_some_iff.1 (h.basic hh)
    rw [Host.standard_of_some hh, hid]
    exact h.leads ht

/-- References by an alias and by the name itself come to the same. -/
theorem Registered.final_standard (h : c.Registered) (name : String) :
    c.final (Host.standard name) = c.final name := by
  unfold final
  rw [h.id?_standard]
  cases hid : c.id? name with
  | some id => rfl
  | none => rw [Host.standard_of_none (h.ofName?_of_none hid)]

/-- A catalogue has all types that its declarations ask for. -/
theorem FinishedFrom.mem_types (h : c.FinishedFrom facts) (hu : Unambiguous facts)
    (ho : Origin (facts.flatMap NormalFact.fields) facts name draft) :
    ⟨name, draft c.final⟩ ∈ c.types := by
  cases ho with
  | basic host =>
    obtain ⟨id, -, ht⟩ := Option.bind_eq_some_iff.1 (h.basic host.ofName?_name)
    exact List.mem_of_getElem? ht
  | @declared fact _ hm hd =>
    obtain ⟨id, hid⟩ := h.declared fact hm draft hd
    obtain ⟨t, ht, hname⟩ := h.stands hid
    have hmem := List.mem_of_getElem? ht
    rw [Host.standard_of_none (hu.notBasic fact hm)] at hname
    obtain ⟨other, ho, hb⟩ := h.origin t hmem
    rw [hname] at ho
    obtain ⟨fact', hm', he, hd'⟩ := declared_of_origin hu hm ho
    obtain rfl := List.inj_on_of_nodup_map hu.nodup hm' hm he
    rw [hd] at hd'
    cases hd'
    rw [← hname, ← hb]
    exact hmem
  | @collection field kind element key hf hs =>
    obtain ⟨fact, hm, hfield⟩ := List.mem_flatMap.1 hf
    obtain ⟨id, hid⟩ := h.collections fact hm field hfield _ hs rfl
    obtain ⟨t, ht, hname⟩ := h.stands hid
    have hmem := List.mem_of_getElem? ht
    have hstandard : Host.standard (Shape.collection kind element key).typeName =
        (Shape.collection kind element key).typeName := standard_typeName _ _ _
    rw [hstandard] at hname
    obtain ⟨other, ho, hb⟩ := h.origin t hmem
    rw [hname] at ho
    dsimp only
    rw [← eq_of_collection_origin hu hf hs ho h.final_standard, ← hname, ← hb]
    exact hmem

end Types

end Catalogue

end Cardfile
