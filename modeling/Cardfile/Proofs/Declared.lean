import Cardfile.Proofs.Reviewing
import Mathlib.Data.List.Forall2

/-! # What is declared

A normal form has the fields of its declaration in their order, the names of its natural key, and
all paths through its labels.
-/

namespace Cardfile

/-- A way from a declared label down to one without children. -/
inductive Value.Path : Value → List String → Prop
  | text (name : String) : Path (.text name) [name]
  | leaf {kind name : String} {p : Properties} : labelName? p = some name →
      p.get? "children" = none ∨ p.get? "children" = some (.list []) → Path (.node kind p) [name]
  | step {kind name : String} {p : Properties} {items : List Value} {child : Value}
      {path : List String} : labelName? p = some name → p.get? "children" = some (.list items) →
      child ∈ items → Path child path → Path (.node kind p) (name :: path)

section Results

variable {ε α β : Type}

theorem bind_ok {x : Except ε α} {f : α → Except ε β} {b : β} (h : x >>= f = .ok b) :
    ∃ a, x = .ok a ∧ f a = .ok b := by
  cases x with
  | error e => cases h
  | ok a => exact ⟨a, rfl, h⟩

theorem forall₂_of_mapM_ok {f : α → Except ε β} {as : List α} {bs : List β}
    (h : as.mapM f = .ok bs) : List.Forall₂ (fun a b => f a = .ok b) as bs := by
  induction as generalizing bs with
  | nil =>
    cases h
    exact .nil
  | cons a rest ih =>
    rw [List.mapM_cons] at h
    obtain ⟨b, hb, h⟩ := bind_ok h
    obtain ⟨bs, hbs, h⟩ := bind_ok h
    cases h
    exact .cons hb (ih hbs)

theorem exists_mem_of_mapM_ok {f : α → Except ε β} {as : List α} {bs : List β}
    (h : as.mapM f = .ok bs) {a : α} (ha : a ∈ as) : ∃ b ∈ bs, f a = .ok b := by
  obtain ⟨i, hi, rfl⟩ := List.mem_iff_getElem.1 ha
  have hall := forall₂_of_mapM_ok h
  have hlt : i < bs.length := hall.length_eq ▸ hi
  exact ⟨bs[i], List.getElem_mem hlt, hall.get hi hlt⟩

theorem orFlaw_ok {flaw : Flaw} {o : Option α} {a : α} (h : orFlaw flaw o = .ok a) :
    o = some a := by
  cases o with
  | none => cases h
  | some b =>
    cases h
    rfl

end Results

variable {p : Properties} {form : Form} {component : ComponentForm} {kind : Kind} {fact : Fact}
  {normal : NormalFact}

section Labels

variable {name : String} {label : Label} {labels : List Label} {path : List String}

theorem childrenOf_eq (name : String) (p : Properties) :
    childrenOf name p =
      match p.get? "children" with
      | none => .ok []
      | some (.list items) => labelsOf items
      | some _ => .error (.notList ("children of " ++ name)) := by
  induction p with
  | nil => simp [childrenOf, Properties.get?, Dict.lookup]
  | cons entry rest ih =>
    obtain ⟨property, value⟩ := entry
    unfold childrenOf Properties.get? Dict.lookup
    split
    · cases value <;> rfl
    · exact ih

theorem labelsOf_eq (items : List Value) : labelsOf items = items.mapM labelOf := by
  induction items with
  | nil => simp [labelsOf]; rfl
  | cons value rest ih => rw [labelsOf, List.mapM_cons, ih]

theorem exists_labelOf {items : List Value} (h : labelsOf items = .ok labels) {value : Value}
    (hm : value ∈ items) : ∃ label ∈ labels, labelOf value = .ok label := by
  rw [labelsOf_eq] at h
  exact exists_mem_of_mapM_ok h hm

theorem mem_leafPathsOfAll :
    path ∈ Label.leafPathsOfAll labels ↔ ∃ label ∈ labels, path ∈ label.leafPaths := by
  induction labels with
  | nil => simp [Label.leafPathsOfAll]
  | cons label rest ih => simp [Label.leafPathsOfAll, ih]

theorem mem_leafPaths_node (hl : label ∈ labels) (hp : path ∈ label.leafPaths) :
    name :: path ∈ (Label.node name labels).leafPaths := by
  have hall := mem_leafPathsOfAll.2 ⟨label, hl, hp⟩
  cases labels with
  | nil => cases hl
  | cons first rest =>
    rw [Label.leafPaths]
    rw [Label.leafPathsOfAll] at hall
    exact List.mem_map_of_mem hall

/-- A path through a declared label is one through the label that it becomes. -/
theorem Value.Path.mem_leafPaths {value : Value} (h : value.Path path)
    (hl : labelOf value = .ok label) : path ∈ label.leafPaths := by
  induction h generalizing label with
  | text name =>
    cases hl
    exact List.mem_singleton_self _
  | @leaf kind name p hn hc =>
    have hnone : childrenOf name p = .ok [] := by
      rw [childrenOf_eq]
      rcases hc with hc | hc <;> rw [hc]
      simp [labelsOf]
    rw [labelOf, hn] at hl
    dsimp only at hl
    rw [hnone] at hl
    cases hl
    exact List.mem_singleton_self _
  | @step kind name p items child path hn hc hm _ ih =>
    rw [labelOf, hn] at hl
    dsimp only at hl
    rw [childrenOf_eq, hc] at hl
    dsimp only at hl
    cases hi : labelsOf items with
    | error flaw =>
      rw [hi] at hl
      cases hl
    | ok labels =>
      rw [hi] at hl
      cases hl
      obtain ⟨label, hmem, hchild⟩ := exists_labelOf hi hm
      exact mem_leafPaths_node hmem (ih hchild)

theorem mem_leafPaths_of_hierarchyForm {levels : List String} {finalized : Bool}
    (h : hierarchyForm p = .ok (.hierarchy levels labels finalized)) {items : List Value}
    (hi : p.get? "labels" = some (.list items)) {value : Value} (hv : value ∈ items)
    (hp : value.Path path) : path ∈ Label.leafPathsOfAll labels := by
  obtain ⟨levels', -, h⟩ := bind_ok h
  rw [hi] at h
  obtain ⟨labels', hl, h⟩ := bind_ok h
  cases h
  obtain ⟨label, hm, ho⟩ := exists_labelOf hl hv
  exact mem_leafPathsOfAll.2 ⟨label, hm, hp.mem_leafPaths ho⟩

end Labels

section Fields

theorem fieldOf_ok {value : Value} {field : FieldForm} (h : fieldOf value = .ok field) :
    ∃ d, value.declaration? = some d ∧ d.name? = some field.name := by
  obtain ⟨d, hd, h⟩ := bind_ok h
  obtain ⟨name, hn, h⟩ := bind_ok h
  obtain ⟨shape, -, h⟩ := bind_ok h
  obtain ⟨measure, -, h⟩ := bind_ok h
  cases h
  exact ⟨d, orFlaw_ok hd, orFlaw_ok hn⟩

theorem names_of_fieldsOf {items : List Value} {fields : List FieldForm}
    (h : items.mapM fieldOf = .ok fields) :
    fields.map (some ∘ FieldForm.name) =
      (items.filterMap Value.declaration?).map Declaration.name? := by
  have hall := forall₂_of_mapM_ok h
  clear h
  induction hall with
  | nil => rfl
  | cons hfield _ ih =>
    obtain ⟨d, hd, hn⟩ := fieldOf_ok hfield
    rw [List.map_cons, ih, List.filterMap_cons_some hd, List.map_cons, hn]
    rfl

theorem subset_foldl_addName (names more : List String) :
    names ⊆ more.foldl addName names := by
  induction more generalizing names with
  | nil => exact List.Subset.refl _
  | cons name rest ih =>
    refine List.Subset.trans ?_ (ih _)
    unfold addName
    split
    · exact List.Subset.refl _
    · exact List.subset_append_left _ _

/-- What a component has of its declaration. -/
theorem componentForm_ok (h : componentForm p = .ok (.component component)) :
    component.fields.map (some ∘ FieldForm.name) = (p.nodes "fields").map Declaration.name? ∧
      component.naturalKey = naturalKeyOf p := by
  unfold componentForm at h
  dsimp only at h
  unfold Properties.nodes
  split at h
  · next hnone =>
    rw [hnone]
    cases h
    exact ⟨rfl, rfl⟩
  · next items hitems =>
    obtain ⟨fields, hf, h⟩ := bind_ok h
    rw [hitems]
    cases h
    exact ⟨names_of_fieldsOf hf, rfl⟩
  · cases h

theorem subset_naturalKeyOf {names : List String} (h : p.names? "natural_key" = some names) :
    names ⊆ naturalKeyOf p := by
  unfold naturalKeyOf
  rw [h]
  exact subset_foldl_addName names _

end Fields

section Forms

theorem formOf_of_isComponent (h : kind.isComponent = true) (p : Properties) :
    formOf kind p = componentForm p := by
  cases kind <;> first | rfl | exact absurd h (by decide)

/-- A normal form is that of the properties, and its name is not blank. -/
theorem formOf_of_normalize (h : fact.normalize = .ok normal) :
    formOf fact.kind fact.properties = .ok normal.form ∧
      (Text.trim fact.name).isEmpty = false := by
  unfold Fact.normalize at h
  split at h
  · cases h
  · next hblank =>
    cases hf : formOf fact.kind fact.properties with
    | error flaw =>
      rw [hf] at h
      cases h
    | ok form =>
      rw [hf] at h
      cases h
      exact ⟨rfl, Bool.eq_false_iff.2 hblank⟩

end Forms

section Names

/-- A declaration that comes out in normal form has a name. -/
theorem Declaration.name?_of_normalize {d : Declaration} (h : d.fact? = some fact)
    (hn : fact.normalize = .ok normal) : d.name? = some normal.name := by
  obtain ⟨kind, -, rfl⟩ := Option.map_eq_some_iff.1 h
  have hname := (normalize_ok hn).1
  have hblank := (formOf_of_normalize hn).2
  rw [hname]
  cases hd : d.name? with
  | some name => rfl
  | none =>
    dsimp only at hblank
    rw [hd] at hblank
    exact absurd hblank (by decide)

end Names

namespace Review

/-- If nothing has failed, every declaration came out in normal form. -/
theorem exists_normal_of_failures {rules : RuleBase} {facts : List Fact} {seen : List String}
    (h : (ofFacts rules seen facts).failures = []) (hm : fact ∈ facts) :
    ∃ normal ∈ (ofFacts rules seen facts).normalFacts, fact.normalize = .ok normal := by
  induction facts generalizing seen with
  | nil => cases hm
  | cons first rest ih =>
    unfold ofFacts at h ⊢
    cases ho : outcomeOf rules first with
    | error flaw =>
      rw [ho] at h
      cases h
    | ok other =>
      rw [ho] at h
      dsimp only at h ⊢
      split at h
      · cases h
      · next hnew =>
        rw [if_neg hnew]
        rcases List.mem_cons.1 hm with rfl | hm
        · exact ⟨other, List.mem_cons_self, outcomeOf_ok ho⟩
        · obtain ⟨normal, hn, hok⟩ := ih h hm
          exact ⟨normal, List.mem_cons_of_mem _ hn, hok⟩

end Review

end Cardfile
