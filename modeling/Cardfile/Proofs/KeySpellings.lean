import Cardfile.Proofs.AlikeForms
import Cardfile.Proofs.Metadata

/-! # Spellings of natural keys

A natural key is a list of names, or it is marked on the fields. As long as the names are those of
fields with a type, the types of the catalogue do not show which.
-/

namespace Cardfile

/-- Declarations of fields that differ in whether they are marked only. -/
inductive SameField : Value → Value → Prop
  | same (value : Value) : SameField value value
  | node (kind : String) {p q : Properties} : p.AgreeBut ["natural_key"] q →
      SameField (.node kind p) (.node kind q)

inductive SameFields : Value → Value → Prop
  | same (value : Value) : SameFields value value
  | list {items items' : List Value} : List.Forall₂ SameField items items' →
      SameFields (.list items) (.list items')

/-- The properties are the same, those with the natural key left out. -/
structure SameButKey (p q : Properties) : Prop where
  agree : p.AgreeBut ["natural_key", "fields"] q
  fields : Option.Rel SameFields (p.get? "fields") (q.get? "fields")

/-- The natural key is a list of names, and no field is marked. -/
structure ListsKey (p : Properties) (key : List String) : Prop where
  names : p.names? "natural_key" = some key
  unmarked : ∀ d ∈ p.nodes "fields", d.properties.flag "natural_key" = false

/-- The fields of the natural key are marked, and it is no list of names. -/
structure FlagsKey (p : Properties) (key : List String) : Prop where
  unlisted : p.get? "natural_key" = none
  marked : ∀ name, name ∈ key ↔
    ∃ d ∈ p.nodes "fields", d.properties.flag "natural_key" = true ∧ d.name? = some name

/-- There is a field of the name, with a type. -/
def TypedField (p : Properties) (name : String) : Prop :=
  ∃ d ∈ p.nodes "fields", d.name? = some name ∧ (d.properties.text? "type").isSome = true

/-- Declarations that are the same, or differ in how they tell the natural key: one lists fields
with a type, and the other marks them. -/
inductive Declaration.RespellsKey : Declaration → Declaration → Prop
  | same (d : Declaration) : RespellsKey d d
  | marks (kind : String) {p q : Properties} {key : List String} : SameButKey p q →
      ListsKey p key → FlagsKey q key → (∀ name ∈ key, TypedField p name) →
      RespellsKey ⟨kind, p⟩ ⟨kind, q⟩

section Components

variable {p q : Properties} {v w : Value} {key : List String} {name : String} {field : FieldForm}

theorem mem_foldl_addName {names more : List String} :
    name ∈ more.foldl addName names ↔ name ∈ names ∨ name ∈ more := by
  induction more generalizing names with
  | nil => simp
  | cons first rest ih =>
    have hadd : name ∈ addName names first ↔ name ∈ names ∨ name = first := by
      unfold addName
      split
      · next h =>
        have hm : first ∈ names := by simpa using h
        exact ⟨.inl, fun h => h.elim id fun he => he ▸ hm⟩
      · simp
    rw [List.foldl_cons, ih, hadd, List.mem_cons, or_assoc]

theorem mem_flaggedKeys : name ∈ flaggedKeys p ↔
    ∃ d ∈ p.nodes "fields", d.properties.flag "natural_key" = true ∧ d.name? = some name := by
  simp [flaggedKeys, List.mem_filterMap, and_assoc]

theorem ListsKey.mem_naturalKeyOf (h : ListsKey p key) :
    name ∈ naturalKeyOf p ↔ name ∈ key := by
  rw [naturalKeyOf, mem_foldl_addName, mem_flaggedKeys, h.names, Option.getD_some]
  refine or_iff_left ?_
  rintro ⟨d, hd, hmarked, -⟩
  rw [h.unmarked d hd] at hmarked
  cases hmarked

theorem FlagsKey.mem_naturalKeyOf (h : FlagsKey p key) :
    name ∈ naturalKeyOf p ↔ name ∈ key := by
  have hnone : p.names? "natural_key" = none := by
    rw [Properties.names?, h.unlisted, Option.bind_none]
  rw [naturalKeyOf, mem_foldl_addName, mem_flaggedKeys, hnone, h.marked]
  simp

theorem fieldOf_node (kind : String) (p : Properties) : fieldOf (.node kind p) = (do
    let name ← orFlaw .namelessField (p.text? "name")
    let shape ← shapeOf name p
    let measure ← measureOf name p
    pure {
      name, shape, measure
      otherName := p.text? "alias"
      inverse := p.text? "inverse"
      owner := p.flag "owner" }) := rfl

theorem SameField.fieldOf_eq (h : SameField v w) : fieldOf v = fieldOf w := by
  cases h with
  | same => rfl
  | @node kind p q h =>
    have hshape : ∀ name, shapeOf name p = shapeOf name q := fun name => by
      unfold shapeOf
      rw [h.text?_eq (by decide : "type" ∉ _), h.text?_eq (by decide : "collection" ∉ _),
        h.text?_eq (by decide : "key" ∉ _)]
    have hmeasure : ∀ name, measureOf name p = measureOf name q := fun name => by
      rw [measureOf, measureOf, h.text?_eq (by decide)]
    rw [fieldOf_node, fieldOf_node, h.text?_eq (by decide : "name" ∉ _),
      h.text?_eq (by decide : "alias" ∉ _), h.text?_eq (by decide : "inverse" ∉ _),
      h.flag_eq (by decide)]
    simp only [hshape, hmeasure]

theorem isSome_of_shapeOf {shape : Option Shape} (h : shapeOf name p = .ok shape)
    (ht : (p.text? "type").isSome = true) : shape.isSome = true := by
  obtain ⟨type, htype⟩ := Option.isSome_iff_exists.1 ht
  unfold shapeOf at h
  rw [htype] at h
  dsimp only at h
  split at h
  · split at h <;> cases h <;> rfl
  · obtain ⟨kind, -, h⟩ := bind_ok h
    split at h <;> cases h
    rfl

/-- The declared fields of a component. -/
def fieldForms (p : Properties) : Normalized (List FieldForm) :=
  match p.get? "fields" with
  | none => .ok []
  | some (.list items) => items.mapM fieldOf
  | some _ => .error (.notList "fields")

theorem componentForm_eq (p : Properties) : componentForm p = (do
    let fields ← fieldForms p
    pure (.component {
      fields
      naturalKey := naturalKeyOf p
      ancestors := (p.first? Properties.names? ["ancestors", "view_of"]).getD []
      externalId := p.flag "external_id" || p.flag "supports_external_id" })) := by
  unfold componentForm fieldForms
  cases p.get? "fields" with
  | none => rfl
  | some v => cases v <;> rfl

/-- A declared field with a type is one of the form's with a shape. -/
theorem TypedField.mem_names {fields : List FieldForm} (h : TypedField p name)
    (hf : fieldForms p = .ok fields) :
    name ∈ (fields.filter (·.shape.isSome)).map FieldForm.name := by
  obtain ⟨d, hd, hn, ht⟩ := h
  unfold Properties.nodes at hd
  split at hd
  · next items hi =>
    -- the node of the field is read to a form, which keeps its name and its type
    rw [fieldForms, hi] at hf
    obtain ⟨value, hm, hv⟩ := List.mem_filterMap.1 hd
    obtain ⟨field, hfield, ho⟩ := exists_mem_of_mapM_ok hf hm
    obtain ⟨d', hd', ho⟩ := bind_ok ho
    obtain ⟨name', hn', ho⟩ := bind_ok ho
    obtain ⟨shape, hs, ho⟩ := bind_ok ho
    obtain ⟨measure, -, ho⟩ := bind_ok ho
    cases ho
    obtain rfl := Option.some.inj (hv.symm.trans (orFlaw_ok hd'))
    obtain rfl := Option.some.inj (hn.symm.trans (orFlaw_ok hn'))
    exact List.mem_map.2 ⟨_, List.mem_filter.2 ⟨hfield, isSome_of_shapeOf hs ht⟩, rfl⟩
  · cases hd

theorem fieldForms_eq (h : Option.Rel SameFields (p.get? "fields") (q.get? "fields")) :
    fieldForms p = fieldForms q := by
  unfold fieldForms
  generalize p.get? "fields" = x at h ⊢
  generalize q.get? "fields" = y at h ⊢
  cases h with
  | none => rfl
  | some h =>
    cases h with
    | same => rfl
    | list h =>
      dsimp only
      induction h with
      | nil => rfl
      | cons hv _ ih => rw [List.mapM_cons, List.mapM_cons, hv.fieldOf_eq, ih]

theorem SameButKey.formOf_alike (h : SameButKey p q) (hp : ListsKey p key) (hq : FlagsKey q key)
    (ht : ∀ name ∈ key, TypedField p name) (kind : Kind) :
    Both Form.Alike (formOf kind p) (formOf kind q) := by
  cases hk : kind.isComponent with
  | false =>
    have hform : formOf kind p = formOf kind q :=
      formOf_congr hk (fun name hm => h.agree name fun hr => hm
        ((by decide : ["natural_key", "fields"] ⊆ "fields" :: readNames) hr))
        (h.agree.names?_eq (by decide)) (h.agree.names?_eq (by decide))
    rw [hform]
    exact Both.refl Form.Alike.same _
  | true =>
    rw [formOf_of_isComponent hk, formOf_of_isComponent hk, componentForm_eq, componentForm_eq,
      fieldForms_eq h.fields]
    cases hfields : fieldForms q with
    | error flaw => exact .error flaw
    | ok fields =>
      -- both keys have the names of `key`, each in an order of its own
      refine .ok (.component ⟨rfl, fun name => ?_, fun name hm => ?_, ?_, ?_⟩)
      · exact hp.mem_naturalKeyOf.trans hq.mem_naturalKeyOf.symm
      · have htyped := ht name (hp.mem_naturalKeyOf.1 hm)
        exact htyped.mem_names ((fieldForms_eq h.fields).trans hfields)
      · dsimp only
        rw [first?_pair, first?_pair, h.agree.names?_eq (by decide), h.agree.names?_eq (by decide)]
      · dsimp only
        rw [h.agree.flag_eq (by decide), h.agree.flag_eq (by decide)]

theorem Declaration.RespellsKey.alike {d e : Declaration} (h : d.RespellsKey e) : d.Alike e := by
  cases h with
  | same => exact ⟨rfl, rfl, fun kind => Both.refl Form.Alike.same _⟩
  | marks kind hsame hp hq ht =>
    refine ⟨rfl, ?_, hsame.formOf_alike hp hq ht⟩
    exact hsame.agree.text?_eq (by decide)

end Components

namespace Catalogue

section Keys

variable {policy : Policy} {m : Model} {c : Catalogue} {t : NamedType} {component : ComponentType}

theorem form_of_component? {fact : NormalFact} {form : ComponentForm}
    (h : fact.component? = some form) : fact.form = .component form := by
  obtain ⟨name, kind, other⟩ := fact
  cases other <;> cases h
  rfl

/-- A type with fields stems from a declaration of its name. -/
theorem exists_declaration (h : build policy m = .ok c) (ht : t ∈ c.types)
    (hc : t.body.component? = some component) :
    ∃ d ∈ m, d.name? = some t.name ∧ ∃ form ref,
      componentForm d.properties = .ok (.component form) ∧ component = form.typed ref := by
  rw [eq_completed_of_build h] at ht
  obtain ⟨fact, hm, form, hform, hstems⟩ := exists_stem ht hc
  obtain ⟨fact₀, hm₀, ho⟩ := Review.exists_outcomeOf hm
  have hn := Review.outcomeOf_ok ho
  obtain ⟨d, hd, hfact⟩ := List.mem_filterMap.1 (m.facts_perm.mem_iff.1 hm₀)
  refine ⟨d, hd, ?_, form, _, ?_, Option.some.inj (hc.symm.trans hstems.component?)⟩
  · rw [hstems.name]
    exact Declaration.name?_of_normalize hfact hn
  · have hnormal := (formOf_of_normalize hn).1
    obtain ⟨-, hkind, hfits⟩ := normalize_ok hn
    rw [← hkind, form_of_component? hform] at hnormal
    rw [form_of_component? hform] at hfits
    obtain ⟨kind, -, rfl⟩ := Option.map_eq_some_iff.1 hfact
    rwa [formOf_of_isComponent hfits] at hnormal

/-- The natural key of a type has the names that were declared, in the order of the fields. -/
theorem naturalKey_of_build (h : build policy m = .ok c) (ht : t ∈ c.types)
    (hc : t.body.component? = some component) :
    ∃ d ∈ m, d.name? = some t.name ∧ ∀ key,
      ListsKey d.properties key ∨ FlagsKey d.properties key →
        component.naturalKey = component.fieldNames.filter (· ∈ key) ∧
          ((∀ name ∈ key, TypedField d.properties name) → key ⊆ component.naturalKey) := by
  obtain ⟨d, hd, hname, form, ref, hform, rfl⟩ := exists_declaration h ht hc
  refine ⟨d, hd, hname, fun key hkey => ?_⟩
  have hmem : ∀ name, name ∈ form.naturalKey ↔ name ∈ key := by
    intro name
    rw [(componentForm_ok hform).2]
    exact hkey.elim ListsKey.mem_naturalKeyOf FlagsKey.mem_naturalKeyOf
  have hfilter : (form.typed ref).naturalKey = (form.typed ref).fieldNames.filter (· ∈ key) := by
    rw [fieldNames_typed]
    refine List.filter_congr fun name _ => ?_
    simp [List.contains_eq_mem, hmem]
  refine ⟨hfilter, fun htyped name hm => ?_⟩
  rw [hfilter, fieldNames_typed]
  refine List.mem_filter.2 ⟨?_, by simpa using hm⟩
  rw [componentForm_eq] at hform
  obtain ⟨fields, hfields, hform⟩ := bind_ok hform
  cases hform
  exact (htyped name hm).mem_names hfields

end Keys

/-- What can be written in more than one way is read alike: the bounds of integers, the digits of
decimals, lists of names, the names of two properties, and natural keys. -/
theorem spellings_read_alike :
    (∀ {low high : Int} {p : Properties}, fitsInt64 low = true → fitsInt64 high = true →
      WritesRange low high p → formOf .integerRange p = .ok (.integerRange low high)) ∧
    (∀ {precision scale : Int} {p : Properties}, fitsInt64 precision = true →
      fitsInt64 scale = true → WritesDecimal precision scale p →
        (∀ form, formOf .decimal p = .ok form ↔
          (0 ≤ precision ∧ precision < 2 ^ 32) ∧ (0 ≤ scale ∧ scale < 2 ^ 32) ∧
            form = .decimal precision.toNat scale.toNat) ∧
        ∀ {q : Properties}, WritesDecimal precision scale q →
          formOf .decimal p = formOf .decimal q) ∧
    (∀ {names : List String} {text property : String} {p q : Properties},
      (∀ name ∈ names, PlainName name) → CommaText names text → property ∈ listNames →
      p.AgreeBut [property] q → p.get? property = some (.list (names.map .text)) →
      q.get? property = some (.text text) →
        p.names? property = some names ∧ q.names? property = some names ∧
          ∀ kind, formOf kind p = formOf kind q) ∧
    (∀ {p q : Properties}, p.AgreeBut ["ancestors", "view_of"] q → p.get? "view_of" = none →
      q.get? "ancestors" = none → p.get? "ancestors" = q.get? "view_of" →
        ∀ kind, formOf kind p = formOf kind q) ∧
    (∀ {p q : Properties}, p.AgreeBut ["external_id", "supports_external_id"] q →
      p.get? "supports_external_id" = none → q.get? "external_id" = none →
      p.get? "external_id" = q.get? "supports_external_id" →
        ∀ kind, formOf kind p = formOf kind q) ∧
    (∀ {m m' : Model}, List.Forall₂ Declaration.RespellsKey m m' →
      ∀ policy, build policy m = build policy m') ∧
    ∀ {policy : Policy} {m : Model} {c : Catalogue} {t : NamedType} {component : ComponentType},
      build policy m = .ok c → t ∈ c.types → t.body.component? = some component →
        ∃ d ∈ m, d.name? = some t.name ∧ ∀ key,
          ListsKey d.properties key ∨ FlagsKey d.properties key →
            component.naturalKey = component.fieldNames.filter (· ∈ key) ∧
              ((∀ name ∈ key, TypedField d.properties name) → key ⊆ component.naturalKey) := by
  refine ⟨formOf_of_writesRange, fun hp hs h => ⟨fun form => formOf_decimal_iff hp hs h,
    fun h' => ?_⟩, fun hn ht hproperty h hp hq => ?_, fun h hp hq hsame => ?_,
    fun h hp hq hsame => ?_, fun h policy => ?_, naturalKey_of_build⟩
  · rw [decimalForm_of_writes hp hs h, decimalForm_of_writes hp hs h']
  · have hlist := names?_of_list hp
    have htext := names?_of_commaText hn ht hq
    exact ⟨hlist, htext, (readAlike_of_names hproperty h (hlist.trans htext.symm)).formOf_eq⟩
  · exact (readAlike_of_viewOf h hp hq hsame).formOf_eq
  · exact (readAlike_of_externalId h hp hq hsame).formOf_eq
  · exact build_alike (h.imp fun _ _ hd => hd.alike) policy

theorem spellings_read_alike_of_account :
    let field := fun name more => Value.node "field" ([("name", .text name),
      ("type", .text "string")] ++ more)
    let listed := fun (key : Value) => ([("name", .text "Account"), ("natural_key", key),
      ("fields", .list [field "branch" [], field "number" []])] : Properties)
    let marked : Properties := [("name", .text "Account"), ("fields", .list
      [field "branch" [("natural_key", .bool true)], field "number" [("natural_key", .bool true)]])]
    let key : Value := .list [.text "number", .text "branch"]
    formOf .integerRange [("range", .text " -12 .. 7")] = .ok (.integerRange (-12) 7) ∧
    formOf .decimal [("digits", .text " 5"), ("fraction", .integer 2)] =
      formOf .decimal [("precision", .integer 5), ("scale", .integer 2)] ∧
    formOf .entity (listed key) = formOf .entity (listed (.text "number, branch")) ∧
    formOf .view [("ancestors", .text "Account")] = formOf .view [("view_of", .text "Account")] ∧
    formOf .entity [("external_id", .bool true)] =
      formOf .entity [("supports_external_id", .bool true)] ∧
    build ⟨.default, true, false⟩ [⟨"entity", listed key⟩] =
      build ⟨.default, true, false⟩ [⟨"entity", marked⟩] ∧
    ∃ c, build ⟨.default, true, false⟩ [⟨"entity", marked⟩] = .ok c ∧ ∃ t ∈ c.types,
      t.body.component?.map ComponentType.naturalKey = some ["branch", "number"] := by
  intro field listed marked key
  obtain ⟨hrange, hdecimal, hnames, hview, hexternal, hkey, hbuilt⟩ := @spellings_read_alike
  have hnone : ∀ c ∈ ([] : List Char), Text.isBlank c = true := List.forall_mem_nil _
  have hblank : ∀ c ∈ [' '], Text.isBlank c = true := List.forall_mem_singleton.2 (by decide)
  have hmarks : FlagsKey marked ["number", "branch"] := by
    have hflagged : flaggedKeys marked = ["branch", "number"] := by rfl
    refine ⟨rfl, fun name => ?_⟩
    rw [← mem_flaggedKeys, hflagged]
    simp [or_comm]
  refine ⟨?_, ?_, ?_, ?_, ?_, ?_, ?_⟩
  · refine hrange (by decide) (by decide) (.range (s := " -12 .. 7") (a := " -12 ".toList)
      (b := " 7".toList) ?_ ?_ rfl ?_ ?_ ?_)
    · exact fun h => absurd h.1 (by decide)
    · exact fun h => absurd h.1 (by decide)
    · decide +kernel
    · exact ⟨_, _, hblank, hblank, by decide +kernel⟩
    · exact ⟨_, _, hblank, hnone, by decide +kernel⟩
  · refine (@hdecimal 5 2 _ (by decide) (by decide) ?_).2 ?_
    · exact .digitsFraction rfl rfl rfl rfl (.text ⟨_, _, hblank, hnone, by decide⟩) .integer
    · exact .precisionScale rfl rfl .integer .integer
  · refine (@hnames ["number", "branch"] "number, branch" "natural_key" _ _ ?_ ?_ (by decide) ?_
      rfl rfl).2.2 .entity
    · simp only [List.forall_mem_cons, List.not_mem_nil, false_implies, implies_true, and_true]
      exact ⟨⟨by decide, by decide, by decide⟩, ⟨by decide, by decide, by decide⟩⟩
    · refine ⟨["number".toList, " branch".toList], .cons ?_ (.cons ?_ .nil), by decide⟩
      · exact ⟨_, _, hnone, hnone, by decide⟩
      · exact ⟨_, _, hblank, hnone, by decide⟩
    · exact agreeBut_of_filter rfl
  · exact hview (agreeBut_of_filter (by rfl)) rfl rfl rfl .view
  · exact hexternal (agreeBut_of_filter (by rfl)) rfl rfl rfl .entity
  · have hsame : SameButKey (listed key) marked :=
      ⟨agreeBut_of_filter rfl, .some (.list (.cons (.node "field" (agreeBut_of_filter rfl))
        (.cons (.node "field" (agreeBut_of_filter rfl)) .nil)))⟩
    refine hkey (.cons (.marks "entity" hsame ⟨rfl, ?_⟩ hmarks ?_) .nil) _
    · simp [listed, field, Properties.nodes, Properties.get?, Dict.lookup, Value.declaration?,
        Properties.flag]
    · simp [TypedField, listed, field, Properties.nodes, Properties.get?, Dict.lookup,
        Value.declaration?, Declaration.name?, Properties.text?, Value.text?]
  · obtain ⟨c, hc⟩ : ∃ c : Catalogue, c = completed (.ofModel .default [⟨"entity", marked⟩]) false :=
      ⟨_, rfl⟩
    have hproblems : problems (.ofModel .default [⟨"entity", marked⟩]) = [] := by decide +kernel
    have hbuild : build ⟨.default, true, false⟩ [⟨"entity", marked⟩] = .ok c := by
      rw [build_eq, hc, hproblems]
      rfl
    obtain ⟨t, ht, hfields⟩ : ∃ t ∈ c.types,
        t.body.component?.map ComponentType.fieldNames = some ["branch", "number"] := by
      rw [hc]
      decide +kernel
    obtain ⟨component, hcomponent, hfields⟩ := Option.map_eq_some_iff.1 hfields
    obtain ⟨d, hd, -, hall⟩ := hbuilt hbuild ht hcomponent
    obtain rfl := List.mem_singleton.1 hd
    refine ⟨c, hbuild, t, ht, ?_⟩
    rw [hcomponent, Option.map_some, (hall _ (.inr hmarks)).1, hfields]
    rfl

end Catalogue

end Cardfile
