import Cardfile.Proofs.EntityLinks

/-! # Relaxed rule bases

A rule base that asks for less lets a declaration win its name earlier, and then a later one of the
same name no longer counts. The name itself is not lost. Which declarations are in order by
themselves only grows, and a name comes out in normal form if one of its declarations is.
-/

namespace Cardfile

/-- A rule base asks for nothing that the other does not ask for. -/
def RuleBase.Relaxes (rules strict : RuleBase) : Prop :=
  ∀ kind, rules.rulesFor kind ⊆ strict.rulesFor kind

/-- Some declarations in their order, each of which has come out in normal form or has failed. The
normal forms and the failures have the same order, and nothing else is among them. -/
inductive Parted : List Fact → List NormalFact → List (Fact × Flaw) → Prop
  | nil : Parted [] [] []
  | normal {fact : Fact} {normal : NormalFact} {facts : List Fact} {normals : List NormalFact}
      {failures : List (Fact × Flaw)} : normal.name = fact.name → normal.kind = fact.kind →
      Parted facts normals failures → Parted (fact :: facts) (normal :: normals) failures
  | failed {fact : Fact} {flaw : Flaw} {facts : List Fact} {normals : List NormalFact}
      {failures : List (Fact × Flaw)} :
      Parted facts normals failures → Parted (fact :: facts) normals ((fact, flaw) :: failures)

/-- What is parted is parted kind by kind. -/
theorem Parted.ofKind {facts : List Fact} {normals : List NormalFact}
    {failures : List (Fact × Flaw)} (h : Parted facts normals failures) (kind : Kind) :
    Parted (facts.filter (·.kind = kind)) (normals.filter (·.kind = kind))
      (failures.filter (·.1.kind = kind)) := by
  induction h with
  | nil => exact .nil
  | @normal fact normal _ _ _ hname hkind _ ih =>
    by_cases hk : fact.kind = kind
    · rw [List.filter_cons_of_pos (by simpa using hk),
        List.filter_cons_of_pos (by simpa [hkind] using hk)]
      exact .normal hname hkind ih
    · rw [List.filter_cons_of_neg (by simpa using hk),
        List.filter_cons_of_neg (by simpa [hkind] using hk)]
      exact ih
  | @failed fact flaw _ _ _ _ ih =>
    by_cases hk : fact.kind = kind
    · rw [List.filter_cons_of_pos (by simpa using hk), List.filter_cons_of_pos (by simpa using hk)]
      exact .failed ih
    · rw [List.filter_cons_of_neg (by simpa using hk), List.filter_cons_of_neg (by simpa using hk)]
      exact ih

variable {rules strict : RuleBase} {facts : List Fact} {fact : Fact} {normal : NormalFact}
  {seen : List String} {name : String} {m : Model}

section Rules

theorem forM_ok_iff {ε α : Type} {f : α → Except ε Unit} {l : List α} :
    l.forM f = .ok () ↔ ∀ a ∈ l, f a = .ok () := by
  refine ⟨forM_ok, fun h => ?_⟩
  induction l with
  | nil => rfl
  | cons a l ih =>
    obtain ⟨hfirst, hrest⟩ := List.forall_mem_cons.1 h
    have hstep : (a :: l).forM f = (f a >>= fun _ => l.forM f) := rfl
    rw [hstep, hfirst]
    exact ih hrest

namespace Review

theorem outcomeOf_eq_ok_iff : outcomeOf rules fact = .ok normal ↔
    fact.normalize = .ok normal ∧ ∀ rule ∈ rules.rulesFor normal.kind,
      rule.check normal.form = .ok () := by
  constructor
  · intro h
    obtain ⟨other, hn, h⟩ := bind_ok h
    obtain ⟨⟨⟩, hc, h⟩ := bind_ok h
    cases h
    exact ⟨hn, forM_ok_iff.1 hc⟩
  · rintro ⟨hn, hc⟩
    have hcheck : rules.check normal = .ok () := forM_ok_iff.2 hc
    unfold outcomeOf
    rw [hn]
    change (rules.check normal >>= fun _ => pure normal) = _
    rw [hcheck]
    rfl

/-- A declaration that is in order by itself stays so if less is asked. -/
theorem outcomeOf_of_relaxes (h : rules.Relaxes strict) (ho : outcomeOf strict fact = .ok normal) :
    outcomeOf rules fact = .ok normal := by
  obtain ⟨hn, hc⟩ := outcomeOf_eq_ok_iff.1 ho
  exact outcomeOf_eq_ok_iff.2 ⟨hn, fun rule hm => hc rule (h _ hm)⟩

end Review

end Rules

namespace Review

section Names

/-- A name that is not taken yet comes out in normal form if one of its declarations is in order by
itself. -/
theorem mem_names_ofFacts : name ∈ (ofFacts rules seen facts).normalFacts.map NormalFact.name ↔
    name ∉ seen ∧ ∃ fact ∈ facts, ∃ normal, outcomeOf rules fact = .ok normal ∧
      normal.name = name := by
  constructor
  · intro h
    obtain ⟨normal, hm, rfl⟩ := List.mem_map.1 h
    obtain ⟨reviewed, hr, ho⟩ := exists_reviewed hm
    obtain ⟨houtcome, hfree⟩ := outcomeOf_of_mem hr ho
    have hfact : reviewed.fact ∈ (ofFacts rules seen facts).map Reviewed.fact :=
      List.mem_map_of_mem hr
    rw [map_fact_ofFacts] at hfact
    exact ⟨hfree, reviewed.fact, hfact, normal, houtcome, rfl⟩
  · -- the first declaration of the name that is in order finds the name free
    rintro ⟨hfree, fact, hm, normal, ho, hname⟩
    induction facts generalizing seen with
    | nil => cases hm
    | cons first rest ih =>
      rw [ofFacts]
      cases hf : outcomeOf rules first with
      | error flaw =>
        rcases List.mem_cons.1 hm with rfl | hm
        · rw [hf] at ho
          cases ho
        · exact ih hfree hm
      | ok other =>
        dsimp only
        by_cases hother : other.name = name
        · rw [if_neg (by simpa [hother] using hfree)]
          exact List.mem_map.2 ⟨other, List.mem_cons_self, hother⟩
        · have hrest : fact ∈ rest := by
            rcases List.mem_cons.1 hm with rfl | hm
            · rw [hf] at ho
              cases ho
              exact absurd hname hother
            · exact hm
          split
          · exact ih hfree hrest
          · have hstill : name ∉ other.name :: seen :=
              List.not_mem_cons_of_ne_of_not_mem (Ne.symm hother) hfree
            exact List.mem_cons_of_mem _ (ih hstill hrest)

theorem mem_normalFacts_of_nodup (hn : (m.facts.map Fact.name).Nodup) :
    normal ∈ (ofModel rules m).normalFacts ↔
      ∃ fact ∈ m.facts, outcomeOf rules fact = .ok normal := by
  refine ⟨exists_outcomeOf, ?_⟩
  rintro ⟨fact, hm, ho⟩
  unfold ofModel
  rw [ofFacts_of_nodup hn fun _ _ => List.not_mem_nil]
  exact mem_normalFacts (List.mem_map_of_mem hm) ho

end Names

/-- Each declaration of a review is among the normal forms or among the failures. -/
theorem parted_ofFacts (rules : RuleBase) (seen : List String) (facts : List Fact) :
    Parted facts (ofFacts rules seen facts).normalFacts (ofFacts rules seen facts).failures := by
  induction facts generalizing seen with
  | nil => exact .nil
  | cons fact rest ih =>
    obtain ⟨outcome, seen', he, -, -, hok⟩ := ofFacts_cons rules seen fact rest
    rw [he]
    cases outcome with
    | error flaw => exact .failed (ih seen')
    | ok normal =>
      obtain ⟨hname, hkind, -⟩ := normalize_ok (outcomeOf_ok (hok normal rfl).1)
      exact .normal hname hkind (ih seen')

/-- Under a relaxed rule base no name is lost. Under any rule base the names are different, and
each declaration of a kind is in normal form or has failed. If the declarations have different names
their normal forms stay the same. -/
theorem relaxing_keeps_names (h : rules.Relaxes strict) (m : Model) :
    (ofModel strict m).normalFacts.map NormalFact.name ⊆
      (ofModel rules m).normalFacts.map NormalFact.name ∧
    (∀ base : RuleBase, ((ofModel base m).normalFacts.map NormalFact.name).Nodup ∧
      ∀ kind, Parted (m.facts.filter (·.kind = kind)) ((ofModel base m).normalOfKind kind)
        ((ofModel base m).failures.filter (·.1.kind = kind))) ∧
    ((m.facts.map Fact.name).Nodup →
      (ofModel strict m).normalFacts ⊆ (ofModel rules m).normalFacts) := by
  refine ⟨fun name hm => ?_, fun base => ⟨nodup_ofFacts base [] m.facts, fun kind =>
    (parted_ofFacts base [] m.facts).ofKind kind⟩, fun hn normal hm => ?_⟩
  · obtain ⟨hfree, fact, hf, normal, ho, hname⟩ := mem_names_ofFacts.1 hm
    exact mem_names_ofFacts.2 ⟨hfree, fact, hf, normal, outcomeOf_of_relaxes h ho, hname⟩
  · obtain ⟨fact, hf, ho⟩ := (mem_normalFacts_of_nodup hn).1 hm
    exact (mem_normalFacts_of_nodup hn).2 ⟨fact, hf, outcomeOf_of_relaxes h ho⟩

/-- Relaxed, an entity with an untyped field wins its name, and the component that had it before
fails. With names of their own both are in normal form. -/
theorem relaxing_keeps_names_of_untyped :
    let untyped := Value.node "field" [("name", .text "x")]
    let typed := Value.node "field" [("name", .text "x"), ("type", .text "string")]
    let entity : Declaration := ⟨"entity", [("name", .text "A"), ("fields", .list [untyped])]⟩
    let component := fun name : String => (⟨"component", [("name", .text name),
      ("fields", .list [typed])]⟩ : Declaration)
    let kinds := fun rules m => (ofModel rules m).normalFacts.map NormalFact.kind
    RuleBase.permissive.Relaxes .default ∧
      kinds .default [entity, component "A"] = [.component] ∧
      kinds .permissive [entity, component "A"] = [.entity] ∧
      (ofModel .default [entity, component "A"]).normalFacts.map NormalFact.name ⊆
        (ofModel .permissive [entity, component "A"]).normalFacts.map NormalFact.name ∧
      kinds .permissive [entity, component "B"] = [.entity, .component] ∧
      (ofModel .default [entity, component "B"]).normalFacts ⊆
        (ofModel .permissive [entity, component "B"]).normalFacts := by
  have hrelaxes : RuleBase.permissive.Relaxes .default := fun kind rule hm => by
    cases kind <;> cases rule <;> revert hm <;> decide
  intro untyped typed entity component kinds
  exact ⟨hrelaxes, by decide +kernel, by decide +kernel, (relaxing_keeps_names hrelaxes _).1,
    by decide +kernel, (relaxing_keeps_names hrelaxes _).2.2 (by decide +kernel)⟩

end Review

end Cardfile
