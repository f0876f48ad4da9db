import Cardfile.Proofs.DeclarationOrder

/-! # Problems

With strict references a model with problems is not read, and without them the problems are told
in the catalogue. There they stand with what is wrong with declared inverses, which is not held
against a model. A model without problems has all its declarations in the catalogue.
-/

namespace Cardfile

/-- What is told of a declaration whose name is taken. -/
def NormalFact.refusal (fact : NormalFact) : Diagnostic :=
  ⟨fact.name, .rejected (.definedType fact.name)⟩

/-- Whether an issue is about a declared inverse. -/
def Issue.isInverse (issue : Issue) : Bool := issue.stage = .link

namespace Catalogue

variable {c d : Catalogue} {fields : List FieldForm} {facts before : List NormalFact}
  {fact : NormalFact} {r : Review}

section Declarations

/-- The name of a declaration leads to the type that it drafts, if it drafts one. -/
def Brings (c : Catalogue) (fact : NormalFact) : Prop :=
  ∀ draft, fact.draft? = some draft →
    ∃ body, c.type? fact.name = some ⟨fact.name, body⟩ ∧ c.Draws body draft

theorem Brings.mono (h : c.Brings fact) (hg : c.Grows d) : d.Brings fact := by
  intro draft hd
  obtain ⟨body, ht, hb⟩ := h draft hd
  exact ⟨body, hg.type? ht, hb.mono hg⟩

theorem type?_push_self (c : Catalogue) (name : String) (body : TypeBody) :
    (c.push name body).type? name = some ⟨name, body⟩ := by
  rw [type?, id?_push, if_pos rfl]
  exact c.getElem?_types_push_self name body

/-- A declaration is told what is wrong with it by itself. It brings in its type, or its name is
taken and it is told so as well. -/
theorem Adds.told (h : c.Adds fields fact d) :
    d.Brings fact ∧ d.diagnostics = c.diagnostics ++ fact.diagnostics ∨
      d.diagnostics = c.diagnostics ++ (fact.diagnostics ++ [fact.refusal]) ∧
        ∃ e id, c.Prepared fields fact.diagnostics e ∧ e.id? fact.name = some id := by
  cases h with
  | nothing hp hnone =>
    refine .inl ⟨fun draft hd => ?_, hp.diagnostics⟩
    rw [hnone] at hd
    cases hd
  | @pushed d body draft hp hd hb hn =>
    refine .inl ⟨fun draft' hd' => ?_, hp.diagnostics⟩
    rw [hd] at hd'
    cases hd'
    exact ⟨body, type?_push_self d fact.name body, hb.mono (grows_push hn body)⟩
  | @refused d _ _ _ hp _ hid =>
    refine .inr ⟨?_, d, _, hp.toPrepared, hid⟩
    change d.diagnostics ++ [fact.refusal] = _
    rw [hp.diagnostics, List.append_assoc]

/-- What some declarations are told while they are added: what is wrong with each by itself, and
that its name is taken, unless it brings in its type. -/
structure Tells (c : Catalogue) (facts : List NormalFact) (told : List Diagnostic) : Prop where
  diagnostics : ∀ fact ∈ facts, fact.diagnostics ⊆ told
  brings : ∀ fact ∈ facts, c.Brings fact ∨ fact.refusal ∈ told
  source : ∀ x ∈ told, ∃ fact ∈ facts, x ∈ fact.diagnostics ∨ x = fact.refusal

theorem Tells.cons {told : List Diagnostic} (h : d.Tells facts told) (hg : c.Grows d)
    {first : List Diagnostic}
    (hf : c.Brings fact ∧ first = fact.diagnostics ∨ first = fact.diagnostics ++ [fact.refusal]) :
    d.Tells (fact :: facts) (first ++ told) where
  diagnostics := by
    refine List.forall_mem_cons.2 ⟨?_, fun other hm => ?_⟩
    · rcases hf with ⟨-, rfl⟩ | rfl
      · exact List.subset_append_left _ _
      · rw [List.append_assoc]
        exact List.subset_append_left _ _
    · exact List.Subset.trans (h.diagnostics other hm) (List.subset_append_right _ _)
  brings := by
    refine List.forall_mem_cons.2 ⟨?_, fun other hm => ?_⟩
    · rcases hf with ⟨hb, -⟩ | rfl
      · exact .inl (hb.mono hg)
      · exact .inr (List.mem_append_left _ (List.mem_append_right _ List.mem_cons_self))
    · exact (h.brings other hm).imp_right (List.mem_append_right _)
  source x hx := by
    rcases List.mem_append.1 hx with hx | hx
    · refine ⟨fact, List.mem_cons_self, ?_⟩
      rcases hf with ⟨-, rfl⟩ | rfl
      · exact .inl hx
      · exact (List.mem_append.1 hx).imp_right List.mem_singleton.1
    · obtain ⟨other, hm, ho⟩ := h.source x hx
      exact ⟨other, List.mem_cons_of_mem _ hm, ho⟩

theorem Drafted.tells_addAll (h : c.Drafted fields before)
    (hf : ∀ fact ∈ facts, fact.fields ⊆ fields) :
    c.Grows (facts.foldl addFact c) ∧ ∃ told,
      (facts.foldl addFact c).diagnostics = c.diagnostics ++ told ∧
        (facts.foldl addFact c).Tells facts told := by
  induction facts generalizing c before with
  | nil =>
    exact ⟨grows_refl c, [], (List.append_nil _).symm, fun _ hm => absurd hm List.not_mem_nil,
      fun _ hm => absurd hm List.not_mem_nil, fun _ hm => absurd hm List.not_mem_nil⟩
  | cons fact rest ih =>
    obtain ⟨hfirst, hrest⟩ := List.forall_mem_cons.1 hf
    have hadds := adds_addFact h.toRegistered hfirst
    obtain ⟨hgrows, told, hd, htells⟩ := ih (hadds.drafted h) hrest
    refine ⟨hadds.grows.trans hgrows, ?_⟩
    rcases hadds.told with ⟨hbrings, htold⟩ | ⟨htold, -⟩
    · refine ⟨fact.diagnostics ++ told, ?_, htells.cons hgrows (.inl ⟨hbrings, rfl⟩)⟩
      rw [← List.append_assoc, ← htold]
      exact hd
    · refine ⟨fact.diagnostics ++ [fact.refusal] ++ told, ?_, htells.cons hgrows (.inr rfl)⟩
      rw [← List.append_assoc, ← htold]
      exact hd

/-- In the end a type has the references of its draft settled. -/
theorem Brings.type?_resolvePending (h : c.Brings fact) {draft : Draft}
    (hd : fact.draft? = some draft) :
    c.resolvePending.1.type? fact.name =
      some ⟨fact.name, draft c.resolvePending.1.final⟩ := by
  obtain ⟨body, ht, hb⟩ := h draft hd
  obtain ⟨id, hid, hplace⟩ := Option.bind_eq_some_iff.1 ht
  refine Option.bind_eq_some_iff.2 ⟨id, hid, ?_⟩
  change (c.types.map (NamedType.mapReferences (settle c.names)))[id]? = _
  rw [List.getElem?_map, hplace, Option.map_some, NamedType.mapReferences, hb c.reads_settle]
  rfl

end Declarations

section Problems

/-- What is told of the declarations of a model: which have failed, and then what is told to those
that come out in normal form. -/
theorem tells_sketch (r : Review) :
    ∃ told, (sketch r).diagnostics = r.failureDiagnostics ++ told ∧
      (sketch r).Tells r.arranged told :=
  ((sketched_start r _).toDrafted.tells_addAll (fields_of_arranged r)).2

/-- If nothing is told of the declarations of a model, all have come out in normal form, and each
has brought in its type. -/
theorem brings_sketch (h : (sketch r).diagnostics = []) :
    r.failures = [] ∧
      ∀ fact ∈ r.normalFacts, fact.diagnostics = [] ∧ (sketch r).Brings fact := by
  obtain ⟨told, hd, htells⟩ := tells_sketch r
  obtain ⟨hfailures, rfl⟩ := List.append_eq_nil_iff.1 (hd.symm.trans h)
  refine ⟨List.map_eq_nil_iff.1 hfailures, fun fact hm => ?_⟩
  have harranged := r.arranged_perm.mem_iff.2 hm
  exact ⟨List.subset_nil.1 (htells.diagnostics fact harranged),
    (htells.brings fact harranged).resolve_right List.not_mem_nil⟩

theorem stage_sketch (r : Review) :
    ∀ x ∈ (sketch r).diagnostics, x.issue.stage = .declaration := by
  obtain ⟨told, hd, htells⟩ := tells_sketch r
  intro x hx
  rw [hd] at hx
  rcases List.mem_append.1 hx with hx | hx
  · obtain ⟨failure, -, rfl⟩ := List.mem_map.1 hx
    rfl
  · obtain ⟨fact, -, hx | rfl⟩ := htells.source x hx
    · exact stage_diagnostics fact x hx
    · rfl

/-- No problem is about an inverse. -/
theorem isInverse_problems (r : Review) : ∀ x ∈ problems r, x.issue.isInverse = false := by
  intro x hx
  have hstage : x.issue.stage ≠ .link := by
    rcases List.mem_append.1 hx with hx | hx
    · have hsketch : x ∈ (sketch r).diagnostics := hx
      rw [stage_sketch r x hsketch]
      decide
    · rcases List.mem_append.1 hx with hx | hx
      · obtain ⟨t, -, ht⟩ := List.mem_flatMap.1 hx
        rw [stage_danglingDiagnostics t x ht]
        decide
      · rw [stage_checks _ x hx]
        decide
  exact decide_eq_false hstage

theorem isInverse_linkDiagnostics (c : Catalogue) (links : List Link) :
    ∀ x ∈ links.flatMap c.linkDiagnostics, x.issue.isInverse = true := by
  intro x hx
  obtain ⟨link, -, hl⟩ := List.mem_flatMap.1 hx
  rw [Issue.isInverse, stage_linkDiagnostics c link x hl]
  rfl

/-- The problems of a model are what its catalogue tells of anything but inverses. -/
theorem filter_diagnostics_completed (r : Review) (failOnOpen : Bool) :
    (completed r failOnOpen).diagnostics.filter (!·.issue.isInverse) = problems r := by
  have hproblems : (problems r).filter (!·.issue.isInverse) = problems r :=
    List.filter_eq_self.2 fun x hx => by rw [isInverse_problems r x hx]; rfl
  have hlinks : (r.links.flatMap (resolved r).linkDiagnostics).filter (!·.issue.isInverse) = [] :=
    List.filter_eq_nil_iff.2 fun x hx => by rw [isInverse_linkDiagnostics _ _ x hx]; decide
  change List.filter _ (problems r ++ _) = _
  rw [List.filter_append, hproblems, hlinks, List.append_nil]

/-- What a catalogue tells of declarations was told while they were added. -/
theorem mem_sketch_of_stage {x : Diagnostic} {failOnOpen : Bool}
    (hx : x ∈ (completed r failOnOpen).diagnostics) (hs : x.issue.stage = .declaration) :
    x ∈ (sketch r).diagnostics := by
  rcases List.mem_append.1 hx with hx | hx
  · rcases List.mem_append.1 hx with hx | hx
    · exact hx
    · rcases List.mem_append.1 hx with hx | hx
      · obtain ⟨t, -, ht⟩ := List.mem_flatMap.1 hx
        rw [stage_danglingDiagnostics t x ht] at hs
        cases hs
      · rw [stage_checks _ x hx] at hs
        cases hs
  · obtain ⟨link, -, hl⟩ := List.mem_flatMap.1 hx
    rw [stage_linkDiagnostics _ link x hl] at hs
    cases hs

/-- A rejection was told to a declaration in normal form. -/
theorem told_of_rejected {x : Diagnostic} {cause : Error} {failOnOpen : Bool}
    (hx : x ∈ (completed r failOnOpen).diagnostics) (hc : x.issue = .rejected cause) :
    ∃ fact ∈ r.normalFacts, x ∈ fact.diagnostics ∨ x = fact.refusal := by
  obtain ⟨told, hd, htells⟩ := tells_sketch r
  have hsketch := mem_sketch_of_stage hx (by rw [hc]; rfl)
  rw [hd] at hsketch
  rcases List.mem_append.1 hsketch with hf | ht
  · obtain ⟨failure, -, rfl⟩ := List.mem_map.1 hf
    cases hc
  · obtain ⟨fact, hm, hsource⟩ := htells.source x ht
    exact ⟨fact, r.arranged_perm.mem_iff.1 hm, hsource⟩

/-- By itself a declaration is rejected for a path of its labels or for its pattern. -/
theorem rejected_of_diagnostics {x : Diagnostic} {cause : Error} (hx : x ∈ fact.diagnostics)
    (hc : x.issue = .rejected cause) : x.subject = fact.name ∧
      ((∃ levels labels finalized, fact.form = .hierarchy levels labels finalized ∧
          cause ∈ (Hierarchy.empty levels).refusals (Label.leafPathsOfAll labels)) ∨
        ∃ pattern maxLength, fact.form = .stringPattern pattern maxLength ∧
          StringPattern.ofText pattern maxLength = .error cause) := by
  obtain ⟨issue, hi, rfl⟩ := List.mem_map.1 hx
  dsimp only at hc
  subst hc
  refine ⟨rfl, ?_⟩
  obtain ⟨name, kind, form⟩ := fact
  cases form with
  | component form =>
    rcases List.mem_append.1 hi with hi | hi
    · obtain ⟨field, -, hf⟩ := List.mem_filterMap.1 hi
      unfold FieldForm.droppedIssue? at hf
      split at hf <;> cases hf
    · obtain ⟨key, -, hk⟩ := List.mem_map.1 hi
      cases hk
  | hierarchy levels labels finalized =>
    obtain ⟨refused, hm, he⟩ := List.mem_map.1 hi
    cases he
    exact .inl ⟨levels, labels, finalized, rfl, hm⟩
  | stringPattern pattern maxLength =>
    refine .inr ⟨pattern, maxLength, rfl, ?_⟩
    unfold NormalFact.issues restriction at hi
    dsimp only at hi
    cases hp : StringPattern.ofText pattern maxLength with
    | error cause =>
      rw [hp] at hi
      cases List.mem_singleton.1 hi
      rfl
    | ok p =>
      rw [hp] at hi
      cases hi
  | _ => cases hi

/-- Without strict references a model is always read. With them it is read to the same catalogue if
this tells of nothing but inverses, and all else that it tells is held against the model. -/
theorem build_strict_eq (rules : RuleBase) (failOnOpen : Bool) (m : Model) :
    ∃ c, build ⟨rules, false, failOnOpen⟩ m = .ok c ∧
      build ⟨rules, true, failOnOpen⟩ m =
        if c.diagnostics.all (·.issue.isInverse) then .ok c
        else .error (.modelProblems
          ((c.diagnostics.filter (!·.issue.isInverse)).map Diagnostic.text)) := by
  refine ⟨completed (.ofModel rules m) failOnOpen, build_eq ⟨rules, false, failOnOpen⟩ m, ?_⟩
  have hstrict := build_eq ⟨rules, true, failOnOpen⟩ m
  have hfilter := filter_diagnostics_completed (.ofModel rules m) failOnOpen
  have hall : (completed (.ofModel rules m) failOnOpen).diagnostics.all (·.issue.isInverse) =
      (problems (.ofModel rules m)).isEmpty := by
    rw [← hfilter, Bool.eq_iff_iff, List.all_eq_true, List.isEmpty_iff, List.filter_eq_nil_iff]
    simp
  rw [hstrict, hfilter, hall]
  cases (problems (.ofModel rules m)).isEmpty <;> rfl

/-- A declared inverse that is not there is told, and yet the model is read with strict
references. -/
theorem build_strict_beside_diagnostics :
    let name := Value.node "field" [("name", .text "name"), ("type", .text "string")]
    let customer := Value.node "field" [("name", .text "customer"), ("type", .text "Customer"),
      ("inverse", .text "orders")]
    let m : Model := [
      ⟨"entity", [("name", .text "Customer"), ("fields", .list [name])]⟩,
      ⟨"entity", [("name", .text "Order"), ("fields", .list [customer])]⟩]
    ∃ c, build ⟨.default, true, false⟩ m = .ok c ∧ build ⟨.default, false, false⟩ m = .ok c ∧
      c.diagnostics = [⟨"Order.customer", .inverseMissing "orders" "Customer"⟩] := by
  intro name customer m
  have hnone : (ofReview (.ofModel .default m)).diagnostics = [] := by decide +kernel
  have hbuild : ∀ strict, build ⟨.default, strict, false⟩ m =
      .ok { (ofReview (.ofModel .default m)).inferAll (Review.ofModel .default m).links with
        failOnOpen := false } := by
    intro strict
    unfold build
    dsimp only
    rw [hnone, List.isEmpty_nil, Bool.not_true, Bool.and_false]
    rfl
  exact ⟨_, hbuild true, hbuild false, by decide +kernel⟩

end Problems

end Catalogue

end Cardfile
