import Cardfile.Proofs.Faithfulness
import Cardfile.Proofs.Inverses

/-! # Accounting

No declaration is lost and no type is invented. Each declaration of a known kind is represented by
the type of its name, or it is told why not; and each type stems from one declaration, unless it is
a basic type or a collection type.
-/

namespace Cardfile

/-- What becomes of a declaration: it is represented in its normal form, or it is told why not. -/
inductive Fate
  | represented (normal : NormalFact)
  | told (why : Diagnostic)

namespace Fate

def isRepresented : Fate → Bool
  | represented _ => true
  | told _ => false

def why? : Fate → Option Diagnostic
  | represented _ => none
  | told why => some why

end Fate

/-- What a declaration in normal form is told if it brings in no type: it drafts none, or its name
is taken. -/
def NormalFact.rejection (fact : NormalFact) : Diagnostic :=
  match Catalogue.restriction fact.form with
  | .error cause => ⟨fact.name, .rejected cause⟩
  | .ok _ => fact.refusal

namespace Catalogue

/-- The kind of the declarations that bring in such a type as has a name. -/
def kindOf? (c : Catalogue) (name : String) : Option Kind := (c.type? name).bind (·.body.kind?)

/-- What becomes of a declaration after its review. -/
def fate (c : Catalogue) (reviewed : Reviewed) : Fate :=
  match reviewed.outcome with
  | .error flaw => .told ⟨reviewed.fact.name, .failedCheck reviewed.fact.kind flaw⟩
  | .ok normal =>
    if (c.kindOf? normal.name).isSome then .represented normal else .told normal.rejection

def fates (c : Catalogue) (r : Review) : List (Fact × Fate) :=
  r.map fun reviewed => (reviewed.fact, c.fate reviewed)

/-- The type of the name of a declaration is of its kind and, relationships apart, is what the
normal form drafts. -/
structure Represents (c : Catalogue) (t : NamedType) (fact : Fact) (normal : NormalFact) :
    Prop where
  type? : c.type? fact.name = some t
  kind : t.body.kind? = some fact.kind
  drafted : ∃ draft, normal.draft? = some draft ∧ t.bare = ⟨fact.name, draft c.final⟩

/-- A full account of the declarations of a model. Of those with one name only the first that is in
order by itself is represented, and each of the others has been told why it is not. -/
structure Accounts (c : Catalogue) (rules : RuleBase) (m : Model) (account : List (Fact × Fate)) :
    Prop where
  facts : account.map Prod.fst = m.facts
  represented : ∀ {fact normal}, (fact, .represented normal) ∈ account →
    Review.outcomeOf rules fact = .ok normal ∧ ∃ t, c.Represents t fact normal
  first : account.Pairwise fun before row => row.2.isRepresented = true →
    before.1.name = row.1.name → ∃ flaw, Review.outcomeOf rules before.1 = .error flaw
  told : ∀ {fact why}, (fact, .told why) ∈ account →
    (∃ flaw, why = ⟨fact.name, .failedCheck fact.kind flaw⟩) ∨
      ∃ cause, why = ⟨fact.name, .rejected cause⟩
  own : (account.filterMap (·.2.why?)).Subperm c.diagnostics
  names : (c.types.map NamedType.name).Nodup
  source : ∀ t ∈ c.types, (∃ host, t = ⟨host.name, .basic host⟩) ∨
    (∃ held, t.body = .collection held) ∨
      c.type? t.name = some t ∧
        account.countP (fun row => row.2.isRepresented && row.1.name = t.name) = 1

end Catalogue

variable {c : Catalogue} {rules : RuleBase} {facts : List Fact} {seen : List String} {fact : Fact}
  {normal : NormalFact} {draft : Draft} {reviewed : Reviewed} {r : Review}
  {t : NamedType} {m : Model}

/-- Before a declaration that comes out in normal form none of its name is in order by itself. -/
theorem Review.pairwise_ofFacts (rules : RuleBase) (seen : List String) (facts : List Fact) :
    (ofFacts rules seen facts).Pairwise fun before reviewed =>
      ∀ normal, reviewed.outcome = .ok normal → before.fact.name = reviewed.fact.name →
        ∃ flaw, outcomeOf rules before.fact = .error flaw := by
  induction facts generalizing seen with
  | nil => exact .nil
  | cons fact rest ih =>
    obtain ⟨outcome, seen', he, -, hok, -⟩ := ofFacts_cons rules seen fact rest
    rw [he]
    refine .cons (fun reviewed hm normal ho hname => ?_) (ih seen')
    obtain ⟨hself, hfree⟩ := outcomeOf_of_mem hm ho
    cases hfact : outcomeOf rules fact with
    | error flaw => exact ⟨flaw, rfl⟩
    | ok other =>
      have htaken := hok other hfact
      rw [name_of_ok hfact, hname, ← name_of_ok hself] at htaken
      exact absurd htaken hfree

namespace NormalFact

theorem rejection_of_draft? {fact : NormalFact} (h : fact.draft? = some draft) :
    fact.rejection = fact.refusal := by
  unfold rejection
  split
  · next cause hr =>
    obtain ⟨name, kind, form⟩ := fact
    cases form with
    | stringPattern pattern maxLength =>
      unfold draft? at h
      dsimp only at h hr
      rw [hr] at h
      cases h
    | _ => cases hr
  · rfl

theorem rejection_mem_diagnostics {fact : NormalFact} (h : fact.draft? = none) :
    fact.rejection ∈ fact.diagnostics := by
  obtain ⟨cause, hr, hissues⟩ := restriction_of_draft? h
  unfold rejection diagnostics
  rw [hr, hissues]
  exact List.mem_cons_self

theorem rejection_eq (fact : NormalFact) :
    ∃ cause, fact.rejection = ⟨fact.name, .rejected cause⟩ := by
  unfold rejection
  split <;> exact ⟨_, rfl⟩

theorem bare_draft {fact : NormalFact} (h : fact.draft? = some draft) (name : String)
    (ref : String → TypeRef) : NamedType.bare ⟨name, draft ref⟩ = ⟨name, draft ref⟩ := by
  rcases Catalogue.draft?_cases h with ⟨form, -, rfl⟩ | ⟨body, hb, rfl⟩
  · obtain ⟨_, kind, _⟩ := fact
    cases kind <;> rfl
  · cases body <;> first | rfl | cases hb

end NormalFact

namespace Catalogue

section Kinds

/-- A type of some kind stems from the declaration of its name. -/
theorem Finished.draft_of_kind {facts : List NormalFact} {fact : NormalFact} {kind : Kind}
    (h : c.FinishedFrom facts) (hn : (facts.map NormalFact.name).Nodup) (hm : fact ∈ facts)
    (ht : c.type? fact.name = some t) (hk : t.body.kind? = some kind) :
    ∃ draft, fact.draft? = some draft ∧ t = ⟨fact.name, draft c.final⟩ := by
  have hname : t.name = fact.name := h.name_of_type? ht fun host hb => by
    rw [hb] at hk
    cases hk
  obtain ⟨draft, ho, hb⟩ := h.origin t (mem_of_type? ht)
  rw [hb] at hk
  obtain ⟨name, body⟩ := t
  dsimp only at ho hb hname
  subst hb hname
  generalize hname : fact.name = name at ho
  cases ho with
  | basic host => cases hk
  | collection => cases hk
  | declared hother hd =>
    obtain rfl := List.inj_on_of_nodup_map hn hm hother hname
    exact ⟨draft, hd, rfl⟩

theorem kindOf?_completed (r : Review) (failOnOpen : Bool) (name : String) :
    (completed r failOnOpen).kindOf? name = (resolved r).kindOf? name := by
  unfold kindOf?
  rw [type?_completed, Option.bind_map]
  exact congrArg _ (funext fun t => kind?_related _ _ t)

/-- A declaration whose name leads to no type of a kind has been told so. -/
theorem rejection_told {told : List Diagnostic} (h : (sketch r).Tells r.arranged told)
    (hm : normal ∈ r.normalFacts) (hf : normal.form.fits normal.kind = true)
    (hk : (resolved r).kindOf? normal.name = none) : normal.rejection ∈ told := by
  have harranged := r.arranged_perm.mem_iff.2 hm
  cases hd : normal.draft? with
  | none => exact h.diagnostics normal harranged (NormalFact.rejection_mem_diagnostics hd)
  | some draft =>
    rw [NormalFact.rejection_of_draft? hd]
    refine (h.brings normal harranged).resolve_left fun hb => ?_
    have ht : (resolved r).type? normal.name = some ⟨normal.name, draft (resolved r).final⟩ :=
      hb.type?_resolvePending hd
    rw [kindOf?, ht, Option.bind_some, kind?_draft hf hd] at hk
    cases hk

theorem registered_completed (r : Review) (failOnOpen : Bool) :
    (completed r failOnOpen).Registered :=
  have h := (finished_resolved r).toRegistered.related r.links []
  ⟨h.leads, h.stands, h.basic⟩

end Kinds

section Fates

theorem mem_fates {fate : Fate} (h : (fact, fate) ∈ c.fates r) :
    ∃ reviewed ∈ r, reviewed.fact = fact ∧ c.fate reviewed = fate := by
  obtain ⟨reviewed, hm, he⟩ := List.mem_map.1 h
  exact ⟨reviewed, hm, congrArg Prod.fst he, congrArg Prod.snd he⟩

theorem outcome_of_represented (h : c.fate reviewed = .represented normal) :
    reviewed.outcome = .ok normal ∧ (c.kindOf? normal.name).isSome = true := by
  unfold fate at h
  cases ho : reviewed.outcome with
  | error flaw =>
    rw [ho] at h
    cases h
  | ok other =>
    rw [ho] at h
    dsimp only at h
    split at h
    · next hk =>
      cases h
      exact ⟨rfl, hk⟩
    · cases h

theorem exists_outcome_of_isRepresented (h : (c.fate reviewed).isRepresented = true) :
    ∃ normal, reviewed.outcome = .ok normal := by
  cases hfate : c.fate reviewed with
  | told why =>
    rw [hfate] at h
    cases h
  | represented normal => exact ⟨normal, (outcome_of_represented hfate).1⟩

theorem represented_of_outcome (ho : reviewed.outcome = .ok normal)
    (hk : (c.kindOf? normal.name).isSome = true) : c.fate reviewed = .represented normal := by
  unfold fate
  rw [ho]
  exact if_pos hk

/-- The declarations that are not represented are those that have failed their review and those
that have been rejected after it. -/
theorem why?_fates (c : Catalogue) (r : Review) :
    ((c.fates r).filterMap (·.2.why?)).Perm (r.failureDiagnostics ++
      (r.normalFacts.filter fun fact => (c.kindOf? fact.name).isNone).map
        NormalFact.rejection) := by
  induction r with
  | nil => exact .nil
  | cons reviewed rest ih =>
    obtain ⟨fact, outcome⟩ := reviewed
    cases outcome with
    | error flaw => exact ih.cons _
    | ok normal =>
      have hfates : c.fates (⟨fact, .ok normal⟩ :: rest) =
          (fact, c.fate ⟨fact, .ok normal⟩) :: c.fates rest := rfl
      have hfailures : Review.failureDiagnostics (⟨fact, .ok normal⟩ :: rest) =
          Review.failureDiagnostics rest := rfl
      have hnormal : Review.normalFacts (⟨fact, .ok normal⟩ :: rest) =
          normal :: Review.normalFacts rest := rfl
      rw [hfates, hfailures, hnormal]
      cases hk : c.kindOf? normal.name with
      | some kind =>
        have hfate : c.fate ⟨fact, .ok normal⟩ = .represented normal :=
          represented_of_outcome rfl (by rw [hk]; rfl)
        rw [hfate, List.filterMap_cons_none rfl, List.filter_cons_of_neg (by simp [hk])]
        exact ih
      | none =>
        have hfate : c.fate ⟨fact, .ok normal⟩ = .told normal.rejection := by
          unfold fate
          dsimp only
          rw [hk]
          rfl
        rw [hfate, List.filter_cons_of_pos (by simp [hk]), List.map_cons]
        exact (ih.cons _).trans List.perm_middle.symm

/-- Each declaration that is not represented has a diagnostic to itself. -/
theorem own_fates (rules : RuleBase) (m : Model) (failOnOpen : Bool) :
    (((completed (.ofModel rules m) failOnOpen).fates (.ofModel rules m)).filterMap
      (·.2.why?)).Subperm (completed (.ofModel rules m) failOnOpen).diagnostics := by
  obtain ⟨told, hd, htells⟩ := tells_sketch (.ofModel rules m)
  have hnodup := Review.nodup_ofFacts rules [] m.facts
  have hprefix : (sketch (.ofModel rules m)).diagnostics <+:
      (completed (.ofModel rules m) failOnOpen).diagnostics :=
    (List.prefix_append _ _).trans (List.prefix_append _ _)
  rw [hd] at hprefix
  refine (why?_fates _ _).subperm.trans (.trans ?_ hprefix.sublist.subperm)
  refine (List.subperm_append_left _).2 (List.subperm_of_subset ?_ fun x hx => ?_)
  · -- in normal form no two declarations share a name, so what each is told has its own subject
    refine .of_map Diagnostic.subject ?_
    rw [List.map_map]
    have hsubject : Diagnostic.subject ∘ NormalFact.rejection = NormalFact.name :=
      funext fun fact => by
        obtain ⟨cause, hr⟩ := fact.rejection_eq
        rw [Function.comp_apply, hr]
    rw [hsubject]
    exact hnodup.sublist (List.filter_sublist.map NormalFact.name)
  · obtain ⟨fact, hm, rfl⟩ := List.mem_map.1 hx
    obtain ⟨hfact, hk⟩ := List.mem_filter.1 hm
    rw [kindOf?_completed, Option.isNone_iff_eq_none] at hk
    exact rejection_told htells hfact (Review.fits_of_mem hfact) hk

end Fates

section Accounts

variable {failOnOpen : Bool}

/-- A declaration that is represented is so by the type of its name. -/
theorem represents_completed (h : (fact, .represented normal) ∈
      (completed (.ofModel rules m) failOnOpen).fates (.ofModel rules m)) :
    Review.outcomeOf rules fact = .ok normal ∧
      ∃ t, (completed (.ofModel rules m) failOnOpen).Represents t fact normal := by
  obtain ⟨reviewed, hm, rfl, hfate⟩ := mem_fates h
  obtain ⟨ho, hk⟩ := outcome_of_represented hfate
  have houtcome := (Review.outcomeOf_of_mem hm ho).1
  have hnormal := Review.mem_normalFacts hm ho
  rw [kindOf?_completed] at hk
  obtain ⟨kind, hkind⟩ := Option.isSome_iff_exists.1 hk
  obtain ⟨u, hu, hkind⟩ := Option.bind_eq_some_iff.1 hkind
  obtain ⟨draft, hd, rfl⟩ := (finished_resolved (.ofModel rules m)).draft_of_kind
    (Review.nodup_ofFacts rules [] m.facts) hnormal hu hkind
  obtain ⟨hname, hfactKind, hfits⟩ := normalize_ok (Review.outcomeOf_ok houtcome)
  have htype := type?_completed (.ofModel rules m) failOnOpen normal.name
  rw [hu, Option.map_some, hname] at htype
  refine ⟨houtcome, _, htype, (kind?_related _ _ _).trans ?_, draft, hd, ?_⟩
  · rw [← hfactKind]
    exact kind?_draft hfits hd _
  · rw [bare_related, NormalFact.bare_draft hd]
    rfl

theorem first_fates (c : Catalogue) (rules : RuleBase) (m : Model) :
    (c.fates (.ofModel rules m)).Pairwise fun before row => row.2.isRepresented = true →
      before.1.name = row.1.name → ∃ flaw, Review.outcomeOf rules before.1 = .error flaw := by
  refine List.pairwise_map.2 ((Review.pairwise_ofFacts rules [] m.facts).imp ?_)
  intro before reviewed hfirst hrow hname
  obtain ⟨normal, ho⟩ := exists_outcome_of_isRepresented hrow
  exact hfirst normal ho hname

/-- Of the declarations with one name at most one is represented. -/
theorem nodup_represented (c : Catalogue) (rules : RuleBase) (m : Model) :
    (((c.fates (.ofModel rules m)).filter (·.2.isRepresented)).map (·.1.name)).Nodup := by
  refine List.pairwise_map.2 (((first_fates c rules m).filter _).imp_of_mem ?_)
  rintro ⟨fact, fate⟩ row hm hrow hfirst hname
  obtain ⟨hm, hfate⟩ := List.mem_filter.1 hm
  obtain ⟨flaw, hflaw⟩ := hfirst (List.mem_filter.1 hrow).2 hname
  obtain ⟨reviewed, hr, rfl, rfl⟩ := mem_fates hm
  obtain ⟨normal, ho⟩ := exists_outcome_of_isRepresented hfate
  rw [(Review.outcomeOf_of_mem hr ho).1] at hflaw
  cases hflaw

theorem countP_represented {c : Catalogue} {name : String}
    (h : (fact, .represented normal) ∈ c.fates (.ofModel rules m)) (hn : fact.name = name) :
    (c.fates (.ofModel rules m)).countP (fun row => row.2.isRepresented && row.1.name = name) =
      1 := by
  have hm : name ∈ ((c.fates (.ofModel rules m)).filter (·.2.isRepresented)).map (·.1.name) :=
    List.mem_map.2 ⟨_, List.mem_filter.2 ⟨h, rfl⟩, hn⟩
  have hone := List.count_eq_one_of_mem (nodup_represented c rules m) hm
  rw [List.count, List.countP_map, List.countP_filter] at hone
  rw [← hone]
  refine List.countP_congr fun row _ => ?_
  simp [and_comm]

theorem told_fates {why : Diagnostic} (h : (fact, .told why) ∈ c.fates (.ofModel rules m)) :
    (∃ flaw, why = ⟨fact.name, .failedCheck fact.kind flaw⟩) ∨
      ∃ cause, why = ⟨fact.name, .rejected cause⟩ := by
  obtain ⟨reviewed, hm, rfl, hfate⟩ := mem_fates h
  unfold fate at hfate
  cases ho : reviewed.outcome with
  | error flaw =>
    rw [ho] at hfate
    cases hfate
    exact .inl ⟨flaw, rfl⟩
  | ok normal =>
    rw [ho] at hfate
    dsimp only at hfate
    split at hfate
    · cases hfate
    · cases hfate
      rw [← Review.name_of_ok (Review.outcomeOf_of_mem hm ho).1]
      exact .inr normal.rejection_eq

/-- A type that is neither basic nor a collection type stems from one declaration. -/
theorem source_completed (ht : t ∈ (completed (.ofModel rules m) failOnOpen).types) :
    (∃ host, t = ⟨host.name, .basic host⟩) ∨ (∃ held, t.body = .collection held) ∨
      (completed (.ofModel rules m) failOnOpen).type? t.name = some t ∧
        ((completed (.ofModel rules m) failOnOpen).fates (.ofModel rules m)).countP
          (fun row => row.2.isRepresented && row.1.name = t.name) = 1 := by
  have hself := (registered_completed (.ofModel rules m) failOnOpen).type?_of_mem ht
  obtain ⟨⟨name, body⟩, hu, rfl⟩ := List.mem_map.1 ht
  have hfinished := finished_resolved (.ofModel rules m)
  obtain ⟨draft, ho, hb⟩ := hfinished.origin _ hu
  dsimp only at ho hb
  subst hb
  cases ho with
  | basic host => exact .inl ⟨host, rfl⟩
  | collection => exact .inr (.inl ⟨_, rfl⟩)
  | @declared fact _ hm hd =>
    obtain ⟨reviewed, hr, hout⟩ := Review.exists_reviewed hm
    have hkind : (completed (.ofModel rules m) failOnOpen).kindOf? fact.name = some fact.kind := by
      have htype := hfinished.type?_of_mem hu
      dsimp only at htype
      rw [kindOf?_completed, kindOf?, htype, Option.bind_some,
        kind?_draft (Review.fits_of_mem hm) hd]
    have hrow := represented_of_outcome hout (by rw [hkind]; rfl)
    have hname := Review.name_of_ok (Review.outcomeOf_of_mem hr hout).1
    have hmem : (reviewed.fact, Fate.represented fact) ∈
        (completed (.ofModel rules m) failOnOpen).fates (.ofModel rules m) :=
      List.mem_map.2 ⟨reviewed, hr, Prod.ext rfl hrow⟩
    exact .inr (.inr ⟨hself, countP_represented hmem hname.symm⟩)

/-- No declaration of a model is lost and no type is invented. -/
theorem build_accounts (rules : RuleBase) (failOnOpen : Bool) (m : Model) :
    m.facts.Perm (m.filterMap Declaration.fact?) ∧
      ∃ c, build ⟨rules, false, failOnOpen⟩ m = .ok c ∧ ∃ account, c.Accounts rules m account := by
  refine ⟨m.facts_perm, _, build_eq ⟨rules, false, failOnOpen⟩ m,
    (completed (.ofModel rules m) failOnOpen).fates (.ofModel rules m), ?_⟩
  have hregistered := registered_completed (.ofModel rules m) failOnOpen
  refine ⟨?_, represents_completed, first_fates _ rules m, told_fates,
    own_fates rules m failOnOpen, hregistered.nodup_names, fun t ht => source_completed ht⟩
  unfold fates
  rw [List.map_map]
  exact Review.map_fact_ofFacts rules [] m.facts

/-- Of three declarations with one name the second is represented: the first has no bounds, and the
third comes late. The last asks for the name of a basic type. -/
example :
    let range := fun (name min : String) => (⟨"integer_range", [("name", .text name),
      ("range", .text (min ++ "..9"))]⟩ : Declaration)
    let r := Review.ofModel .permissive [range "A" "x", range "A" "1", range "A" "2",
      range "int" "1"]
    ((completed r false).fates r).map (·.2.isRepresented) = [false, true, false, false] ∧
      (completed r false).diagnostics.map Diagnostic.subject = ["A", "A", "int"] := by
  decide +kernel

end Accounts

end Catalogue

end Cardfile
