import Cardfile.Proofs.Collections
import Cardfile.Review

/-! # Reviewing

Normal forms fit their kinds. When no two declarations have one name, each is reviewed by itself,
and the order of a model only reorders what comes of it.
-/

namespace Cardfile

/-- Whether a form is one for declarations of a kind. -/
def Form.fits : Form → Kind → Bool
  | decimal _ _, kind => kind = .decimal
  | integerRange _ _, kind => kind = .integerRange
  | realRange _ _, kind => kind = .realRange
  | stringPattern _ _, kind => kind = .stringPattern
  | dateRange _ _, kind => kind = .dateRange
  | timeRange _ _, kind => kind = .timeRange
  | enumeration _ _, kind => kind = .enumeration
  | hierarchy _ _ _, kind => kind = .hierarchy
  | component _, kind => kind.isComponent

/-- What holds of a result, if there is one. -/
def Gives {ε α : Type} (x : Except ε α) (P : α → Prop) : Prop := ∀ a, x = .ok a → P a

section Gives

variable {ε α β : Type} {P : β → Prop}

theorem gives_pure {b : β} (h : P b) : Gives (.ok b : Except ε β) P := by
  intro a ha
  cases ha
  exact h

theorem gives_bind {x : Except ε α} {f : α → Except ε β} (h : ∀ a, Gives (f a) P) :
    Gives (x >>= f) P := by
  cases x with
  | error e => exact fun _ hb => by cases hb
  | ok a => exact h a

theorem gives_map {x : Except ε α} {f : α → β} (h : ∀ a, P (f a)) : Gives (x.map f) P := by
  cases x with
  | error e => exact fun _ hb => by cases hb
  | ok a => exact gives_pure (h a)

end Gives

section Forms

variable {kind : Kind}

theorem fits_patternForm (p : Properties) :
    Gives (patternForm p) fun form => form.fits .stringPattern = true := by
  refine gives_bind fun pattern => ?_
  split
  · exact gives_pure rfl
  · exact gives_bind fun n => gives_bind fun length => gives_pure rfl

theorem fits_componentForm (p : Properties) (hk : kind.isComponent = true) :
    Gives (componentForm p) fun form => form.fits kind = true := by
  unfold componentForm
  dsimp only
  split <;> exact gives_bind fun fields => gives_pure hk

theorem fits_hierarchyForm (p : Properties) :
    Gives (hierarchyForm p) fun form => form.fits .hierarchy = true := by
  refine gives_bind fun levels => ?_
  dsimp only
  split <;> exact gives_bind fun labels => gives_pure rfl

theorem fits_formOf (kind : Kind) (p : Properties) :
    Gives (formOf kind p) fun form => form.fits kind = true := by
  cases kind with
  | decimal => exact gives_bind fun _ => gives_bind fun _ => gives_bind fun _ => gives_pure rfl
  | integerRange => exact gives_map fun _ => rfl
  | realRange => exact gives_map fun _ => rfl
  | stringPattern => exact fits_patternForm p
  | dateRange | timeRange =>
    exact gives_bind fun _ => gives_bind fun _ => gives_bind fun _ => gives_bind fun _ =>
      gives_pure rfl
  | enumeration => exact gives_bind fun _ => gives_pure rfl
  | hierarchy => exact fits_hierarchyForm p
  | _ => exact fits_componentForm p rfl

theorem normalize_ok {fact : Fact} {normal : NormalFact} (h : fact.normalize = .ok normal) :
    normal.name = fact.name ∧ normal.kind = fact.kind ∧ normal.form.fits normal.kind = true := by
  unfold Fact.normalize at h
  split at h
  · cases h
  · cases hf : formOf fact.kind fact.properties with
    | error flaw =>
      rw [hf] at h
      cases h
    | ok form =>
      rw [hf] at h
      cases h
      exact ⟨rfl, rfl, fits_formOf _ _ form hf⟩

end Forms

namespace Review

variable {rules : RuleBase} {facts facts' : List Fact} {fact : Fact} {normal : NormalFact}
  {seen : List String} {reviewed : Reviewed} {r : Review}

theorem outcomeOf_ok (h : outcomeOf rules fact = .ok normal) : fact.normalize = .ok normal := by
  unfold outcomeOf at h
  cases hn : fact.normalize with
  | error flaw =>
    rw [hn] at h
    cases h
  | ok other =>
    rw [hn] at h
    cases hc : rules.check other with
    | error flaw =>
      have he : (rules.check other >>= fun _ => pure other : Except Flaw NormalFact) =
          .ok normal := h
      rw [hc] at he
      cases he
    | ok u =>
      have he : (rules.check other >>= fun _ => pure other : Except Flaw NormalFact) =
          .ok normal := h
      rw [hc] at he
      exact he

theorem name_of_ok (h : outcomeOf rules fact = .ok normal) : normal.name = fact.name :=
  (normalize_ok (outcomeOf_ok h)).1

/-- A review goes on with a declaration after which its name is taken, if it is in order. -/
theorem ofFacts_cons (rules : RuleBase) (seen : List String) (fact : Fact) (facts : List Fact) :
    ∃ outcome seen', ofFacts rules seen (fact :: facts) =
        ⟨fact, outcome⟩ :: ofFacts rules seen' facts ∧ seen ⊆ seen' ∧
      (∀ normal, outcomeOf rules fact = .ok normal → normal.name ∈ seen') ∧
        ∀ normal, outcome = .ok normal →
          outcomeOf rules fact = .ok normal ∧ normal.name ∉ seen := by
  rw [ofFacts]
  cases ho : outcomeOf rules fact with
  | error flaw =>
    refine ⟨_, seen, rfl, List.Subset.refl _, fun _ h => ?_, fun _ h => ?_⟩ <;> cases h
  | ok normal =>
    dsimp only
    split
    · next htaken =>
      have hseen : normal.name ∈ seen := by simpa using htaken
      refine ⟨_, _, rfl, List.Subset.refl _, fun _ h => ?_, fun _ h => by cases h⟩
      cases h
      exact hseen
    · next hnew =>
      have hseen : normal.name ∉ seen := by simpa using hnew
      refine ⟨_, _, rfl, List.subset_cons_self _ _, fun _ h => ?_, fun _ h => ?_⟩
      · cases h
        exact List.mem_cons_self
      · cases h
        exact ⟨rfl, hseen⟩

theorem map_fact_ofFacts (rules : RuleBase) (seen : List String) (facts : List Fact) :
    (ofFacts rules seen facts).map Reviewed.fact = facts := by
  induction facts generalizing seen with
  | nil => rfl
  | cons fact rest ih =>
    obtain ⟨outcome, seen', he, -⟩ := ofFacts_cons rules seen fact rest
    rw [he, List.map_cons, ih]

/-- A declaration that comes out in normal form is in order by itself, under a new name. -/
theorem outcomeOf_of_mem (h : reviewed ∈ ofFacts rules seen facts)
    (ho : reviewed.outcome = .ok normal) :
    outcomeOf rules reviewed.fact = .ok normal ∧ normal.name ∉ seen := by
  induction facts generalizing seen with
  | nil => cases h
  | cons fact rest ih =>
    obtain ⟨outcome, seen', he, hsub, -, hnew⟩ := ofFacts_cons rules seen fact rest
    rw [he] at h
    rcases List.mem_cons.1 h with rfl | h
    · exact hnew normal ho
    · exact (ih h).imp_right fun hfree hm => hfree (hsub hm)

theorem mem_normalFacts (h : reviewed ∈ r) (ho : reviewed.outcome = .ok normal) :
    normal ∈ r.normalFacts :=
  List.mem_filterMap.2 ⟨reviewed, h, by rw [ho]; rfl⟩

theorem exists_reviewed (h : normal ∈ r.normalFacts) :
    ∃ reviewed ∈ r, reviewed.outcome = .ok normal := by
  obtain ⟨reviewed, hm, ho⟩ := List.mem_filterMap.1 h
  refine ⟨reviewed, hm, ?_⟩
  cases hout : reviewed.outcome with
  | error flaw =>
    rw [hout] at ho
    cases ho
  | ok other =>
    rw [hout] at ho
    cases ho
    rfl

/-- A normal form in a review is the outcome for a declaration. -/
theorem exists_outcomeOf (h : normal ∈ (ofFacts rules seen facts).normalFacts) :
    ∃ fact ∈ facts, outcomeOf rules fact = .ok normal := by
  obtain ⟨reviewed, hm, ho⟩ := exists_reviewed h
  have hfact : reviewed.fact ∈ (ofFacts rules seen facts).map Reviewed.fact :=
    List.mem_map_of_mem hm
  rw [map_fact_ofFacts] at hfact
  exact ⟨reviewed.fact, hfact, (outcomeOf_of_mem hm ho).1⟩

theorem fits_of_mem (h : normal ∈ (ofFacts rules seen facts).normalFacts) :
    normal.form.fits normal.kind = true :=
  have ⟨_, _, ho⟩ := exists_outcomeOf h
  (normalize_ok (outcomeOf_ok ho)).2.2

/-- Declarations with different names are reviewed each by itself. -/
theorem ofFacts_of_nodup (hn : (facts.map Fact.name).Nodup)
    (hs : ∀ fact ∈ facts, fact.name ∉ seen) :
    ofFacts rules seen facts = facts.map fun fact => ⟨fact, outcomeOf rules fact⟩ := by
  induction facts generalizing seen with
  | nil => rfl
  | cons fact rest ih =>
    obtain ⟨hfirst, hrest⟩ := List.forall_mem_cons.1 hs
    rw [List.map_cons, List.nodup_cons] at hn
    unfold ofFacts
    cases ho : outcomeOf rules fact with
    | error flaw => rw [List.map_cons, ho, ih hn.2 hrest]
    | ok normal =>
      have hname := (normalize_ok (outcomeOf_ok ho)).1
      have hnew : seen.contains normal.name = false := by
        rw [hname]
        simpa using hfirst
      dsimp only
      rw [hnew, if_neg Bool.false_ne_true, List.map_cons, ho, ih hn.2 fun other hm => ?_]
      rw [hname]
      refine List.not_mem_cons_of_ne_of_not_mem (fun he => hn.1 ?_) (hrest other hm)
      exact he ▸ List.mem_map_of_mem hm

end Review

section Order

/-- A list in groups, each member in the group of its key, is the list in another order. -/
theorem flatMap_filter_perm {α κ : Type} [DecidableEq κ] (f : α → κ) {keys : List κ}
    (hn : keys.Nodup) {l : List α} (h : ∀ a ∈ l, f a ∈ keys) :
    (keys.flatMap fun key => l.filter (f · = key)).Perm l := by
  induction l with
  | nil => simp
  | cons a rest ih =>
    obtain ⟨hfirst, hrest⟩ := List.forall_mem_cons.1 h
    obtain ⟨before, after, rfl⟩ := List.append_of_mem hfirst
    have hne : ∀ key ∈ before ++ after, f a ≠ key := by
      rintro key hk rfl
      exact (List.nodup_middle.1 hn).notMem hk
    have skip : ∀ keys ⊆ before ++ after,
        (keys.flatMap fun key => (a :: rest).filter (f · = key)) =
          keys.flatMap fun key => rest.filter (f · = key) := by
      intro keys hsub
      refine List.flatMap_congr fun key hk => ?_
      rw [List.filter_cons_of_neg]
      simpa using hne key (hsub hk)
    have hperm := ih hrest
    rw [List.flatMap_append, List.flatMap_cons] at hperm ⊢
    rw [skip before (List.subset_append_left _ _), skip after (List.subset_append_right _ _),
      List.filter_cons_of_pos (by simp)]
    exact List.perm_middle.trans (hperm.cons a)

/-- A declaration of a known kind by itself. -/
def Declaration.fact? (d : Declaration) : Option Fact :=
  (Kind.ofName? d.kind).map fun kind => ⟨d.name?.getD "", kind, d.properties⟩

/-- Grouping the declarations of a model by kind only reorders them. -/
theorem Model.facts_perm (m : Model) : m.facts.Perm (m.filterMap Declaration.fact?) := by
  have hgroup : m.facts = (m.kinds.flatMap m.ofKind).filterMap Declaration.fact? := by
    rw [List.filterMap_flatMap]
    refine List.flatMap_congr fun kindName _ => ?_
    have hkind : ∀ d ∈ m.ofKind kindName, d.kind = kindName := fun d hd =>
      of_decide_eq_true (List.mem_filter.1 hd).2
    cases hk : Kind.ofName? kindName with
    | none =>
      symm
      refine List.filterMap_eq_nil_iff.2 fun d hd => ?_
      rw [Declaration.fact?, hkind d hd, hk]
      rfl
    | some kind =>
      dsimp only
      rw [← List.filterMap_eq_map]
      refine List.filterMap_congr fun d hd => ?_
      rw [Declaration.fact?, hkind d hd, hk]
      rfl
  have hperm : (m.kinds.flatMap m.ofKind).Perm m := by
    refine flatMap_filter_perm Declaration.kind (nodup_eraseDups _) fun d hd => ?_
    exact List.mem_eraseDups.2 (List.mem_map_of_mem hd)
  rw [hgroup]
  exact hperm.filterMap _

theorem Model.facts_perm_of_perm {m m' : Model} (h : m.Perm m') : m.facts.Perm m'.facts :=
  m.facts_perm.trans ((h.filterMap _).trans m'.facts_perm.symm)

end Order

end Cardfile
