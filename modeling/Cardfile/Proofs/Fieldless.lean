import Cardfile.Proofs.Faithfulness
import Cardfile.Proofs.Inverses

/-! # Declarations without fields

Such declarations come before all others, so the only names that are taken then are those of basic
types and of one another. Each with a name of its own brings in its type, and nothing but its own
problems is told of it.
-/

namespace Cardfile

theorem NormalFact.fields_of_kind {fact : NormalFact} (hf : fact.form.fits fact.kind = true)
    (hk : fact.kind.isComponent = false) : fact.fields = [] := by
  obtain ⟨name, kind, form⟩ := fact
  cases form with
  | component form =>
    have hcomponent : kind.isComponent = true := hf
    rw [hk] at hcomponent
    cases hcomponent
  | _ => rfl

namespace Catalogue

variable {c d : Catalogue} {name : String} {facts pre post : List NormalFact} {fact : NormalFact}
  {r : Review} {x : Diagnostic} {failOnOpen : Bool}

section Names

/-- Without fields only basic types and declarations take a name. -/
theorem Drafted.id?_of_no_fields (h : c.Drafted [] facts) (hn : Host.ofName? name = none)
    (hf : ∀ fact ∈ facts, fact.name ≠ name) : c.id? name = none := by
  cases hid : c.id? name with
  | none => rfl
  | some id =>
    obtain ⟨t, ht, hname⟩ := h.stands hid
    obtain ⟨draft, ho, -⟩ := h.origin t (List.mem_of_getElem? ht)
    rw [hname, Host.standard_of_none hn] at ho
    cases ho with
    | basic host =>
      rw [host.ofName?_name] at hn
      cases hn
    | declared hm => exact absurd rfl (hf _ hm)
    | collection hm => cases hm

theorem Adds.told_of_free (h : c.Adds [] fact d) (hc : c.Drafted [] facts)
    (hn : Host.ofName? fact.name = none) (hf : ∀ other ∈ facts, other.name ≠ fact.name) :
    d.Brings fact ∧ d.diagnostics = c.diagnostics ++ fact.diagnostics := by
  refine h.told.resolve_right ?_
  rintro ⟨-, e, id, hp, hid⟩
  rw [(hp.drafted hc).id?_of_no_fields hn hf] at hid
  cases hid

theorem subject_of_told (h : x ∈ fact.diagnostics ∨ x = fact.refusal) : x.subject = fact.name := by
  rcases h with hx | rfl
  · obtain ⟨issue, -, rfl⟩ := List.mem_map.1 hx
    rfl
  · rfl

end Names

section Order

/-- The declarations that are added before one without fields have none either. -/
theorem exists_arranged (hr : ∀ fact ∈ r.normalFacts, fact.form.fits fact.kind = true)
    (hm : fact ∈ r.normalFacts) (hk : fact.kind.isComponent = false) :
    ∃ pre post, r.arranged = pre ++ fact :: post ∧ ∀ other ∈ pre, other.fields = [] := by
  let fieldless := Kind.all.filter (!·.isComponent)
  have harranged : r.arranged =
      fieldless.flatMap r.normalOfKind ++ Kind.componentFamily.flatMap r.normalOfKind := by
    rw [← List.flatMap_append]
    rfl
  have hall : ∀ kind : Kind, kind ∈ Kind.all := fun kind => by cases kind <;> decide
  have hfact : fact ∈ fieldless.flatMap r.normalOfKind := by
    refine List.mem_flatMap.2 ⟨fact.kind, List.mem_filter.2 ⟨hall _, ?_⟩, ?_⟩
    · rw [hk]
      rfl
    · exact List.mem_filter.2 ⟨hm, decide_eq_true rfl⟩
  obtain ⟨pre, more, hsplit⟩ := List.append_of_mem hfact
  refine ⟨pre, more ++ Kind.componentFamily.flatMap r.normalOfKind, ?_, fun other ho => ?_⟩
  · rw [harranged, hsplit, List.append_assoc, List.cons_append]
  · have hother : other ∈ fieldless.flatMap r.normalOfKind :=
      hsplit ▸ List.mem_append_left _ ho
    obtain ⟨kind, hkind, hof⟩ := List.mem_flatMap.1 hother
    obtain ⟨hmem, he⟩ := List.mem_filter.1 hof
    rw [← of_decide_eq_true he] at hkind
    exact NormalFact.fields_of_kind (hr other hmem) (by simpa using (List.mem_filter.1 hkind).2)

/-- What is told before a declaration without fields and behind it is told to others. -/
theorem sketch_around (harranged : r.arranged = pre ++ fact :: post)
    (hpre : ∀ other ∈ pre, other.fields = []) (hfields : fact.fields = [])
    (hn : Host.ofName? fact.name = none) (hother : ∀ other ∈ pre, other.name ≠ fact.name) :
    (sketch r).Brings fact ∧ ∃ told rest,
      (sketch r).diagnostics = r.failureDiagnostics ++ told ++ (fact.diagnostics ++ rest) ∧
        (∀ x ∈ told, ∃ other ∈ pre, x.subject = other.name) ∧
          ∀ x ∈ rest, ∃ other ∈ post, x.subject = other.name := by
  let start := basic.diagnoseAll r.failureDiagnostics
  have hsketch : sketch r = post.foldl addFact ((pre.foldl addFact start).addFact fact) := by
    rw [sketch, harranged, List.foldl_append, List.foldl_cons]
  have hall := fields_of_arranged r
  rw [harranged] at hall
  -- up to the declaration there are no fields, and from it on those of all declarations
  have hnone : ∀ other ∈ pre, other.fields ⊆ [] := fun other ho =>
    hpre other ho ▸ List.Subset.refl _
  have hfirst := (sketched_start r []).addAll hnone
  obtain ⟨-, told, hdpre, htold⟩ := (sketched_start r []).toDrafted.tells_addAll hnone
  obtain ⟨hbrings, hdfact⟩ := (adds_addFact hfirst.toRegistered
    (hfields ▸ List.Subset.refl _)).told_of_free hfirst.toDrafted hn fun other ho =>
      hother other (by simpa using ho)
  have hsecond := ((sketched_start r _).addAll fun other ho =>
    hall other (List.mem_append_left _ ho)).add (hall fact (by simp))
  obtain ⟨hgrows, rest, hdpost, hrest⟩ := hsecond.toDrafted.tells_addAll fun other ho =>
    hall other (List.mem_append_right _ (List.mem_cons_of_mem _ ho))
  rw [hsketch]
  refine ⟨hbrings.mono hgrows, told, rest, ?_, fun x hx => ?_, fun x hx => ?_⟩
  · rw [hdpost, hdfact, hdpre, List.append_assoc]
    rfl
  · obtain ⟨other, ho, hx⟩ := htold.source x hx
    exact ⟨other, ho, subject_of_told hx⟩
  · obtain ⟨other, ho, hx⟩ := hrest.source x hx
    exact ⟨other, ho, subject_of_told hx⟩

/-- A declaration without fields brings in its type, and all that is told after the review about
its name is what is wrong with it by itself. -/
theorem brings_of_no_fields (hr : ∀ fact ∈ r.normalFacts, fact.form.fits fact.kind = true)
    (hu : (r.normalFacts.map NormalFact.name).Nodup) (hm : fact ∈ r.normalFacts)
    (hk : fact.kind.isComponent = false) (hn : Host.ofName? fact.name = none) :
    (sketch r).Brings fact ∧ fact.diagnostics ⊆ (sketch r).diagnostics ∧
      ∀ x ∈ (sketch r).diagnostics, x.subject = fact.name →
        x ∈ r.failureDiagnostics ∨ x ∈ fact.diagnostics := by
  obtain ⟨pre, post, harranged, hpre⟩ := exists_arranged hr hm hk
  have hnodup := (r.arranged_perm.map NormalFact.name).nodup_iff.2 hu
  rw [harranged, List.map_append, List.map_cons, List.nodup_middle, List.nodup_cons,
    ← List.map_append] at hnodup
  have hother : ∀ other ∈ pre ++ post, other.name ≠ fact.name := fun other ho he =>
    hnodup.1 (he ▸ List.mem_map_of_mem ho)
  obtain ⟨hbrings, told, rest, hd, htold, hrest⟩ := sketch_around harranged hpre
    (NormalFact.fields_of_kind (hr fact hm) hk) hn fun other ho =>
      hother other (List.mem_append_left _ ho)
  refine ⟨hbrings, ?_, fun x hx hs => ?_⟩
  · rw [hd]
    exact fun x hx => List.mem_append_right _ (List.mem_append_left _ hx)
  · rw [hd] at hx
    rcases List.mem_append.1 hx with hx | hx
    · refine (List.mem_append.1 hx).imp_right fun hx => ?_
      obtain ⟨other, ho, hsubject⟩ := htold x hx
      exact absurd (hsubject.symm.trans hs) (hother other (List.mem_append_left _ ho))
    · refine .inr ((List.mem_append.1 hx).resolve_right fun hx => ?_)
      obtain ⟨other, ho, hsubject⟩ := hrest x hx
      exact absurd (hsubject.symm.trans hs) (hother other (List.mem_append_right _ ho))

end Order

end Catalogue

end Cardfile
