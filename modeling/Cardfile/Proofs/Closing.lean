import Cardfile.Proofs.Hierarchies

/-! # Types that close

Values are added to an enumeration, and paths to a hierarchy, until it is finalized. Up to then a
value that fits is kept where it comes first. From then on the type refuses values and stays as it
is, and only from then on strict iteration goes through them.
-/

namespace Cardfile

/-- A type whose values are added one by one. -/
structure Collector (σ α : Type) where
  add : σ → α → Except Error σ
  finalize : σ → σ
  all : Bool → σ → Except Error (List α)

def Enumeration.collector : Collector Enumeration String :=
  ⟨Enumeration.add, ValueSet.finalize, Enumeration.all⟩

def Hierarchy.collector : Collector Hierarchy (List String) :=
  ⟨Hierarchy.add, Hierarchy.finalize, Hierarchy.all⟩

namespace Collector

/-- What can be done to such a type. -/
inductive Operation (α : Type)
  | add (value : α)
  | finalize
  deriving DecidableEq

variable {σ α : Type}

/-- The type after an operation, and why the operation fails. -/
def perform (k : Collector σ α) (s : σ) : Operation α → σ × Option Error
  | .add a =>
    match k.add s a with
    | .ok t => (t, none)
    | .error cause => (s, some cause)
  | .finalize => (k.finalize s, none)

def performAll (k : Collector σ α) (s : σ) (ops : List (Operation α)) : σ :=
  ops.foldl (fun s op => (k.perform s op).1) s

/-- The values that fit and are added before the type is finalized, as often as they are added. -/
def accepted (admits : α → Prop) [DecidablePred admits] : List (Operation α) → List α
  | [] => []
  | .add a :: ops => if admits a then a :: accepted admits ops else accepted admits ops
  | .finalize :: _ => []

/-- Why an operation fails after others. That the type is final counts before what is wrong with
the value. -/
def refusal? [DecidableEq α] (admits : α → Prop) [DecidablePred admits]
    (ops : List (Operation α)) : Operation α → Option ErrorKind
  | .add a =>
    if .finalize ∈ ops then some .invalidState
    else if admits a then none
    else some .invalidInput
  | .finalize => none

/-- Each of the values that came, once, and in the order in which they came first. -/
structure Distinct [DecidableEq α] (came values : List α) : Prop where
  nodup : values.Nodup
  mem_iff : ∀ a, a ∈ values ↔ a ∈ came
  ordered : values.Pairwise fun a b => came.idxOf a < came.idxOf b

/-- Whatever is done to a new type, it has the values that were accepted, it refuses what it has to
refuse, and it is final once it is finalized. -/
structure Closes [DecidableEq α] (k : Collector σ α) (admits : α → Prop) [DecidablePred admits]
    (new : σ) : Prop where
  values : ∀ ops, ∃ values,
    k.all false (k.performAll new ops) = .ok values ∧ Distinct (accepted admits ops) values
  refusals : ∀ ops op,
    (k.perform (k.performAll new ops) op).2.map Error.kind = refusal? admits ops op
  unchanged : ∀ ops a,
    (k.perform (k.performAll new ops) (.add a)).2 ≠ none ∨ a ∈ accepted admits ops →
      (k.perform (k.performAll new ops) (.add a)).1 = k.performAll new ops
  final : ∀ ops later, .finalize ∈ ops → k.performAll new (ops ++ later) = k.performAll new ops
  strict : ∀ ops, (∃ cause, k.all true (k.performAll new ops) = .error cause) ↔ .finalize ∉ ops
  same : ∀ ops, .finalize ∈ ops →
    k.all true (k.performAll new ops) = k.all false (k.performAll new ops)

variable {admits : α → Prop} {k : Collector σ α} {wrap : ValueSet α → σ} {s t : ValueSet α}
  {ops later : List (Operation α)} {op : Operation α} {came : List α} {a : α}
  {refused : Option ErrorKind}

section Accepting

variable [DecidablePred admits]

theorem accepted_append_of_final (h : .finalize ∈ ops) :
    accepted admits (ops ++ later) = accepted admits ops := by
  induction ops with
  | nil => cases h
  | cons op ops ih =>
    cases op with
    | add a => simp [accepted, ih (by simpa using h)]
    | finalize => rfl

theorem accepted_append_of_open (h : .finalize ∉ ops) :
    accepted admits (ops ++ later) = accepted admits ops ++ accepted admits later := by
  induction ops with
  | nil => rfl
  | cons op ops ih =>
    cases op with
    | add a =>
      have hrest := ih (by simpa using h)
      by_cases ha : admits a <;> simp [accepted, ha, hrest]
    | finalize => simp at h

end Accepting

section Effects

variable [DecidableEq α]

/-- All that an operation can do to a set of values. -/
inductive Effect (admits : α → Prop) (s : ValueSet α) :
    Operation α → ValueSet α → Option ErrorKind → Prop
  | finalized : Effect admits s .finalize s.finalize none
  | closed {a : α} : s.finalized = true → Effect admits s (.add a) s (some .invalidState)
  | unfit {a : α} : s.finalized = false → ¬ admits a →
    Effect admits s (.add a) s (some .invalidInput)
  | taken {a : α} : s.finalized = false → admits a → Effect admits s (.add a) (s.insert a) none

/-- The type is a set of values with something around it that stays the same. -/
structure Wraps (k : Collector σ α) (admits : α → Prop) (wrap : ValueSet α → σ) : Prop where
  perform : ∀ s op, ∃ t cause, k.perform (wrap s) op = (wrap t, cause) ∧
    Effect admits s op t (cause.map Error.kind)
  all : ∀ {s strict}, strict = false ∨ s.finalized = true → k.all strict (wrap s) = .ok s.values
  strict : ∀ {s}, s.finalized = false → ∃ cause, k.all true (wrap s) = .error cause

/-- What fails, or adds a value once more, does nothing. -/
theorem Effect.eq_of_idle (he : Effect admits s (.add a) t refused)
    (h : refused ≠ none ∨ a ∈ s.values) : t = s := by
  cases he with
  | closed | unfit => rfl
  | taken =>
    rcases h with hn | hm
    · exact absurd rfl hn
    · exact dif_pos hm

theorem Effect.eq_of_finalized (he : Effect admits s op t refused) (h : s.finalized = true) :
    t = s := by
  cases he with
  | finalized => rw [ValueSet.finalize, ← h]
  | closed | unfit => rfl
  | taken hs => simp [h] at hs

theorem Distinct.insert (h : Distinct came s.values) (a : α) :
    Distinct (came ++ [a]) (s.insert a).values := by
  -- a value that came before has its first place where it had it
  have hplace : ∀ {b}, b ∈ s.values → (came ++ [a]).idxOf b = came.idxOf b := fun hb =>
    List.idxOf_append_of_mem ((h.mem_iff _).1 hb)
  have hold : s.values.Pairwise fun b c => (came ++ [a]).idxOf b < (came ++ [a]).idxOf c :=
    h.ordered.imp_of_mem fun hb hc hlt => by rwa [hplace hb, hplace hc]
  refine ⟨(s.insert a).nodup, fun b => ?_, ?_⟩
  · simp [ValueSet.mem_insert, h.mem_iff]
  · unfold ValueSet.insert
    split
    · exact hold
    · next hnew =>
      have hlast : came.length ≤ (came ++ [a]).idxOf a := by
        rw [List.idxOf_append_of_notMem (mt (h.mem_iff a).2 hnew)]
        exact Nat.le_add_right _ _
      refine List.pairwise_append.2 ⟨hold, List.pairwise_singleton _ _, fun b hb c hc => ?_⟩
      obtain rfl := List.mem_singleton.1 hc
      rw [hplace hb]
      exact Nat.lt_of_lt_of_le (List.idxOf_lt_length_of_mem ((h.mem_iff b).1 hb)) hlast

end Effects

section Runs

variable [DecidableEq α] [DecidablePred admits]

/-- The values after some operations. -/
structure Stands (admits : α → Prop) [DecidablePred admits] (ops : List (Operation α))
    (s : ValueSet α) : Prop where
  distinct : Distinct (accepted admits ops) s.values
  finalized : s.finalized = true ↔ .finalize ∈ ops

theorem stands_empty : Stands admits [] (ValueSet.empty : ValueSet α) :=
  ⟨⟨List.nodup_nil, fun _ => Iff.rfl, .nil⟩, by simp [ValueSet.empty]⟩

theorem Stands.notMem_of_open (h : Stands admits ops s) (hs : s.finalized = false) :
    .finalize ∉ ops := by
  simp [← h.finalized, hs]

/-- After one more operation the values are those that are accepted then, and the operation is
refused if it has to be. -/
theorem Stands.step (h : Stands admits ops s) (he : Effect admits s op t refused) :
    Stands admits (ops ++ [op]) t ∧ refused = refusal? admits ops op := by
  cases he with
  | finalized =>
    refine ⟨⟨?_, by simp [ValueSet.finalize]⟩, rfl⟩
    by_cases hf : .finalize ∈ ops
    · simpa [ValueSet.finalize, accepted_append_of_final hf] using h.distinct
    · simpa [ValueSet.finalize, accepted_append_of_open hf, accepted] using h.distinct
  | closed hs =>
    have hf := h.finalized.1 hs
    refine ⟨⟨?_, by simp [h.finalized]⟩, by simp [refusal?, hf]⟩
    simpa [accepted_append_of_final hf] using h.distinct
  | unfit hs ha =>
    have hf := h.notMem_of_open hs
    refine ⟨⟨?_, by simp [h.finalized]⟩, by simp [refusal?, hf, ha]⟩
    simpa [accepted_append_of_open hf, accepted, ha] using h.distinct
  | taken hs ha =>
    have hf := h.notMem_of_open hs
    refine ⟨⟨?_, by simp [h.finalized]⟩, by simp [refusal?, hf, ha]⟩
    simpa [accepted_append_of_open hf, accepted, ha] using h.distinct.insert _

omit [DecidableEq α] in
theorem performAll_append (x : σ) :
    k.performAll x (ops ++ later) = k.performAll (k.performAll x ops) later :=
  List.foldl_append

theorem Wraps.exists_stands (h : k.Wraps admits wrap) (ops : List (Operation α)) :
    ∃ s, k.performAll (wrap ValueSet.empty) ops = wrap s ∧ Stands admits ops s := by
  induction ops using List.reverseRecOn with
  | nil => exact ⟨_, rfl, stands_empty⟩
  | append_singleton ops op ih =>
    obtain ⟨s, hs, hstands⟩ := ih
    obtain ⟨t, cause, hp, he⟩ := h.perform s op
    refine ⟨t, ?_, (hstands.step he).1⟩
    rw [performAll_append, hs]
    exact congrArg Prod.fst hp

omit [DecidablePred admits] in
theorem Wraps.performAll_of_finalized (h : k.Wraps admits wrap) (hs : s.finalized = true)
    (ops : List (Operation α)) : k.performAll (wrap s) ops = wrap s := by
  induction ops with
  | nil => rfl
  | cons op ops ih =>
    obtain ⟨t, cause, hp, he⟩ := h.perform s op
    obtain rfl := he.eq_of_finalized hs
    rwa [performAll, List.foldl_cons, hp]

theorem Wraps.closes (h : k.Wraps admits wrap) : k.Closes admits (wrap ValueSet.empty) where
  values ops := by
    obtain ⟨s, hs, hstands⟩ := h.exists_stands ops
    rw [hs]
    exact ⟨s.values, h.all (.inl rfl), hstands.distinct⟩
  refusals ops op := by
    obtain ⟨s, hs, hstands⟩ := h.exists_stands ops
    obtain ⟨t, cause, hp, he⟩ := h.perform s op
    rw [hs, hp]
    exact (hstands.step he).2
  unchanged ops a := by
    obtain ⟨s, hs, hstands⟩ := h.exists_stands ops
    obtain ⟨t, cause, hp, he⟩ := h.perform s (.add a)
    rw [hs, hp, ← hstands.distinct.mem_iff]
    intro hidle
    exact congrArg wrap (he.eq_of_idle (by simpa using hidle))
  final ops later hf := by
    obtain ⟨s, hs, hstands⟩ := h.exists_stands ops
    rw [performAll_append, hs]
    exact h.performAll_of_finalized (hstands.finalized.2 hf) later
  strict ops := by
    obtain ⟨s, hs, hstands⟩ := h.exists_stands ops
    rw [hs, ← hstands.finalized, Bool.not_eq_true]
    refine ⟨?_, h.strict⟩
    rintro ⟨cause, hc⟩
    by_contra hfinal
    rw [h.all (.inr (by simpa using hfinal))] at hc
    cases hc
  same ops hf := by
    obtain ⟨s, hs, hstands⟩ := h.exists_stands ops
    rw [hs, h.all (.inl rfl), h.all (.inr (hstands.finalized.2 hf))]

end Runs

end Collector

section Types

open Collector

theorem Enumeration.wraps_id : Enumeration.collector.Wraps (fun _ => True) id where
  perform s op := by
    cases op with
    | finalize => exact ⟨s.finalize, none, rfl, .finalized⟩
    | add value =>
      cases hs : s.finalized with
      | true =>
        refine ⟨s, some (.closedEnumeration value), ?_, .closed hs⟩
        simp [Collector.perform, collector, add, hs]
      | false =>
        refine ⟨s.insert value, none, ?_, .taken hs trivial⟩
        simp [Collector.perform, collector, add, hs]
  all := by
    rintro s strict (rfl | hs)
    · rfl
    · simp [collector, Enumeration.all, hs]
  strict {s} hs := ⟨.openEnumeration, by simp [collector, Enumeration.all, hs]⟩

theorem Hierarchy.wraps_mk (levels : List String) :
    Hierarchy.collector.Wraps (Hierarchy.Admits levels) (Hierarchy.mk levels) where
  perform s op := by
    cases op with
    | finalize => exact ⟨s.finalize, none, rfl, .finalized⟩
    | add path =>
      cases hs : s.finalized with
      | true =>
        refine ⟨s, some (.closedHierarchy path), ?_, .closed hs⟩
        simp [Collector.perform, collector, add, hs]
      | false =>
        by_cases ha : Admits levels path
        · refine ⟨s.insert path, none, ?_, .taken hs ha⟩
          simp [Collector.perform, collector, add_of_admits (h := ⟨levels, s⟩) hs ha]
        · refine ⟨s, some (.pathLength path levels.length), ?_, .unfit hs ha⟩
          simp [Collector.perform, collector, add_of_not_admits (h := ⟨levels, s⟩) hs ha]
  all := by
    rintro s strict (rfl | hs)
    · rfl
    · simp [collector, Hierarchy.all, hs]
  strict {s} hs := ⟨.openHierarchy, by simp [collector, Hierarchy.all, hs]⟩

/-- Enumerations take all values until they are finalized, and hierarchies all paths that have a
label and no more labels than there are levels. They hold what they have taken, each value once and
in the order of first addition. What is refused or is there already changes nothing, and nothing
changes a type that is final. -/
theorem value_sets_close :
    (Enumeration.collector.Closes (fun _ => True) Enumeration.empty ∧
      ∀ ops value, (Enumeration.collector.performAll .empty ops).contains value = true ↔
        value ∈ accepted (fun _ => True) ops) ∧
    ∀ levels, Hierarchy.collector.Closes (Hierarchy.Admits levels) (Hierarchy.empty levels) ∧
      ∀ ops, (Hierarchy.collector.performAll (.empty levels) ops).levels = levels := by
  constructor
  · refine ⟨Enumeration.wraps_id.closes, fun ops value => ?_⟩
    obtain ⟨s, hs, hstands⟩ := Enumeration.wraps_id.exists_stands ops
    have hrun : Enumeration.collector.performAll .empty ops = s := hs
    rw [hrun, ← hstands.distinct.mem_iff]
    exact decide_eq_true_iff
  · intro levels
    have hwraps := Hierarchy.wraps_mk levels
    refine ⟨hwraps.closes, fun ops => ?_⟩
    obtain ⟨s, hs, -⟩ := hwraps.exists_stands ops
    exact congrArg Hierarchy.levels hs

/-- A path that is too long, one that is added twice and one that comes too late. -/
example :
    (Hierarchy.collector.performAll (.empty ["Country", "Region"])
      [.add ["UK", "North", "Leeds"], .add ["UK", "North"], .add ["Eire"], .add ["UK", "North"],
        .finalize, .add ["France"]]).all true = .ok [["UK", "North"], ["Eire"]] :=
  rfl

end Types

end Cardfile
