import Cardfile.Pattern.Meaning
import Mathlib.Data.List.Basic

/-! # Matching

What a pattern matches is a relation between the places of a text. The marks that a pattern moves
are the places that it can lead to, also where it is repeated without a bound: each round that does
not come to an end marks a new place.
-/

namespace Cardfile.Pattern

/-- The character before a place, given the one before the text. -/
def before (first : Option Char) (text : List Char) : Nat → Option Char
  | 0 => first
  | i + 1 => text[i]?

/-- Some steps in a row. -/
inductive Times (R : Nat → Nat → Prop) : Nat → Nat → Nat → Prop
  | zero (i : Nat) : Times R 0 i i
  | succ {n i j k : Nat} : R i j → Times R n j k → Times R (n + 1) i k

/-- Whether a pattern can match a text from one place to another. -/
def Spans (text : List Char) : Pattern → Nat → Nat → Prop
  | empty, i, j => i = j
  | set s, i, j => ∃ c, text[i]? = some c ∧ s.contains c = true ∧ j = i + 1
  | condition holds, i, j =>
    i = j ∧ i ≤ text.length ∧ holds (before none text i) text[i]? = true
  | sequence p q, i, j => ∃ k, Spans text p i k ∧ Spans text q k j
  | choice p q, i, j => Spans text p i j ∨ Spans text q i j
  | repetition least most p, i, j =>
    ∃ more, (∀ n, most = some n → more ≤ n - least) ∧ Times (Spans text p) (least + more) i j

/-- Whether a step marks the places that a relation leads to from the places marked before. -/
def Performs (size : Nat) (step : List Bool → List Bool) (R : Nat → Nat → Prop) : Prop :=
  ∀ marks : List Bool, marks.length = size → (step marks).length = size ∧
    ∀ j : Nat, (step marks)[j]? = some true ↔ ∃ i : Nat, marks[i]? = some true ∧ R i j

variable {R S : Nat → Nat → Prop} {size n i j k : Nat} {step next : List Bool → List Bool}
  {marks a b : List Bool} {text : List Char}

section Times

theorem times_zero_iff : Times R 0 i j ↔ i = j :=
  ⟨fun h => by cases h; rfl, fun h => h ▸ .zero i⟩

theorem times_succ_iff : Times R (n + 1) i k ↔ ∃ j, R i j ∧ Times R n j k :=
  ⟨fun h => by cases h with | succ hr ht => exact ⟨_, hr, ht⟩, fun ⟨_, hr, ht⟩ => .succ hr ht⟩

/-- The last of some steps may be taken apart as well as the first. -/
theorem times_succ_iff_last : Times R (n + 1) i k ↔ ∃ j, Times R n i j ∧ R j k := by
  induction n generalizing i with
  | zero => simp only [times_succ_iff, times_zero_iff, exists_eq_right, exists_eq_left']
  | succ n ih =>
    rw [times_succ_iff]
    constructor
    · rintro ⟨m, hr, ht⟩
      obtain ⟨j, ht, hl⟩ := ih.1 ht
      exact ⟨j, .succ hr ht, hl⟩
    · rintro ⟨j, ht, hl⟩
      obtain ⟨m, hr, ht⟩ := times_succ_iff.1 ht
      exact ⟨m, hr, ih.2 ⟨j, ht, hl⟩⟩

theorem times_add_iff : Times R (n + k) i j ↔ ∃ m, Times R n i m ∧ Times R k m j := by
  induction n generalizing i with
  | zero => simp only [Nat.zero_add, times_zero_iff, exists_eq_left']
  | succ n ih =>
    rw [Nat.succ_add, times_succ_iff]
    simp only [times_succ_iff, ih]
    constructor
    · rintro ⟨l, hr, m, ht, hk⟩
      exact ⟨m, ⟨l, hr, ht⟩, hk⟩
    · rintro ⟨m, ⟨l, hr, ht⟩, hk⟩
      exact ⟨l, hr, m, ht, hk⟩

end Times

section Marks

theorem length_merge (h : a.length = b.length) : (merge a b).length = a.length := by
  rw [merge, List.length_zipWith, h, Nat.min_self]

theorem marked_merge_iff (h : a.length = b.length) :
    (merge a b)[j]? = some true ↔ a[j]? = some true ∨ b[j]? = some true := by
  rw [merge, List.getElem?_zipWith]
  rcases Nat.lt_or_ge j a.length with hj | hj
  · rw [List.getElem?_eq_getElem hj, List.getElem?_eq_getElem (h ▸ hj)]
    simp
  · rw [List.getElem?_eq_none hj, List.getElem?_eq_none (h ▸ hj)]
    simp

/-- Marks that are added are fewer places without a mark. -/
theorem count_merge (h : a.length = b.length) :
    (merge a b).count false ≤ a.count false ∧
      (merge a b ≠ a → (merge a b).count false < a.count false) := by
  induction a generalizing b with
  | nil => exact ⟨Nat.le_refl _, fun hne => absurd rfl hne⟩
  | cons x a ih =>
    obtain _ | ⟨y, b⟩ := b
    · cases h
    obtain ⟨hle, hlt⟩ := ih (Nat.succ.inj h)
    have hcons : merge (x :: a) (y :: b) = (x || y) :: merge a b := rfl
    rw [hcons, List.count_cons, List.count_cons]
    by_cases hx : (x || y) = x
    · rw [hx]
      refine ⟨Nat.add_le_add_right hle _, fun hne => Nat.add_lt_add_right (hlt fun he => ?_) _⟩
      exact hne (by rw [he])
    · have hnew : x = false ∧ y = true := by revert hx; cases x <;> cases y <;> decide
      obtain ⟨rfl, rfl⟩ := hnew
      exact ⟨Nat.le_succ_of_le hle, fun _ => Nat.lt_succ_of_le hle⟩

end Marks

section Steps

theorem performs_id (size : Nat) : Performs size id Eq := fun _ h =>
  ⟨h, fun j => ⟨fun hj => ⟨j, hj, rfl⟩, fun ⟨_, hi, he⟩ => he ▸ hi⟩⟩

theorem Performs.congr (h : Performs size step R) (he : ∀ i j, R i j ↔ S i j) :
    Performs size step S := by
  intro marks hm
  obtain ⟨hl, hr⟩ := h marks hm
  exact ⟨hl, fun j => (hr j).trans (exists_congr fun i => and_congr_right fun _ => he i j)⟩

theorem Performs.comp (h : Performs size step R) (h' : Performs size next S) :
    Performs size (fun marks => next (step marks)) fun i k => ∃ j, R i j ∧ S j k := by
  intro marks hm
  obtain ⟨hl, hr⟩ := h marks hm
  obtain ⟨hl', hs⟩ := h' _ hl
  refine ⟨hl', fun k => (hs k).trans ?_⟩
  constructor
  · rintro ⟨j, hj, hk⟩
    obtain ⟨i, hi, hij⟩ := (hr j).1 hj
    exact ⟨i, hi, j, hij, hk⟩
  · rintro ⟨i, hi, j, hij, hk⟩
    exact ⟨j, (hr j).2 ⟨i, hi, hij⟩, hk⟩

theorem Performs.merge (h : Performs size step R) (h' : Performs size next S) :
    Performs size (fun marks => merge (step marks) (next marks)) fun i j => R i j ∨ S i j := by
  intro marks hm
  obtain ⟨hl, hr⟩ := h marks hm
  obtain ⟨hl', hs⟩ := h' marks hm
  refine ⟨(length_merge (hl.trans hl'.symm)).trans hl, fun j => ?_⟩
  rw [marked_merge_iff (hl.trans hl'.symm), hr, hs, ← exists_or]
  simp only [and_or_left]

theorem Performs.times (h : Performs size step R) (n : Nat) :
    Performs size (Nat.repeat step n) (Times R n) := by
  induction n with
  | zero => exact (performs_id size).congr fun _ _ => times_zero_iff.symm
  | succ n ih => exact (ih.comp h).congr fun _ _ => times_succ_iff_last.symm

/-- Where a step adds no mark, no number of steps does. -/
theorem marked_of_times (h : Performs size step R) (hm : marks.length = size)
    (hc : Pattern.merge marks (step marks) = marks) (hi : marks[i]? = some true)
    (ht : Times R n i j) : marks[j]? = some true := by
  induction ht with
  | zero => exact hi
  | @succ n i k j hr _ ih =>
    obtain ⟨hl, hstep⟩ := h marks hm
    refine ih ?_
    rw [← hc, marked_merge_iff (hm.trans hl.symm)]
    exact .inr ((hstep k).2 ⟨i, hi, hr⟩)

theorem Performs.spread (h : Performs size step R) (rounds : Nat) :
    Performs size (spread step rounds) fun i j => ∃ n ≤ rounds, Times R n i j := by
  induction rounds with
  | zero =>
    intro marks hm
    refine ⟨hm, fun j => ?_⟩
    simp only [Nat.le_zero_eq, exists_eq_left, times_zero_iff, exists_eq_right]
    rfl
  | succ rounds ih =>
    intro marks hm
    obtain ⟨hl, hstep⟩ := h marks hm
    have hsame : marks.length = (step marks).length := hm.trans hl.symm
    have hnext : (Pattern.merge marks (step marks)).length = size := (length_merge hsame).trans hm
    unfold Pattern.spread
    dsimp only
    split
    -- without new marks further rounds add nothing
    · next hc =>
      refine ⟨hm, fun j => ⟨fun hj => ⟨j, hj, 0, Nat.zero_le _, .zero j⟩, ?_⟩⟩
      rintro ⟨i, hi, n, -, ht⟩
      exact marked_of_times h hm hc hi ht
    · obtain ⟨hl', hspread⟩ := ih _ hnext
      refine ⟨hl', fun j => (hspread j).trans ?_⟩
      constructor
      · rintro ⟨i, hi, n, hn, ht⟩
        rcases (marked_merge_iff hsame).1 hi with hold | hnew
        · exact ⟨i, hold, n, Nat.le_succ_of_le hn, ht⟩
        · obtain ⟨i', hi', hr⟩ := (hstep i).1 hnew
          exact ⟨i', hi', n + 1, Nat.succ_le_succ hn, .succ hr ht⟩
      · rintro ⟨i, hi, n, hn, ht⟩
        cases ht with
        | zero => exact ⟨j, (marked_merge_iff hsame).2 (.inl hi), 0, Nat.zero_le _, .zero j⟩
        | @succ n _ k _ hr ht =>
          refine ⟨k, (marked_merge_iff hsame).2 (.inr ((hstep k).2 ⟨i, hi, hr⟩)), n, ?_, ht⟩
          exact Nat.le_of_succ_le_succ hn

/-- As many rounds as there are places without a mark come to an end. -/
theorem merge_spread (h : Performs size step R) (hm : marks.length = size) {rounds : Nat}
    (hr : marks.count false ≤ rounds) :
    Pattern.merge (Pattern.spread step rounds marks) (step (Pattern.spread step rounds marks)) =
      Pattern.spread step rounds marks := by
  induction rounds generalizing marks with
  | zero =>
    obtain ⟨hl, -⟩ := h marks hm
    by_contra hne
    have hlt := (count_merge (hm.trans hl.symm)).2 hne
    exact Nat.not_lt_zero _ (Nat.lt_of_lt_of_le hlt hr)
  | succ rounds ih =>
    obtain ⟨hl, -⟩ := h marks hm
    have hsame : marks.length = (step marks).length := hm.trans hl.symm
    unfold Pattern.spread
    dsimp only
    -- a round that goes on has marked a place, so fewer are left
    split
    · next hc => exact hc
    · next hne =>
      refine ih ((length_merge hsame).trans hm) ?_
      exact Nat.le_of_lt_succ (Nat.lt_of_lt_of_le ((count_merge hsame).2 hne) hr)

theorem Performs.spread_all (h : Performs size step R) {rounds : Nat} (hr : size ≤ rounds) :
    Performs size (Pattern.spread step rounds) fun i j => ∃ n, Times R n i j := by
  intro marks hm
  obtain ⟨hl, hspread⟩ := h.spread rounds marks hm
  refine ⟨hl, fun j => ⟨fun hj => ?_, ?_⟩⟩
  · obtain ⟨i, hi, n, -, ht⟩ := (hspread j).1 hj
    exact ⟨i, hi, n, ht⟩
  · rintro ⟨i, hi, n, ht⟩
    have hend := merge_spread h hm (Nat.le_trans List.count_le_length (hm ▸ hr))
    exact marked_of_times h hl hend ((hspread i).2 ⟨i, hi, 0, Nat.zero_le _, .zero i⟩) ht

end Steps

section Texts

theorem length_surroundings (first : Option Char) (text : List Char) :
    (surroundings first text).length = text.length + 1 := by
  induction text generalizing first with
  | nil => rfl
  | cons c cs ih => rw [surroundings, List.length_cons, ih, List.length_cons]

theorem getElem?_surroundings (first : Option Char) (hi : i ≤ text.length) :
    (surroundings first text)[i]? = some (before first text i, text[i]?) := by
  induction text generalizing first i with
  | nil =>
    cases Nat.le_zero.1 hi
    rfl
  | cons c cs ih =>
    cases i with
    | zero => rfl
    | succ i =>
      rw [surroundings, List.getElem?_cons_succ, ih (some c) (Nat.le_of_succ_le_succ hi)]
      cases i <;> rfl

theorem performs_set (text : List Char) (s : CharSet) :
    Performs (text.length + 1) (advance text (.set s)) (Spans text (.set s)) := by
  intro marks hm
  have hmoved : ∀ i : Nat,
      (List.zipWith (fun mark c => mark && s.contains c) marks text)[i]? = some true ↔
        marks[i]? = some true ∧ ∃ c, text[i]? = some c ∧ s.contains c = true := by
    intro i
    rw [List.getElem?_zipWith]
    cases marks[i]? <;> cases text[i]? <;> simp
  refine ⟨?_, fun j => ?_⟩
  · rw [advance, List.length_cons, List.length_zipWith, hm]
    omega
  · rw [advance]
    unfold Spans
    cases j with
    | zero => simp
    | succ j =>
      rw [List.getElem?_cons_succ, hmoved]
      constructor
      · rintro ⟨hj, c, hc, hs⟩
        exact ⟨j, hj, c, hc, hs, rfl⟩
      · rintro ⟨i, hi, c, hc, hs, he⟩
        cases Nat.succ.inj he
        exact ⟨hi, c, hc, hs⟩

theorem performs_condition (text : List Char) (holds : Condition) :
    Performs (text.length + 1) (advance text (.condition holds))
      (Spans text (.condition holds)) := by
  intro marks hm
  refine ⟨?_, fun j => ?_⟩
  · rw [advance, List.length_zipWith, hm, length_surroundings, Nat.min_self]
  · rw [advance, List.getElem?_zipWith]
    unfold Spans
    rcases Nat.lt_or_ge text.length j with hj | hj
    · have hnone : marks[j]? = none := List.getElem?_eq_none (by omega)
      rw [hnone]
      constructor
      · rintro ⟨⟩
      · rintro ⟨i, hi, rfl, hle, -⟩
        exact absurd hle (Nat.not_le_of_lt hj)
    · rw [getElem?_surroundings none hj]
      constructor
      · intro hj'
        cases hmark : marks[j]? with
        | none => rw [hmark] at hj'; cases hj'
        | some mark =>
          rw [hmark] at hj'
          obtain ⟨rfl, hh⟩ := Bool.and_eq_true_iff.1 (Option.some.inj hj')
          exact ⟨j, hmark, rfl, hj, hh⟩
      · rintro ⟨i, hi, rfl, -, hh⟩
        rw [hi]
        exact congrArg some hh

theorem performs_repetition {p : Pattern} (least : Nat) (most : Option Nat)
    (h : Performs (text.length + 1) (advance text p) (Spans text p)) :
    Performs (text.length + 1) (advance text (.repetition least most p))
      (Spans text (.repetition least most p)) := by
  cases most with
  | none =>
    refine ((h.times least).comp (h.spread_all (Nat.le_refl _))).congr fun i j => ?_
    unfold Spans
    simp only [times_add_iff]
    constructor
    · rintro ⟨k, hk, more, hj⟩
      exact ⟨more, nofun, k, hk, hj⟩
    · rintro ⟨more, -, k, hk, hj⟩
      exact ⟨k, hk, more, hj⟩
  | some most =>
    refine ((h.times least).comp (h.spread (most - least))).congr fun i j => ?_
    unfold Spans
    simp only [times_add_iff]
    constructor
    · rintro ⟨k, hk, more, hle, hj⟩
      refine ⟨more, fun n hn => ?_, k, hk, hj⟩
      cases hn
      exact hle
    · rintro ⟨more, hle, k, hk, hj⟩
      exact ⟨k, hk, more, hle most rfl, hj⟩

/-- To move the marks is to mark the places that the pattern can lead to. -/
theorem performs_advance (text : List Char) (p : Pattern) :
    Performs (text.length + 1) (advance text p) (Spans text p) := by
  induction p with
  | empty => exact performs_id _
  | set s => exact performs_set text s
  | condition holds => exact performs_condition text holds
  | sequence p q hp hq => exact hp.comp hq
  | choice p q hp hq => exact hp.merge hq
  | repetition least most p hp => exact performs_repetition least most hp

theorem isMatch_iff (p : Pattern) (text : List Char) :
    p.isMatch text = true ↔ ∃ i j, i ≤ text.length ∧ p.Spans text i j := by
  obtain ⟨-, hmarked⟩ := performs_advance text p (List.replicate (text.length + 1) true)
    List.length_replicate
  unfold isMatch
  rw [List.any_eq_true]
  constructor
  · rintro ⟨mark, hm, ht⟩
    obtain ⟨j, hj⟩ := List.mem_iff_getElem?.1 hm
    rw [id] at ht
    obtain ⟨i, hi, hs⟩ := (hmarked j).1 (ht ▸ hj)
    have hlt := (List.getElem?_eq_some_iff.1 hi).1
    rw [List.length_replicate] at hlt
    exact ⟨i, j, Nat.le_of_lt_succ hlt, hs⟩
  · rintro ⟨i, j, hi, hs⟩
    have hstart : (List.replicate (text.length + 1) true)[i]? = some true :=
      List.getElem?_replicate_of_lt (Nat.lt_succ_of_le hi)
    exact ⟨true, List.mem_of_getElem? ((hmarked j).2 ⟨i, hstart, hs⟩), rfl⟩

theorem Spans.le_length {p : Pattern} (h : p.Spans text i j) (hi : i ≤ text.length) :
    j ≤ text.length := by
  obtain ⟨hl, hmarked⟩ := performs_advance text p (List.replicate (text.length + 1) true)
    List.length_replicate
  have hstart : (List.replicate (text.length + 1) true)[i]? = some true :=
    List.getElem?_replicate_of_lt (Nat.lt_succ_of_le hi)
  have hlt := (List.getElem?_eq_some_iff.1 ((hmarked j).2 ⟨i, hstart, h⟩)).1
  rw [hl] at hlt
  exact Nat.le_of_lt_succ hlt

/-- The marks of a group take up nothing. -/
theorem spans_capture (capture : Capture) {p : Pattern} (hi : i ≤ text.length) :
    (capture.pattern p).Spans text i j ↔ p.Spans text i j := by
  have hmark : ∀ {k l}, k ≤ text.length →
      ((condition fun _ _ => true).Spans text k l ↔ k = l) := by
    intro k l hk
    exact ⟨fun h => h.1, fun h => ⟨h, hk, rfl⟩⟩
  have hpair : (sequence (condition fun _ _ => true)
      (sequence p (condition fun _ _ => true))).Spans text i j ↔ p.Spans text i j := by
    constructor
    · rintro ⟨k, hik, l, hp, hlj⟩
      obtain rfl := (hmark hi).1 hik
      obtain rfl := (hmark (hp.le_length hi)).1 hlj
      exact hp
    · intro hp
      exact ⟨i, (hmark hi).2 rfl, j, hp, (hmark (hp.le_length hi)).2 rfl⟩
  cases capture with
  | none => exact Iff.rfl
  | numbered => exact hpair
  | named name => exact hpair

end Texts

end Cardfile.Pattern
