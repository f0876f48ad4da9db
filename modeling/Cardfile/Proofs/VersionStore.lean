import Cardfile.Proofs.Collections
import Cardfile.Versions.Store
import Mathlib.Logic.Function.Basic

/-! # The version store over time

What was committed at a time stays readable at that time: commits add only later versions, and
pruning keeps what the oldest reader can reach. The postings cover every version that is kept.
-/

namespace Cardfile

variable {ε : Type}

namespace Version

variable {vs : List (Version ε)} {v : Version ε} {time later : Stamp}

theorem at?_cons_of_lt (h : time < v.stamp) : at? time (v :: vs) = at? time vs :=
  List.find?_cons_of_neg (by simpa using h)

theorem at?_cons_of_le (h : v.stamp ≤ time) : at? time (v :: vs) = some v :=
  List.find?_cons_of_pos (by simpa using h)

theorem mem_of_at?_eq_some (h : at? time vs = some v) : v ∈ vs := List.mem_of_find?_eq_some h

theorem mem_of_mem_reachable (h : v ∈ reachable time vs) : v ∈ vs := by
  induction vs with
  | nil => exact h
  | cons w vs ih =>
    simp only [reachable] at h
    split at h
    · exact List.mem_cons.2 ((List.mem_cons.1 h).imp_right ih)
    · exact List.mem_singleton.1 h ▸ List.mem_cons_self

theorem head?_reachable : (reachable time vs).head? = vs.head? := by
  cases vs with
  | nil => rfl
  | cons w vs => simp only [reachable]; split <;> rfl

/-- Pruning takes away nothing that a reader at the time or later sees. -/
theorem at?_reachable (h : time ≤ later) : at? later (reachable time vs) = at? later vs := by
  induction vs with
  | nil => rfl
  | cons w vs ih =>
    simp only [reachable]
    split
    · rcases Nat.lt_or_ge later w.stamp with hl | hl
      · rw [at?_cons_of_lt hl, at?_cons_of_lt hl, ih]
      · rw [at?_cons_of_le hl, at?_cons_of_le hl]
    · next hw =>
      have hl : w.stamp ≤ later := Nat.le_trans (Nat.le_of_not_lt hw) h
      rw [at?_cons_of_le hl, at?_cons_of_le hl]

end Version

namespace Chain

variable {c : Chain ε} {v : Version ε} {time later : Stamp}

theorem at?_of_isDead (h : c.isDead time = true) (hl : time ≤ later) :
    (c.at? later).bind Version.value = none := by
  unfold isDead at h
  unfold at?
  split at h
  · next hv => rw [hv]; rfl
  · next v hv =>
    simp only [Bool.and_eq_true, Option.isNone_iff_eq_none, decide_eq_true_eq] at h
    rw [hv, Version.at?_cons_of_le (Nat.le_trans h.2 hl)]
    exact h.1
  · cases h

theorem latest?_of_isDead (h : c.isDead time = true) : c.latest?.bind Version.value = none := by
  unfold isDead at h
  unfold latest?
  split at h
  · next hv => rw [hv]; rfl
  · next v hv =>
    simp only [Bool.and_eq_true, Option.isNone_iff_eq_none, decide_eq_true_eq] at h
    rw [hv]
    exact h.1
  · cases h

theorem mem_slotsOf_post {p : Postings} {slot : Slot} {term : String} :
    slot ∈ ((post p c).slotsOf term).toList ↔
      slot ∈ (p.slotsOf term).toList ∨
        (slot = c.slot ∧ ∃ v ∈ c.versions, ∃ card, v.value = some card ∧
          term ∈ card.terms.toList) := by
  have key : ∀ (cards : List (Card ε)) (p : Postings),
      slot ∈ ((cards.foldl (fun p card => p.insert c.slot card.terms) p).slotsOf term).toList ↔
        slot ∈ (p.slotsOf term).toList ∨
          (slot = c.slot ∧ ∃ card ∈ cards, term ∈ card.terms.toList) := by
    intro cards
    induction cards with
    | nil => simp
    | cons card cards ih =>
      intro p
      rw [List.foldl_cons, ih, Postings.mem_slotsOf_insert]
      simp only [List.mem_cons, exists_eq_or_imp]
      tauto
  rw [post, key]
  simp only [List.mem_filterMap]
  constructor
  · rintro (h | ⟨hs, card, ⟨v, hv, hc⟩, ht⟩)
    · exact .inl h
    · exact .inr ⟨hs, v, hv, card, hc, ht⟩
  · rintro (h | ⟨hs, v, hv, card, hc, ht⟩)
    · exact .inl h
    · exact .inr ⟨hs, card, ⟨v, hv, hc⟩, ht⟩

theorem mem_termsSince {term : String} :
    term ∈ (c.termsSince time).toList ↔ ∃ v ∈ c.versions,
      (time < v.stamp ∨ (c.at? time).map Version.stamp = some v.stamp) ∧
        ∃ card, v.value = some card ∧ term ∈ card.terms.toList := by
  simp only [termsSince, OrderedSet.mem_ofList, List.mem_flatMap, List.mem_filterMap,
    List.mem_filter, Bool.or_eq_true, decide_eq_true_eq]
  constructor
  · rintro ⟨card, ⟨v, ⟨hv, hw⟩, hc⟩, ht⟩
    exact ⟨v, hv, hw, card, hc, ht⟩
  · rintro ⟨v, hv, hw, card, hc, ht⟩
    exact ⟨card, ⟨v, ⟨hv, hw⟩, hc⟩, ht⟩

end Chain

namespace VersionStore

variable {s : VersionStore ε} {key : Key} {c : Chain ε} {v : Version ε} {w : Write ε}
  {ws : List (Write ε)} {time later : Stamp}

theorem latest?_eq : s.latest? key = (s.chain? key).bind fun c => c.latest?.bind Version.value := by
  unfold latest?
  cases s.chain? key with
  | none => rfl
  | some c => cases c.latest? <;> rfl

theorem at?_eq :
    s.at? key time = (s.chain? key).bind fun c => (c.at? time).bind Version.value := by
  unfold at?
  cases s.chain? key with
  | none => rfl
  | some c => cases c.at? time <;> rfl

/-- What the parts of a store that a commit keeps up say of each other. -/
structure Sound (s : VersionStore ε) : Prop where
  slot_lt : ∀ {key c}, s.chain? key = some c → c.slot < s.nextSlot
  slot_inj : ∀ {key key' c c'}, s.chain? key = some c → s.chain? key' = some c' →
    c.slot = c'.slot → key = key'
  stamp_le : ∀ {key c}, s.chain? key = some c → ∀ v ∈ c.versions, v.stamp ≤ s.clock
  posted : ∀ {key c}, s.chain? key = some c → ∀ v ∈ c.versions, ∀ card, v.value = some card →
    ∀ term ∈ card.terms.toList, c.slot ∈ (s.postings.slotsOf term).toList

theorem sound_empty : (empty : VersionStore ε).Sound := by
  constructor <;> intro key <;> intros <;> contradiction

theorem Sound.clear (_ : s.Sound) : s.clear.Sound := by
  constructor <;> intro key <;> intros <;> contradiction

theorem Sound.inSlot? (h : s.Sound) (hc : s.chain? key = some c) :
    s.inSlot? c.slot = some (key, c) := by
  have hm : (key, c) ∈ s.chains.entries := Dict.mem_entries_iff.2 hc
  cases hf : s.inSlot? c.slot with
  | none => exact absurd (List.find?_eq_none.1 hf _ hm) (by simp)
  | some found =>
    obtain ⟨key', c'⟩ := found
    have hs : c'.slot = c.slot := by simpa using List.find?_some hf
    have hc' : s.chain? key' = some c' := Dict.mem_entries_iff.1 (List.mem_of_find?_eq_some hf)
    obtain rfl := h.slot_inj hc' hc hs
    rw [hc] at hc'
    rw [Option.some.inj hc']

section Put

/-- The chain of a key after one more version. -/
def extended (s : VersionStore ε) (key : Key) (v : Version ε) : Chain ε :=
  match s.chain? key with
  | some c => c.push v
  | none => ⟨s.nextSlot, [v]⟩

theorem chains_put :
    (s.put w).chains = s.chains.insert w.1 (s.extended w.1 ⟨s.clock, w.2⟩) := by
  unfold put extended; cases s.chain? w.1 <;> rfl

theorem postings_put :
    (s.put w).postings =
      match w.2 with
      | some card => s.postings.insert (s.extended w.1 ⟨s.clock, w.2⟩).slot card.terms
      | none => s.postings := by
  unfold put extended; cases s.chain? w.1 <;> rfl

theorem clock_put : (s.put w).clock = s.clock := by
  unfold put; cases s.chain? w.1 <;> rfl

theorem log_put : (s.put w).log = s.log := by
  unfold put; cases s.chain? w.1 <;> rfl

theorem nextSlot_le_put : s.nextSlot ≤ (s.put w).nextSlot := by
  unfold put; cases s.chain? w.1 <;> simp

theorem chain?_put (key : Key) :
    (s.put w).chain? key =
      if w.1 = key then some (s.extended w.1 ⟨s.clock, w.2⟩) else s.chain? key := by
  rw [chain?, chains_put, Dict.get?_insert]
  rfl

/-- A write leaves the slots that there are, and gives a new key the next one. -/
theorem slotOf?_put (key : Key) : (s.put w).slotOf? key =
    if w.1 = key then some ((s.slotOf? key).getD s.nextSlot) else s.slotOf? key := by
  unfold slotOf?
  rw [chain?_put]
  split
  · next hk =>
    subst hk
    unfold extended
    cases s.chain? w.1 <;> rfl
  · rfl

theorem extended_slot_lt (h : s.Sound) : (s.extended w.1 v).slot < (s.put w).nextSlot := by
  cases hc : s.chain? w.1 with
  | some c =>
    have he : (s.extended w.1 v).slot = c.slot := by rw [extended, hc]; rfl
    exact he ▸ Nat.lt_of_lt_of_le (h.slot_lt hc) nextSlot_le_put
  | none => unfold extended put; rw [hc]; exact Nat.lt_succ_self _

theorem mem_slotsOf_put {slot : Slot} {term : String} :
    slot ∈ ((s.put w).postings.slotsOf term).toList ↔
      slot ∈ (s.postings.slotsOf term).toList ∨
        (slot = (s.extended w.1 ⟨s.clock, w.2⟩).slot ∧
          ∃ card, w.2 = some card ∧ term ∈ card.terms.toList) := by
  rw [postings_put]
  cases hw : w.2 <;> simp [Postings.mem_slotsOf_insert]

theorem mem_versions_extended {u : Version ε} (h : u ∈ (s.extended key v).versions) :
    u = v ∨ ∃ c, s.chain? key = some c ∧ c.slot = (s.extended key v).slot ∧ u ∈ c.versions := by
  unfold extended at h ⊢
  cases hc : s.chain? key with
  | some c =>
    rw [hc] at h
    exact (List.mem_cons.1 h).imp_right fun h => ⟨c, rfl, rfl, h⟩
  | none =>
    rw [hc] at h
    exact .inl (List.mem_singleton.1 h)

/-- A chain that is there after a write is the extended one of its key or was there before. -/
theorem chain?_put_cases (h : (s.put w).chain? key = some c) :
    (w.1 = key ∧ c = s.extended key ⟨s.clock, w.2⟩) ∨ (w.1 ≠ key ∧ s.chain? key = some c) := by
  rw [chain?_put] at h
  split at h
  · next hk => exact .inl ⟨hk, hk ▸ (Option.some.inj h).symm⟩
  · next hk => exact .inr ⟨hk, h⟩

theorem extended_slot_ne (h : s.Sound) (hk : w.1 ≠ key) (hc : s.chain? key = some c) :
    (s.extended w.1 v).slot ≠ c.slot := by
  unfold extended
  cases hw : s.chain? w.1 with
  | some c' => exact fun hs => hk (h.slot_inj hw hc hs)
  | none => exact Nat.ne_of_gt (h.slot_lt hc)

theorem Sound.put (h : s.Sound) (w : Write ε) : (s.put w).Sound where
  slot_lt hc := by
    rcases chain?_put_cases hc with ⟨rfl, rfl⟩ | ⟨-, hc⟩
    · exact extended_slot_lt h
    · exact Nat.lt_of_lt_of_le (h.slot_lt hc) nextSlot_le_put
  slot_inj hc hc' hs := by
    rcases chain?_put_cases hc with ⟨rfl, rfl⟩ | ⟨hk, hc⟩
    · rcases chain?_put_cases hc' with ⟨rfl, rfl⟩ | ⟨hk', hc'⟩
      · rfl
      · exact absurd hs (extended_slot_ne h hk' hc')
    · rcases chain?_put_cases hc' with ⟨rfl, rfl⟩ | ⟨-, hc'⟩
      · exact absurd hs.symm (extended_slot_ne h hk hc)
      · exact h.slot_inj hc hc' hs
  stamp_le hc u hu := by
    rw [clock_put]
    rcases chain?_put_cases hc with ⟨rfl, rfl⟩ | ⟨-, hc⟩
    · rcases mem_versions_extended hu with rfl | ⟨c, hc, -, hu⟩
      · exact Nat.le_refl _
      · exact h.stamp_le hc u hu
    · exact h.stamp_le hc u hu
  posted hc u hu card hcard term ht := by
    rcases chain?_put_cases hc with ⟨rfl, rfl⟩ | ⟨-, hc⟩
    · refine mem_slotsOf_put.2 ?_
      rcases mem_versions_extended hu with rfl | ⟨c, hc, hs, hu⟩
      · exact .inr ⟨rfl, card, hcard, ht⟩
      · exact .inl (hs ▸ h.posted hc u hu card hcard term ht)
    · exact mem_slotsOf_put.2 (.inl (h.posted hc u hu card hcard term ht))

theorem Sound.puts (h : s.Sound) (ws : List (Write ε)) : (ws.foldl VersionStore.put s).Sound := by
  induction ws generalizing s with
  | nil => exact h
  | cons w ws ih => exact ih (h.put w)

theorem clock_puts : (ws.foldl put s).clock = s.clock := by
  induction ws generalizing s with
  | nil => rfl
  | cons w ws ih => rw [List.foldl_cons, ih, clock_put]

theorem log_puts : (ws.foldl put s).log = s.log := by
  induction ws generalizing s with
  | nil => rfl
  | cons w ws ih => rw [List.foldl_cons, ih, log_put]

theorem slotOf?_puts_of_some {slot : Slot} (hs : s.slotOf? key = some slot)
    (ws : List (Write ε)) :
    (ws.foldl put s).slotOf? key = some slot := by
  induction ws generalizing s with
  | nil => exact hs
  | cons w ws ih =>
    refine ih ?_
    rw [slotOf?_put, hs]
    exact ite_self _

theorem chain?_puts_of_notMem (hk : key ∉ ws.map Prod.fst) :
    (ws.foldl put s).chain? key = s.chain? key := by
  induction ws generalizing s with
  | nil => rfl
  | cons w ws ih =>
    obtain ⟨hw, hr⟩ := not_or.1 (mt List.mem_cons.2 hk)
    rw [List.foldl_cons, ih hr, chain?_put, if_neg fun e => hw e.symm]

theorem latest?_put_self : (s.put w).latest? w.1 = w.2 := by
  rw [latest?_eq, chain?_put, if_pos rfl]
  unfold extended
  cases s.chain? w.1 <;> rfl

theorem latest?_puts_of_mem (hn : (ws.map Prod.fst).Nodup) (hw : w ∈ ws) :
    (ws.foldl put s).latest? w.1 = w.2 := by
  induction ws generalizing s with
  | nil => cases hw
  | cons w' ws ih =>
    obtain ⟨hk, hr⟩ := List.nodup_cons.1 hn
    rcases List.mem_cons.1 hw with rfl | hw
    · rw [List.foldl_cons, latest?_eq, chain?_puts_of_notMem hk, ← latest?_eq, latest?_put_self]
    · exact ih hr hw

theorem at?_put (h : time < s.clock) : (s.put w).at? key time = s.at? key time := by
  rw [at?_eq, at?_eq, chain?_put]
  by_cases hk : w.1 = key
  · subst hk
    have hv : ∀ vs, Version.at? time (⟨s.clock, w.2⟩ :: vs) = Version.at? time vs :=
      fun vs => Version.at?_cons_of_lt h
    rw [if_pos rfl, extended]
    cases s.chain? w.1 with
    | some c => exact congrArg (·.bind Version.value) (hv c.versions)
    | none => exact congrArg (·.bind Version.value) (hv [])
  · rw [if_neg hk]

theorem at?_puts (h : time < s.clock) : (ws.foldl put s).at? key time = s.at? key time := by
  induction ws generalizing s with
  | nil => rfl
  | cons w ws ih => rw [List.foldl_cons, ih (by rwa [clock_put]), at?_put h]

/-- The versions after writes are those that the writes brought and those that were there. -/
theorem version_puts (hc : (ws.foldl put s).chain? key = some c) (hv : v ∈ c.versions) :
    v.stamp = s.clock ∨ ∃ c₀, s.chain? key = some c₀ ∧ c₀.slot = c.slot ∧ v ∈ c₀.versions := by
  induction ws generalizing s with
  | nil => exact .inr ⟨c, hc, rfl, hv⟩
  | cons w ws ih =>
    rcases ih hc with hs | ⟨c₁, hc₁, hs₁, hv₁⟩
    · exact .inl (hs.trans clock_put)
    · rcases chain?_put_cases hc₁ with ⟨rfl, rfl⟩ | ⟨-, hc₀⟩
      · rcases mem_versions_extended hv₁ with rfl | ⟨c₀, hc₀, hs₀, hv₀⟩
        · exact .inl rfl
        · exact .inr ⟨c₀, hc₀, hs₀.trans hs₁, hv₀⟩
      · exact .inr ⟨c₁, hc₀, hs₁, hv₁⟩

end Put

section Apply

theorem chain?_apply :
    (s.apply ws).chain? key = (ws.foldl put { s with clock := s.clock + 1 }).chain? key := rfl

theorem clock_apply : (s.apply ws).clock = s.clock + 1 :=
  clock_puts (s := { s with clock := s.clock + 1 })

theorem Sound.tick (h : s.Sound) : Sound { s with clock := s.clock + 1 } :=
  ⟨h.slot_lt, h.slot_inj, fun hc v hv => Nat.le_succ_of_le (h.stamp_le hc v hv), h.posted⟩

theorem Sound.apply (h : s.Sound) (ws : List (Write ε)) : (s.apply ws).Sound := by
  have hp := h.tick.puts ws
  exact ⟨hp.slot_lt, hp.slot_inj, hp.stamp_le, hp.posted⟩

theorem at?_apply (h : time ≤ s.clock) : (s.apply ws).at? key time = s.at? key time := by
  have hp : ((ws.foldl put { s with clock := s.clock + 1 }).at? key time) = s.at? key time :=
    at?_puts (Nat.lt_succ_of_le h)
  exact hp

theorem latest?_apply_of_mem (hn : (ws.map Prod.fst).Nodup) (hw : w ∈ ws) :
    (s.apply ws).latest? w.1 = w.2 :=
  latest?_puts_of_mem (s := { s with clock := s.clock + 1 }) hn hw

theorem latest?_apply_of_notMem (hk : key ∉ ws.map Prod.fst) :
    (s.apply ws).latest? key = s.latest? key := by
  rw [latest?_eq, latest?_eq, chain?_apply, chain?_puts_of_notMem hk]
  rfl

theorem latest?_apply_single (s : VersionStore ε) (key : Key) (value : Option (Card ε)) :
    (s.apply [(key, value)]).latest? = Function.update s.latest? key value := by
  have hn : ([(key, value)].map Prod.fst).Nodup := List.nodup_singleton _
  funext key'
  by_cases hk : key' = key
  · subst hk
    rw [Function.update_self]
    exact latest?_apply_of_mem hn List.mem_cons_self
  · rw [Function.update_of_ne hk]
    exact latest?_apply_of_notMem (by simpa using hk)

end Apply

section Pruned

theorem chain?_pruned :
    (s.pruned time).chain? key =
      ((s.chain? key).map (·.pruned time)).filter (!·.isDead time) := by
  simp only [pruned, chain?, Dict.get?_filter, Dict.get?_map]

theorem chain?_of_pruned (h : (s.pruned time).chain? key = some c) :
    ∃ c₀, s.chain? key = some c₀ ∧ c₀.pruned time = c := by
  rw [chain?_pruned, Option.filter_eq_some_iff, Option.map_eq_some_iff] at h
  obtain ⟨⟨c₀, hc₀, rfl⟩, -⟩ := h
  exact ⟨c₀, hc₀, rfl⟩

theorem at?_pruned (h : time ≤ later) : (s.pruned time).at? key later = s.at? key later := by
  rw [at?_eq, at?_eq, chain?_pruned]
  cases s.chain? key with
  | none => rfl
  | some c =>
    have he : (c.pruned time).at? later = c.at? later := Version.at?_reachable h
    rw [Option.map_some, Option.bind_some, ← he]
    cases hd : (c.pruned time).isDead time with
    | false => rw [Option.filter_some, hd]; rfl
    | true =>
      rw [Option.filter_some, hd, Chain.at?_of_isDead hd h]
      rfl

theorem latest?_pruned : (s.pruned time).latest? key = s.latest? key := by
  rw [latest?_eq, latest?_eq, chain?_pruned]
  cases s.chain? key with
  | none => rfl
  | some c =>
    have he : (c.pruned time).latest? = c.latest? := Version.head?_reachable
    rw [Option.map_some, Option.bind_some, ← he]
    cases hd : (c.pruned time).isDead time with
    | false => rw [Option.filter_some, hd]; rfl
    | true =>
      rw [Option.filter_some, hd, Chain.latest?_of_isDead hd]
      rfl

theorem mem_slotsOf_posts {cs : List (Chain ε)} {p : Postings} {slot : Slot} {term : String} :
    slot ∈ ((cs.foldl Chain.post p).slotsOf term).toList ↔
      slot ∈ (p.slotsOf term).toList ∨
        ∃ c ∈ cs, slot = c.slot ∧ ∃ v ∈ c.versions, ∃ card, v.value = some card ∧
          term ∈ card.terms.toList := by
  induction cs generalizing p with
  | nil => simp
  | cons c cs ih =>
    rw [List.foldl_cons, ih, Chain.mem_slotsOf_post]
    simp only [List.mem_cons, exists_eq_or_imp, or_assoc]

theorem Sound.pruned (h : s.Sound) (time : Stamp) : (s.pruned time).Sound where
  slot_lt hc := by
    obtain ⟨c₀, hc₀, rfl⟩ := chain?_of_pruned hc
    exact h.slot_lt (c := c₀) hc₀
  slot_inj hc hc' hs := by
    obtain ⟨c₀, hc₀, rfl⟩ := chain?_of_pruned hc
    obtain ⟨c₁, hc₁, rfl⟩ := chain?_of_pruned hc'
    have hs : c₀.slot = c₁.slot := hs
    exact h.slot_inj hc₀ hc₁ hs
  stamp_le hc v hv := by
    obtain ⟨c₀, hc₀, rfl⟩ := chain?_of_pruned hc
    exact h.stamp_le (c := c₀) hc₀ v (Version.mem_of_mem_reachable hv)
  posted hc v hv card hcard term ht :=
    mem_slotsOf_posts.2 (.inr ⟨_, Dict.mem_values_iff.2 ⟨_, hc⟩, rfl, v, hv, card, hcard, ht⟩)

end Pruned

section Logged

/-- The log tells of every version that is younger than a time. -/
def Logged (s : VersionStore ε) (time : Stamp) : Prop :=
  ∀ key c, s.chain? key = some c → ∀ v ∈ c.versions, time < v.stamp →
    ∃ slots, (v.stamp, slots) ∈ s.log ∧ c.slot ∈ slots

theorem Sound.logged_clock (h : s.Sound) : s.Logged s.clock :=
  fun _ _ hc v hv ht => absurd ht (Nat.not_lt_of_le (h.stamp_le hc v hv))

theorem Logged.apply (h : s.Logged time) (ws : List (Write ε)) : (s.apply ws).Logged time := by
  intro key c hc v hv ht
  have old : ∀ {c₀}, s.chain? key = some c₀ → c₀.slot = c.slot → v ∈ c₀.versions →
      ∃ slots, (v.stamp, slots) ∈ (s.apply ws).log ∧ c.slot ∈ slots := by
    intro c₀ hc₀ hs hv₀
    obtain ⟨slots, hl, hm⟩ := h key c₀ hc₀ v hv₀ ht
    refine ⟨slots, List.mem_cons_of_mem _ ?_, hs ▸ hm⟩
    rwa [log_puts]
  by_cases hk : key ∈ ws.map Prod.fst
  · rcases version_puts hc hv with hs | ⟨c₀, hc₀, hs, hv₀⟩
    · obtain ⟨w, hw, rfl⟩ := List.mem_map.1 hk
      refine ⟨_, List.mem_cons.2 (.inl (Prod.ext (hs.trans clock_puts.symm) rfl)), ?_⟩
      exact List.mem_filterMap.2 ⟨w, hw, by rw [slotOf?]; exact congrArg _ hc⟩
    · exact old hc₀ hs hv₀
  · rw [chain?_apply, chain?_puts_of_notMem hk] at hc
    exact old hc rfl hv

theorem Logged.pruned (h : s.Logged later) (ht : time ≤ later) : (s.pruned time).Logged later := by
  intro key c hc v hv hl
  obtain ⟨c₀, hc₀, rfl⟩ := chain?_of_pruned hc
  obtain ⟨slots, hm, hs⟩ := h key c₀ hc₀ v (Version.mem_of_mem_reachable hv) hl
  exact ⟨slots, List.mem_filter.2 ⟨hm, by simpa using Nat.lt_of_le_of_lt ht hl⟩, hs⟩

theorem mem_committedAfter {slot : Slot} :
    slot ∈ (s.committedAfter time).toList ↔ ∃ e ∈ s.log, time < e.1 ∧ slot ∈ e.2 := by
  simp only [committedAfter, OrderedSet.mem_ofList, List.mem_flatMap, List.mem_filter,
    decide_eq_true_eq, and_assoc]

end Logged

section Later

theorem Sound.lastCommit_le (h : s.Sound) : s.lastCommit key ≤ s.clock := by
  unfold lastCommit
  cases hc : s.chain? key with
  | none => exact Nat.zero_le _
  | some c =>
    rw [Option.bind_some]
    cases hv : c.latest? with
    | none => exact Nat.zero_le _
    | some v => exact h.stamp_le hc v (List.mem_of_mem_head? hv)

/-- A key without a commit after a time is as it was then. -/
theorem at?_eq_latest? (h : s.lastCommit key ≤ time) : s.at? key time = s.latest? key := by
  rw [at?_eq, latest?_eq]
  unfold lastCommit at h
  cases hc : s.chain? key with
  | none => rfl
  | some c =>
    obtain ⟨slot, vs⟩ := c
    cases vs with
    | nil => rfl
    | cons v vs =>
      rw [hc] at h
      exact congrArg (·.bind Version.value) (Version.at?_cons_of_le h)

/-- A key with a commit after a time is among those in the log, and its terms from that time on
are those of its card then and of its card now. -/
theorem Sound.changed (h : s.Sound) (hl : s.Logged time) (ht : time < s.lastCommit key) :
    ∃ slot ∈ (s.committedAfter time).toList,
      (∀ card, s.latest? key = some card →
        ∀ term ∈ card.terms.toList, term ∈ (s.termsSince slot time).toList) ∧
      (∀ card, s.at? key time = some card →
        ∀ term ∈ card.terms.toList, term ∈ (s.termsSince slot time).toList) := by
  unfold lastCommit at ht
  cases hc : s.chain? key with
  | none => rw [hc] at ht; exact absurd ht (Nat.not_lt_zero _)
  | some c =>
    cases hv : c.latest? with
    | none => rw [hc, Option.bind_some, hv] at ht; exact absurd ht (Nat.not_lt_zero _)
    | some v =>
      have hm : v ∈ c.versions := List.mem_of_mem_head? hv
      have ht : time < v.stamp := by simpa [hc, hv] using ht
      obtain ⟨slots, he, hs⟩ := hl key c hc v hm ht
      have hts : s.termsSince c.slot time = c.termsSince time := by
        simp only [termsSince, h.inSlot? hc]
      refine ⟨c.slot, mem_committedAfter.2 ⟨_, he, ht, hs⟩, fun card hcard term htm => ?_,
        fun card hcard term htm => ?_⟩
      · have hval : v.value = some card := by simpa [latest?_eq, hc, hv] using hcard
        rw [hts]
        exact Chain.mem_termsSince.2 ⟨v, hm, .inl ht, card, hval, htm⟩
      · rw [at?_eq, hc, Option.bind_some, Option.bind_eq_some_iff] at hcard
        obtain ⟨u, hu, hval⟩ := hcard
        rw [hts]
        exact Chain.mem_termsSince.2
          ⟨u, Version.mem_of_at?_eq_some hu, .inr (by rw [hu]; rfl), card, hval, htm⟩

theorem lastCommit_pruned_le (s : VersionStore ε) (time : Stamp)
    (key : Key) : (s.pruned time).lastCommit key ≤ s.lastCommit key := by
  unfold lastCommit
  rw [chain?_pruned]
  cases s.chain? key with
  | none => exact Nat.le_refl _
  | some c =>
    have hhead : (c.pruned time).latest? = c.latest? := Version.head?_reachable
    rw [Option.map_some, Option.filter_some]
    split
    · rw [Option.bind_some, hhead]
      exact Nat.le_refl _
    · exact Nat.zero_le _

end Later

section Live

/-- The keys with a card in the last commit. -/
def liveKeys (s : VersionStore ε) : List Key :=
  (s.chains.entries.filter fun e => e.2.isLive).map Prod.fst

theorem nodup_liveKeys (s : VersionStore ε) : s.liveKeys.Nodup :=
  (List.filter_sublist.map Prod.fst).nodup s.chains.nodup

theorem mem_liveKeys : key ∈ s.liveKeys ↔ ∃ card, s.latest? key = some card := by
  have hchain : key ∈ s.liveKeys ↔ ∃ c, s.chain? key = some c ∧ c.isLive = true := by
    simp only [liveKeys, List.mem_map, List.mem_filter, Prod.exists, exists_and_right,
      exists_eq_right, Dict.mem_entries_iff]
    rfl
  rw [hchain]
  simp only [latest?_eq, Chain.isLive, Option.isSome_iff_exists, Option.bind_eq_some_iff,
    ← exists_and_left]
  exact exists_comm

theorem liveCount_eq (s : VersionStore ε) : s.liveCount = s.liveKeys.length := by
  unfold liveCount liveKeys Dict.values
  rw [List.length_map, List.countP_map, List.countP_eq_length_filter]
  rfl

theorem liveCount_eq_length {keys : List Key} (hn : keys.Nodup)
    (h : ∀ key, key ∈ keys ↔ ∃ card, s.latest? key = some card) : s.liveCount = keys.length := by
  have hkeys : s.liveKeys.Perm keys :=
    (List.perm_ext_iff_of_nodup s.nodup_liveKeys hn).2 fun key => mem_liveKeys.trans (h key).symm
  exact s.liveCount_eq.trans hkeys.length_eq

end Live

end VersionStore

end Cardfile
