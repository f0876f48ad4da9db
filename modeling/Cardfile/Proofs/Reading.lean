import Cardfile.Proofs.VersionStore
import Cardfile.Proofs.View
import Mathlib.Data.List.Sublists

/-! # Two ways to read

A key is read by its chain, a search goes over the postings and adds the keys that are overridden.
Both show the same view, which is what the transaction sees of each key.
-/

namespace Cardfile.SharedIndex

variable {i : SharedIndex} {t : Transaction Record} {key : Key} {query : List TermSet}

section Overrides

theorem get?_overlay {ν : Type} (d e : Dict Key ν) (key : Key) :
    (overlay d e.entries).get? key = (e.get? key).or (d.get? key) := by
  have fold : ∀ (l : List (Key × ν)) (d : Dict Key ν), (l.map Prod.fst).Nodup →
      (overlay d l).get? key = (Dict.lookup key l).or (d.get? key) := by
    intro l
    induction l with
    | nil => intro d _; rfl
    | cons p rest ih =>
      obtain ⟨a, v⟩ := p
      intro d hn
      obtain ⟨ha, hr⟩ := List.nodup_cons.1 hn
      have hd : overlay d ((a, v) :: rest) = overlay (d.insert a v) rest := rfl
      rw [hd, ih _ hr, Dict.get?_insert, Dict.lookup]
      by_cases hk : a = key
      · subst hk
        rw [if_pos rfl, if_pos rfl, Dict.lookup_eq_none_iff.2 ha]
        rfl
      · rw [if_neg hk, if_neg hk]
  exact fold e.entries d e.nodup

/-- The value that a transaction has pinned for a key. -/
def pinned? (t : Transaction Record) (key : Key) : Option Staged :=
  if t.level = .repeatableRead then (t.pins.get? key).map Pin.value else none

theorem get?_overlay_pins (d : Dict Key Staged) :
    (overlay d ((if t.level = .repeatableRead then t.pins.entries else []).map
      fun e => (e.1, e.2.value))).get? key = (pinned? t key).or (d.get? key) := by
  unfold pinned?
  by_cases h : t.level = .repeatableRead
  · rw [if_pos h, if_pos h]
    have he := get?_overlay d (t.pins.map fun _ p => p.value) key
    rw [Dict.get?_map] at he
    exact he
  · rw [if_neg h, if_neg h]
    rfl

theorem get?_others :
    ((i.pending.filter fun _ p => p.1 ≠ t.id).map fun _ p => p.2).get? key = i.dirty? t key := by
  rw [Dict.get?_map, Dict.get?_filter, dirty?]
  cases i.pending.get? key with
  | none => rfl
  | some p => by_cases h : p.1 = t.id <;> simp [h, Option.filter_some]

/-- Own writes come before pinned values, and those before what others have pending. -/
theorem get?_overrides : (i.overrides t).get? key =
    (t.ownWrite? key).or ((pinned? t key).or
      (if t.level.readsDirty then i.dirty? t key else none)) := by
  unfold overrides Transaction.ownWrite?
  rw [get?_overlay, get?_overlay_pins]
  split
  · rw [get?_others]
  · rfl

/-- The value of a key that is not overridden: that of the snapshot or of the last commit. -/
def stored (i : SharedIndex) (t : Transaction Record) (key : Key) : Staged :=
  if t.level = .serializable then i.store.at? key t.start else i.store.latest? key

theorem seen_eq : i.seen t key = ((i.overrides t).get? key).getD (i.stored t key) := by
  rw [get?_overrides, seen, committedOrDirty, pinned?, stored]
  cases t.ownWrite? key with
  | some own => rfl
  | none =>
    cases t.level with
    | none => cases i.dirty? t key <;> rfl
    | readUncommitted => cases i.dirty? t key <;> rfl
    | readCommitted => rfl
    | repeatableRead => cases h : t.pins.get? key <;> simp [Isolation.readsDirty]
    | serializable => rfl

theorem current?_eq (t : Transaction Record) (c : Chain Record) :
    current? t c =
      (if t.level = .serializable then c.at? t.start else c.latest?).bind Version.value := by
  unfold current?
  split
  · cases c.at? t.start <;> rfl
  · cases c.latest? <;> rfl

theorem stored_eq : i.stored t key = (i.store.chain? key).bind (current? t) := by
  unfold stored
  rw [VersionStore.at?_eq, VersionStore.latest?_eq]
  cases i.store.chain? key with
  | none => split <;> rfl
  | some c =>
    show _ = current? t c
    rw [current?_eq]
    split <;> rfl

theorem version_of_current? {c : Chain Record} {card : Card Record}
    (h : current? t c = some card) : ∃ v ∈ c.versions, v.value = some card := by
  rw [current?_eq] at h
  obtain ⟨v, hv, hc⟩ := Option.bind_eq_some_iff.1 h
  split at hv
  · exact ⟨v, Version.mem_of_at?_eq_some hv, hc⟩
  · exact ⟨v, List.mem_of_mem_head? hv, hc⟩

end Overrides

section Hits

theorem mem_storedHits {h : Hit Record} {p : Pin Record} :
    (h, p) ∈ i.storedHits t query ↔ ∃ key c card, i.store.chain? key = some c ∧
      c.slot ∈ (i.store.postings.candidates query).toList ∧ (i.overrides t).get? key = none ∧
      current? t c = some card ∧ i.indexing.hit? query key (some c.slot) card = some h ∧
      p = ⟨i.store.lastCommit key, some card⟩ := by
  have hc : ∀ key, (i.overrides t).contains key = false ↔ (i.overrides t).get? key = none :=
    fun key => Option.isSome_eq_false_iff.trans Option.isNone_iff_eq_none
  simp only [storedHits, List.mem_filterMap, Prod.exists, Dict.mem_entries_iff]
  constructor
  · rintro ⟨key, c, hk, hf⟩
    split at hf
    · cases hf
    · next hn =>
      simp only [Bool.or_eq_true, Bool.not_eq_true', not_or, Bool.not_eq_false,
        Bool.not_eq_true, hc, OrderedSet.contains_iff] at hn
      obtain ⟨card, hcard, hf⟩ := Option.bind_eq_some_iff.1 hf
      obtain ⟨hit, hh, hf⟩ := Option.bind_eq_some_iff.1 hf
      cases hf
      exact ⟨key, c, card, hk, hn.1, hn.2, hcard, hh, rfl⟩
  · rintro ⟨key, c, card, hk, hs, ho, hcard, hh, rfl⟩
    refine ⟨key, c, hk, ?_⟩
    rw [OrderedSet.contains_iff.2 hs, (hc key).2 ho, hcard]
    simp [hh]

theorem mem_overriddenHits {h : Hit Record} :
    h ∈ i.overriddenHits t query ↔ ∃ key card, (i.overrides t).get? key = some (some card) ∧
      i.indexing.hit? query key (i.store.slotOf? key) card = some h := by
  simp only [overriddenHits, List.mem_filterMap, Prod.exists, KeyOrder.mem_entries]
  constructor
  · rintro ⟨key, value, hk, hf⟩
    obtain ⟨card, rfl, hf⟩ := Option.bind_eq_some_iff.1 hf
    exact ⟨key, card, hk, hf⟩
  · rintro ⟨key, card, hk, hh⟩
    exact ⟨key, some card, hk, hh⟩

theorem nodup_storedHits : ((i.storedHits t query).map (·.1.key)).Nodup := by
  refine List.Sublist.nodup (map_filterMap_sublist _ _ Prod.fst ?_ _) i.store.chains.nodup
  rintro ⟨key, c⟩ ⟨h, p⟩ hf
  simp only at hf
  split at hf
  · cases hf
  · obtain ⟨card, -, hf⟩ := Option.bind_eq_some_iff.1 hf
    obtain ⟨hit, hh, hf⟩ := Option.bind_eq_some_iff.1 hf
    cases hf
    obtain ⟨_, -, rfl⟩ := Indexing.hit?_eq_some_iff.1 hh
    rfl

theorem nodup_overriddenHits : ((i.overriddenHits t query).map Hit.key).Nodup := by
  refine List.Sublist.nodup (map_filterMap_sublist _ _ Prod.fst ?_ _) KeyOrder.nodup_keys_entries
  rintro ⟨key, value⟩ h hf
  obtain ⟨card, -, hf⟩ := Option.bind_eq_some_iff.1 hf
  obtain ⟨_, -, rfl⟩ := Indexing.hit?_eq_some_iff.1 hf
  rfl

/-- All hits of a search, in the order in which they are found. -/
def foundHits (i : SharedIndex) (t : Transaction Record) (query : List TermSet) :
    List (Hit Record) :=
  (i.storedHits t query).map Prod.fst ++ i.overriddenHits t query

theorem nodup_foundHits : ((i.foundHits t query).map Hit.key).Nodup := by
  rw [foundHits, List.map_append, List.map_map]
  refine List.nodup_append'.2 ⟨nodup_storedHits, nodup_overriddenHits, ?_⟩
  -- a key among the stored hits is not overridden
  intro key hs ho
  obtain ⟨⟨h, p⟩, hm, rfl⟩ := List.mem_map.1 hs
  obtain ⟨h', hm', he⟩ := List.mem_map.1 ho
  obtain ⟨key, c, card, -, -, hn, -, hh, -⟩ := mem_storedHits.1 hm
  obtain ⟨key', card', hk', hh'⟩ := mem_overriddenHits.1 hm'
  obtain ⟨_, -, rfl⟩ := Indexing.hit?_eq_some_iff.1 hh
  obtain ⟨_, -, rfl⟩ := Indexing.hit?_eq_some_iff.1 hh'
  obtain rfl : key' = key := he
  rw [hn] at hk'
  cases hk'

/-- A card that is read from the store and is relevant stands in a slot that the postings give. -/
theorem slot_mem_candidates (hs : i.store.Sound) {c : Chain Record} {card : Card Record}
    {score : Relevance} (hk : i.store.chain? key = some c) (hc : current? t c = some card)
    (hr : i.indexing.score query card = some score) :
    c.slot ∈ (i.store.postings.candidates query).toList := by
  obtain ⟨group, hg, term, ht, hm⟩ := Indexing.exists_of_score hr
  obtain ⟨v, hv, hval⟩ := version_of_current? hc
  exact Postings.mem_candidates.2 ⟨group, hg, term, ht, hs.posted hk v hv card hval term hm⟩

theorem mem_content_foundHits (hs : i.store.Sound) {entry : Record} {score : Relevance} :
    (key, entry, score) ∈ (i.foundHits t query).map Hit.content ↔
      ∃ card, i.seen t key = some card ∧ card.entry = entry ∧
        i.indexing.score query card = some score := by
  simp only [foundHits, List.map_append, List.map_map, List.mem_append, List.mem_map, Prod.exists,
    Function.comp_apply]
  rw [seen_eq]
  constructor
  · rintro (⟨h, p, hm, he⟩ | ⟨h, hm, he⟩)
    · obtain ⟨key', c, card, hk, -, ho, hc, hh, -⟩ := mem_storedHits.1 hm
      obtain ⟨score', hr, rfl⟩ := Indexing.hit?_eq_some_iff.1 hh
      cases he
      exact ⟨card, by rw [ho, stored_eq, hk]; exact hc, rfl, hr⟩
    · obtain ⟨key', card, ho, hh⟩ := mem_overriddenHits.1 hm
      obtain ⟨score', hr, rfl⟩ := Indexing.hit?_eq_some_iff.1 hh
      cases he
      exact ⟨card, by rw [ho]; rfl, rfl, hr⟩
  · rintro ⟨card, hc, rfl, hr⟩
    cases ho : (i.overrides t).get? key with
    | some value =>
      rw [ho, Option.getD_some] at hc
      subst hc
      exact .inr ⟨⟨key, card.entry, score, i.store.slotOf? key⟩,
        mem_overriddenHits.2 ⟨key, card, ho, Indexing.hit?_eq_some_iff.2 ⟨score, hr, rfl⟩⟩, rfl⟩
    | none =>
      rw [ho, Option.getD_none, stored_eq] at hc
      obtain ⟨c, hk, hc⟩ := Option.bind_eq_some_iff.1 hc
      exact .inl ⟨⟨key, card.entry, score, some c.slot⟩, _,
        mem_storedHits.2 ⟨key, c, card, hk, slot_mem_candidates hs hk hc hr, ho, hc,
          Indexing.hit?_eq_some_iff.2 ⟨score, hr, rfl⟩, rfl⟩, rfl⟩

/-- A search shows the keys as reading each of them would. -/
theorem hitsIn_search (hs : i.store.Sound) (t : Transaction Record) (query : List TermSet) :
    HitsIn i.indexing query (i.seen t) (i.search t query).1 :=
  HitsIn.of_perm ⟨nodup_foundHits, fun _ _ _ => mem_content_foundHits hs⟩ (Hit.ranked_perm _)

end Hits

end Cardfile.SharedIndex
