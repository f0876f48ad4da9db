import Cardfile.Proofs.Snapshot

/-! # Commits of serializable transactions

The check before a commit asks whether the contents have changed where the transaction could have
noticed. If it finds nothing, the transaction might as well have started just now.
-/

namespace Cardfile.SharedIndex

variable {i : SharedIndex} {t : Transaction Record} {v : View} {key : Key} {query : List TermSet}

theorem mem_searched {group : TermSet} {term : String} (hq : query ∈ t.searches)
    (hg : group ∈ query) (ht : term ∈ group.toList) : term ∈ (searched t).toList := by
  refine OrderedSet.mem_ofList.2 (List.mem_flatMap.2 ⟨group, ?_, ht⟩)
  exact List.mem_flatten.2 ⟨query, hq, hg⟩

section Clash

/-- Keys that were read or written have no later commit. -/
theorem lastCommit_le_of_clash? (h : i.clash? t = none)
    (hk : key ∈ t.reads.toList ∨ ∃ own, t.ownWrite? key = some own) :
    i.store.lastCommit key ≤ t.start := by
  unfold clash? at h
  split at h
  · cases h
  · next hn =>
    have hm : key ∈ i.checkedKeys t := by
      rcases hk with hr | hw
      · exact List.mem_append_left _ (KeyOrder.mem_arrange.2 hr)
      · exact List.mem_append_right _ (KeyOrder.mem_arrange.2 (Dict.mem_keys_iff.2 hw))
    have hc := List.find?_eq_none.1 hn key hm
    exact Nat.le_of_not_lt fun hlt => hc (decide_eq_true hlt)

/-- No slot with a later commit has a term that was searched for. -/
theorem notMem_termsSince_of_clash? (h : i.clash? t = none) {slot : Slot} {term : String}
    (hslot : slot ∈ (i.store.committedAfter t.start).toList)
    (ht : term ∈ (i.store.termsSince slot t.start).toList) : term ∉ (searched t).toList := by
  intro hterm
  unfold clash? at h
  split at h
  · cases h
  · split at h
    · next he =>
      have hs : t.searches = [] := List.isEmpty_iff.1 he
      unfold searched at hterm
      rw [hs] at hterm
      exact absurd (OrderedSet.mem_ofList.1 hterm) List.not_mem_nil
    · have hn := List.findSome?_eq_none_iff.1 h slot hslot
      rw [if_pos (OrderedSet.meets_iff.2 ⟨term, ht, hterm⟩)] at hn
      cases hn

/-- A transaction without a clash cannot tell the contents at its start from those now. -/
theorem agrees_of_clash? (hs : i.store.Sound) (ha : i.Anchored t v) (h : i.clash? t = none) :
    Agrees i.indexing t v i.store.latest? := by
  have same : ∀ key, i.store.lastCommit key ≤ t.start → v key = i.store.latest? key := by
    intro key hk
    rw [← ha.snapshot key]
    exact VersionStore.at?_eq_latest? hk
  refine ⟨fun key hr => same key (lastCommit_le_of_clash? h (.inl hr)),
    fun key own ho => same key (lastCommit_le_of_clash? h (.inr ⟨own, ho⟩)), ?_⟩
  intro query hq key card score hscore
  rcases Nat.lt_or_ge t.start (i.store.lastCommit key) with hlt | hge
  · -- a card that is relevant has a term of the query, so the key cannot have changed
    obtain ⟨slot, hslot, hnow, hthen⟩ := hs.changed ha.logged hlt
    obtain ⟨group, hg, term, hterm, hcard⟩ := Indexing.exists_of_score hscore
    have hm := mem_searched hq hg hterm
    constructor
    · intro hv
      rw [← ha.snapshot key] at hv
      exact absurd hm (notMem_termsSince_of_clash? h hslot (hthen card hv term hcard))
    · intro hv
      exact absurd hm (notMem_termsSince_of_clash? h hslot (hnow card hv term hcard))
  · rw [same key hge]

end Clash

section Publish

theorem overlaid_of_isReadOnly (h : t.isReadOnly = true) (v : View) : t.overlaid v = v := by
  funext key
  exact Transaction.overlaid_of_none (Dict.isEmpty_iff.1 h key) v

/-- A commit puts the own writes in place. -/
theorem latest?_publish (i : SharedIndex) (t : Transaction Record) :
    (i.publish t).store.latest? = t.overlaid i.store.latest? := by
  rw [publish_eq]
  dsimp only
  split
  · next h => rw [overlaid_of_isReadOnly h]
  · funext key
    cases ho : t.ownWrite? key with
    | some own =>
      have hm : (key, own) ∈ i.order.entries i.store.clock t.writes := KeyOrder.mem_entries.2 ho
      rw [Transaction.overlaid_of_some ho]
      exact VersionStore.latest?_apply_of_mem KeyOrder.nodup_keys_entries hm
    | none =>
      have hm : key ∉ (i.order.entries i.store.clock t.writes).map Prod.fst := by
        rw [KeyOrder.keys_entries]
        exact fun hk => Dict.get?_eq_none_iff.1 ho (KeyOrder.mem_arrange.1 hk)
      rw [Transaction.overlaid_of_none ho]
      exact VersionStore.latest?_apply_of_notMem hm

end Publish

end Cardfile.SharedIndex
