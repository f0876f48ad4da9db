import Cardfile.Proofs.VersionStore

/-! # What the store tells of the past

The commits since a time can be read off the store: each of their writes is a version of its key
that is younger than the time, and the log names the slots of just these keys. That stays so when
versions are pruned that nobody from that time on can read.
-/

namespace Cardfile

variable {ε : Type}

namespace Version

variable {vs : List (Version ε)} {v : Version ε} {time : Stamp}

/-- Pruning leaves the versions that are younger than the time. -/
theorem mem_reachable_of_lt (hd : vs.Pairwise fun v w => w.stamp < v.stamp) (hv : v ∈ vs)
    (ht : time < v.stamp) : v ∈ reachable time vs := by
  induction vs with
  | nil => cases hv
  | cons w vs ih =>
    obtain ⟨hw, hvs⟩ := List.pairwise_cons.1 hd
    unfold reachable
    rcases List.mem_cons.1 hv with rfl | hv
    · rw [if_pos ht]
      exact List.mem_cons_self
    · rw [if_pos (Nat.lt_trans ht (hw v hv))]
      exact List.mem_cons_of_mem _ (ih hvs hv)

theorem reachable_sublist : (reachable time vs).Sublist vs := by
  induction vs with
  | nil => exact .slnil
  | cons w vs ih =>
    unfold reachable
    split
    · exact ih.cons_cons w
    · exact (List.nil_sublist vs).cons_cons w

end Version

theorem Chain.isDead_of_lt {c : Chain ε} {v : Version ε} {time : Stamp} (hv : v ∈ c.versions)
    (ht : time < v.stamp) : c.isDead time = false := by
  unfold isDead
  split
  · next he => rw [he] at hv; cases hv
  · next w he =>
    rw [he] at hv
    obtain rfl := List.mem_singleton.1 hv
    rw [decide_eq_false (Nat.not_le_of_lt ht), Bool.and_false]
  · rfl

namespace VersionStore

variable {s : VersionStore ε} {key : Key} {c : Chain ε} {v : Version ε} {w : Write ε}
  {ws later : List (Write ε)} {time start : Stamp} {value : Option (Card ε)}

/-- The versions of a key, newest first. -/
def versions (s : VersionStore ε) (key : Key) : List (Version ε) :=
  ((s.chain? key).map Chain.versions).getD []

section Versions

theorem versions_of_chain? (hc : s.chain? key = some c) : s.versions key = c.versions := by
  unfold versions
  rw [hc]
  rfl

theorem mem_versions : v ∈ s.versions key ↔ ∃ c, s.chain? key = some c ∧ v ∈ c.versions := by
  unfold versions
  cases s.chain? key <;> simp

theorem versions_put : (s.put w).versions key =
    if w.1 = key then ⟨s.clock, w.2⟩ :: s.versions key else s.versions key := by
  unfold versions
  rw [chain?_put]
  split
  · next hk =>
    subst hk
    unfold extended
    cases s.chain? w.1 <;> rfl
  · rfl

theorem versions_puts_of_notMem (hk : key ∉ ws.map Prod.fst) :
    (ws.foldl put s).versions key = s.versions key :=
  congrArg (fun c => (c.map Chain.versions).getD []) (chain?_puts_of_notMem hk)

theorem versions_puts_of_mem (hn : (ws.map Prod.fst).Nodup) (hw : w ∈ ws) :
    (ws.foldl put s).versions w.1 = ⟨s.clock, w.2⟩ :: s.versions w.1 := by
  induction ws generalizing s with
  | nil => cases hw
  | cons w' ws ih =>
    obtain ⟨hk, hr⟩ := List.nodup_cons.1 hn
    rw [List.foldl_cons]
    rcases List.mem_cons.1 hw with rfl | hw
    · rw [versions_puts_of_notMem hk, versions_put, if_pos rfl]
    · have hne : w'.1 ≠ w.1 := fun he => hk (List.mem_map.2 ⟨w, hw, he.symm⟩)
      rw [ih hr hw, versions_put, if_neg hne, clock_put]

theorem versions_apply_of_mem (hn : (ws.map Prod.fst).Nodup) (hw : (key, value) ∈ ws) :
    (s.apply ws).versions key = ⟨s.clock + 1, value⟩ :: s.versions key :=
  versions_puts_of_mem (s := { s with clock := s.clock + 1 }) hn hw

theorem versions_apply_of_notMem (hk : key ∉ ws.map Prod.fst) :
    (s.apply ws).versions key = s.versions key :=
  versions_puts_of_notMem (s := { s with clock := s.clock + 1 }) hk

/-- A commit adds a version for each of its writes. -/
theorem mem_versions_apply (hn : (ws.map Prod.fst).Nodup) : v ∈ (s.apply ws).versions key ↔
    v.stamp = s.clock + 1 ∧ (key, v.value) ∈ ws ∨ v ∈ s.versions key := by
  by_cases hk : key ∈ ws.map Prod.fst
  · obtain ⟨⟨key, value⟩, hw, rfl⟩ := List.mem_map.1 hk
    rw [versions_apply_of_mem hn hw, List.mem_cons]
    refine or_congr_left ⟨?_, ?_⟩
    · rintro rfl
      exact ⟨rfl, hw⟩
    · rintro ⟨hs, hv⟩
      -- the keys of a commit are distinct
      have he : (key, v.value) = (key, value) := List.inj_on_of_nodup_map hn hv hw rfl
      obtain ⟨stamp, value'⟩ := v
      cases hs
      cases he
      rfl
  · rw [versions_apply_of_notMem hk]
    refine (or_iff_right fun h => hk ?_).symm
    exact List.mem_map.2 ⟨_, h.2, rfl⟩

theorem slot_apply (ws : List (Write ε)) (hc : s.chain? key = some c) :
    ∃ c', (s.apply ws).chain? key = some c' ∧ c'.slot = c.slot := by
  have puts : ∀ {s : VersionStore ε} {c : Chain ε}, s.chain? key = some c →
      ∃ c', (ws.foldl put s).chain? key = some c' ∧ c'.slot = c.slot := by
    induction ws with
    | nil => exact fun {s c} hc => ⟨c, hc, rfl⟩
    | cons w ws ih =>
      intro s c hc
      have hput : ∃ c', (s.put w).chain? key = some c' ∧ c'.slot = c.slot := by
        rw [chain?_put]
        split
        · next hk =>
          subst hk
          refine ⟨_, rfl, ?_⟩
          unfold extended
          rw [hc]
          rfl
        · exact ⟨c, hc, rfl⟩
      obtain ⟨c', hc', hs'⟩ := hput
      obtain ⟨c'', hc'', hs''⟩ := ih hc'
      exact ⟨c'', hc'', hs''.trans hs'⟩
  exact puts (s := { s with clock := s.clock + 1 }) hc

end Versions

section Dated

/-- The versions of a key follow one another in time, and so do the commits in the log. -/
structure Dated (s : VersionStore ε) : Prop where
  descending : ∀ key, (s.versions key).Pairwise fun v w => w.stamp < v.stamp
  log_le : ∀ e ∈ s.log, e.1 ≤ s.clock

theorem dated_empty : (empty : VersionStore ε).Dated :=
  ⟨fun _ => .nil, fun _ he => by cases he⟩

theorem Dated.clear (_ : s.Dated) : s.clear.Dated :=
  ⟨fun _ => .nil, fun _ he => by cases he⟩

theorem Sound.stamp_versions_le (hs : s.Sound) (hv : v ∈ s.versions key) : v.stamp ≤ s.clock := by
  obtain ⟨c, hc, hv⟩ := mem_versions.1 hv
  exact hs.stamp_le hc v hv

theorem Dated.apply (h : s.Dated) (hs : s.Sound) (hn : (ws.map Prod.fst).Nodup) :
    (s.apply ws).Dated := by
  constructor
  · intro key
    by_cases hk : key ∈ ws.map Prod.fst
    · obtain ⟨⟨key, value⟩, hw, rfl⟩ := List.mem_map.1 hk
      rw [versions_apply_of_mem hn hw]
      refine List.pairwise_cons.2 ⟨fun v hv => ?_, h.descending key⟩
      exact Nat.lt_succ_of_le (hs.stamp_versions_le hv)
    · rw [versions_apply_of_notMem hk]
      exact h.descending key
  · intro e he
    rw [clock_apply]
    rcases List.mem_cons.1 he with rfl | he
    · exact Nat.le_of_eq clock_puts
    · rw [log_puts] at he
      exact Nat.le_succ_of_le (h.log_le e he)

theorem versions_pruned_sublist : ((s.pruned time).versions key).Sublist (s.versions key) := by
  unfold versions
  rw [chain?_pruned]
  cases s.chain? key with
  | none => exact .slnil
  | some c =>
    rw [Option.map_some, Option.filter_some]
    split
    · exact Version.reachable_sublist
    · exact List.nil_sublist _

theorem Dated.pruned (h : s.Dated) (time : Stamp) : (s.pruned time).Dated :=
  ⟨fun key => (h.descending key).sublist versions_pruned_sublist,
    fun e he => h.log_le e (List.mem_filter.1 he).1⟩

/-- A chain with a version that is younger than the time stays in its slot and keeps it. -/
theorem Dated.chain?_pruned_of_lt (h : s.Dated) (hc : s.chain? key = some c) (hv : v ∈ c.versions)
    (ht : time < v.stamp) :
    ∃ c', (s.pruned time).chain? key = some c' ∧ c'.slot = c.slot ∧ v ∈ c'.versions := by
  have hd : c.versions.Pairwise fun v w => w.stamp < v.stamp :=
    versions_of_chain? hc ▸ h.descending key
  have hv' : v ∈ (c.pruned time).versions := Version.mem_reachable_of_lt hd hv ht
  refine ⟨c.pruned time, ?_, rfl, hv'⟩
  rw [chain?_pruned, hc, Option.map_some, Option.filter_some, Chain.isDead_of_lt hv' ht]
  rfl

theorem Dated.mem_versions_pruned (h : s.Dated) (ht : time < v.stamp) :
    v ∈ (s.pruned time).versions key ↔ v ∈ s.versions key := by
  refine ⟨fun hv => versions_pruned_sublist.subset hv, fun hv => ?_⟩
  obtain ⟨c, hc, hv⟩ := mem_versions.1 hv
  obtain ⟨c', hc', -, hv'⟩ := h.chain?_pruned_of_lt hc hv ht
  exact mem_versions.2 ⟨c', hc', hv'⟩

theorem lastCommit_eq (s : VersionStore ε) (key : Key) :
    s.lastCommit key = ((s.versions key).head?.map Version.stamp).getD 0 := by
  unfold lastCommit versions
  cases s.chain? key <;> rfl

theorem Dated.lt_lastCommit_iff (h : s.Dated) :
    time < s.lastCommit key ↔ ∃ v ∈ s.versions key, time < v.stamp := by
  have hd := h.descending key
  rw [lastCommit_eq]
  cases hvs : s.versions key with
  | nil => simp
  | cons v vs =>
    rw [hvs] at hd
    obtain ⟨hfirst, -⟩ := List.pairwise_cons.1 hd
    refine ⟨fun ht => ⟨v, List.mem_cons_self, ht⟩, ?_⟩
    rintro ⟨w, hw, ht⟩
    rcases List.mem_cons.1 hw with rfl | hw
    · exact ht
    · exact Nat.lt_trans ht (hfirst w hw)

/-- The version that was current at a time is the one with its stamp. -/
theorem Dated.eq_of_stamp (h : s.Dated) (hv : v ∈ s.versions key) {u : Version ε}
    (hu : u ∈ s.versions key) (he : v.stamp = u.stamp) : v = u := by
  have hn : ((s.versions key).map Version.stamp).Nodup :=
    List.pairwise_map.2 ((h.descending key).imp fun hlt => Nat.ne_of_gt hlt)
  exact List.inj_on_of_nodup_map hn hv hu he

end Dated

section Chronicle

/-- The store tells of all writes that were committed since a start, and of no others. -/
structure Chronicle (s : VersionStore ε) (start : Stamp) (later : List (Write ε)) : Prop where
  mem_iff : ∀ key value, (key, value) ∈ later ↔
    ∃ v ∈ s.versions key, start < v.stamp ∧ v.value = value
  log : ∀ e ∈ s.log, start < e.1 → ∀ slot ∈ e.2,
    ∃ key c, s.chain? key = some c ∧ c.slot = slot ∧ ∃ v ∈ c.versions, start < v.stamp

theorem Dated.chronicle_clock (h : s.Dated) (hs : s.Sound) : s.Chronicle s.clock [] := by
  constructor
  · intro key value
    refine ⟨fun hm => absurd hm List.not_mem_nil, ?_⟩
    rintro ⟨v, hv, ht, -⟩
    exact absurd ht (Nat.not_lt_of_le (hs.stamp_versions_le hv))
  · intro e he ht
    exact absurd ht (Nat.not_lt_of_le (h.log_le e he))

/-- A key has been written since the start if its last commit is younger. -/
theorem Chronicle.mem_keys_iff (h : s.Chronicle start later) (hd : s.Dated) :
    key ∈ later.map Prod.fst ↔ start < s.lastCommit key := by
  rw [hd.lt_lastCommit_iff, List.mem_map]
  constructor
  · rintro ⟨⟨key, value⟩, hm, rfl⟩
    obtain ⟨v, hv, hlt, -⟩ := (h.mem_iff key value).1 hm
    exact ⟨v, hv, hlt⟩
  · rintro ⟨v, hv, hlt⟩
    exact ⟨(key, v.value), (h.mem_iff key _).2 ⟨v, hv, hlt, rfl⟩, rfl⟩

theorem Chronicle.apply (h : s.Chronicle start later) (hle : start ≤ s.clock)
    (hn : (ws.map Prod.fst).Nodup) : (s.apply ws).Chronicle start (later ++ ws) := by
  constructor
  · intro key value
    rw [List.mem_append, h.mem_iff]
    constructor
    · rintro (⟨v, hv, hlt, rfl⟩ | hw)
      · exact ⟨v, (mem_versions_apply hn).2 (.inr hv), hlt, rfl⟩
      · refine ⟨⟨s.clock + 1, value⟩, (mem_versions_apply hn).2 (.inl ⟨rfl, hw⟩), ?_, rfl⟩
        exact Nat.lt_succ_of_le hle
    · rintro ⟨v, hv, hlt, rfl⟩
      rcases (mem_versions_apply hn).1 hv with ⟨-, hw⟩ | hv
      · exact .inr hw
      · exact .inl ⟨v, hv, hlt, rfl⟩
  · intro e he hlt slot hslot
    rcases List.mem_cons.1 he with rfl | he
    · obtain ⟨⟨key, value⟩, hw, hkey⟩ := List.mem_filterMap.1 hslot
      have hkey : (s.apply ws).slotOf? key = some slot := hkey
      obtain ⟨c, hc, rfl⟩ := Option.map_eq_some_iff.1 hkey
      refine ⟨key, c, hc, rfl, ⟨s.clock + 1, value⟩, ?_, Nat.lt_succ_of_le hle⟩
      rw [← versions_of_chain? hc, versions_apply_of_mem hn hw]
      exact List.mem_cons_self
    · rw [log_puts] at he
      obtain ⟨key, c, hc, rfl, v, hv, hlt⟩ := h.log e he hlt slot hslot
      obtain ⟨c', hc', hs'⟩ := slot_apply ws hc
      refine ⟨key, c', hc', hs', v, ?_, hlt⟩
      rw [← versions_of_chain? hc']
      exact (mem_versions_apply hn).2 (.inr (mem_versions.2 ⟨c, hc, hv⟩))

theorem Chronicle.pruned (h : s.Chronicle start later) (hd : s.Dated) (ht : time ≤ start) :
    (s.pruned time).Chronicle start later := by
  constructor
  · intro key value
    rw [h.mem_iff]
    constructor
    · rintro ⟨v, hv, hlt, rfl⟩
      exact ⟨v, (hd.mem_versions_pruned (Nat.lt_of_le_of_lt ht hlt)).2 hv, hlt, rfl⟩
    · rintro ⟨v, hv, hlt, rfl⟩
      exact ⟨v, (hd.mem_versions_pruned (Nat.lt_of_le_of_lt ht hlt)).1 hv, hlt, rfl⟩
  · intro e he hlt slot hslot
    obtain ⟨key, c, hc, rfl, v, hv, hv'⟩ := h.log e (List.mem_filter.1 he).1 hlt slot hslot
    obtain ⟨c', hc', hs', hm⟩ := hd.chain?_pruned_of_lt hc hv (Nat.lt_of_le_of_lt ht hv')
    exact ⟨key, c', hc', hs', v, hm, hv'⟩

/-- The terms of the slots that were written to since the start are those that their keys had then
or have had since. -/
theorem Chronicle.terms_iff (h : s.Chronicle start later) (hs : s.Sound) (hd : s.Dated)
    (hl : s.Logged start) (term : String) :
    (∃ slot ∈ (s.committedAfter start).toList, term ∈ (s.termsSince slot start).toList) ↔
      ∃ key ∈ later.map Prod.fst, ∃ card,
        (s.at? key start = some card ∨ (key, some card) ∈ later) ∧ term ∈ card.terms.toList := by
  have since : ∀ {key c}, s.chain? key = some c →
      s.termsSince c.slot start = c.termsSince start := by
    intro key c hc
    simp only [termsSince, hs.inSlot? hc]
  constructor
  · rintro ⟨slot, hslot, hterm⟩
    obtain ⟨e, he, hlt, hm⟩ := mem_committedAfter.1 hslot
    obtain ⟨key, c, hc, rfl, v, hv, hlt⟩ := h.log e he hlt slot hm
    rw [since hc] at hterm
    obtain ⟨u, hu, hwhen, card, hval, hcard⟩ := Chain.mem_termsSince.1 hterm
    have hkey : (key, v.value) ∈ later :=
      (h.mem_iff key v.value).2 ⟨v, mem_versions.2 ⟨c, hc, hv⟩, hlt, rfl⟩
    refine ⟨key, List.mem_map.2 ⟨_, hkey, rfl⟩, card, ?_, hcard⟩
    rcases hwhen with hlt | hat
    · exact .inr ((h.mem_iff key _).2 ⟨u, mem_versions.2 ⟨c, hc, hu⟩, hlt, hval⟩)
    · obtain ⟨old, hold, hstamp⟩ := Option.map_eq_some_iff.1 hat
      have hmem : old ∈ c.versions := Version.mem_of_at?_eq_some hold
      obtain rfl := hd.eq_of_stamp (mem_versions.2 ⟨c, hc, hmem⟩) (mem_versions.2 ⟨c, hc, hu⟩) hstamp
      refine .inl ?_
      rw [at?_eq, hc, Option.bind_some, hold]
      exact hval
  · rintro ⟨key, hkey, card, hcard, hterm⟩
    obtain ⟨⟨key, value⟩, hw, rfl⟩ := List.mem_map.1 hkey
    obtain ⟨v, hv, hlt, rfl⟩ := (h.mem_iff key value).1 hw
    obtain ⟨c, hc, hv⟩ := mem_versions.1 hv
    obtain ⟨slots, hlog, hslot⟩ := hl key c hc v hv hlt
    refine ⟨c.slot, mem_committedAfter.2 ⟨_, hlog, hlt, hslot⟩, ?_⟩
    rw [since hc]
    refine Chain.mem_termsSince.2 ?_
    rcases hcard with hat | hlater
    · rw [at?_eq, hc, Option.bind_some, Option.bind_eq_some_iff] at hat
      obtain ⟨old, hold, hval⟩ := hat
      exact ⟨old, Version.mem_of_at?_eq_some hold, .inr (by rw [hold]; rfl), card, hval, hterm⟩
    · obtain ⟨u, hu, hlt', hval⟩ := (h.mem_iff key _).1 hlater
      exact ⟨u, versions_of_chain? hc ▸ hu, .inl hlt', card, hval, hterm⟩

end Chronicle

end VersionStore

end Cardfile
