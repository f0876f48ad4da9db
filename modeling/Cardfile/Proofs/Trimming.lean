import Cardfile.Proofs.Chronicle

/-! # Pruning is exact

A version can be pruned when no reader from a time on can reach it. What such readers get from the
store is the same afterwards, the number that pruning gives is that of the versions it took, and
there is nothing left for a second pruning to take.
-/

namespace Cardfile

variable {ε : Type}

namespace Version

variable {vs : List (Version ε)} {time : Stamp}

@[simp] theorem reachable_reachable : reachable time (reachable time vs) = reachable time vs := by
  induction vs with
  | nil => rfl
  | cons v vs ih => by_cases hv : time < v.stamp <;> simp [reachable, hv, ih]

@[simp] theorem stale_reachable : stale time (reachable time vs) = [] := by
  induction vs with
  | nil => rfl
  | cons v vs ih => by_cases hv : time < v.stamp <;> simp [reachable, stale, hv, ih]

theorem length_reachable_add_length_stale :
    (reachable time vs).length + (stale time vs).length = vs.length := by
  induction vs with
  | nil => rfl
  | cons v vs ih =>
    by_cases hv : time < v.stamp
    · simp only [reachable, stale, hv, if_true, List.length_cons]
      omega
    · simp only [reachable, stale, hv, if_false, List.length_cons, List.length_nil]
      omega

/-- Of versions that are all old enough only the newest can be read. -/
theorem reachable_of_le (h : ∀ v ∈ vs, v.stamp ≤ time) : reachable time vs = vs.head?.toList := by
  cases vs with
  | nil => rfl
  | cons v vs =>
    have hv : ¬ time < v.stamp := Nat.not_lt_of_le (h v List.mem_cons_self)
    simp [reachable, hv]

end Version

namespace Chain

variable {c : Chain ε} {time later : Stamp}

@[simp] theorem pruned_pruned : (c.pruned time).pruned time = c.pruned time := by simp [pruned]

theorem dropped_pruned (h : (c.pruned time).isDead time = false) :
    (c.pruned time).dropped time = 0 := by
  simp only [dropped, pruned_pruned, h]
  simp [pruned]

/-- What pruning takes from a chain and what it leaves is all that there was. -/
theorem length_eq_dropped_add (c : Chain ε) (time : Stamp) : c.versions.length = c.dropped time +
    if (c.pruned time).isDead time then 0 else (c.pruned time).versions.length := by
  have h : (c.pruned time).versions.length + (Version.stale time c.versions).length =
      c.versions.length := Version.length_reachable_add_length_stale
  unfold dropped
  cases hdead : (c.pruned time).isDead time with
  | true => simp [hdead]; omega
  | false => simp [hdead]; omega

theorem termsSince_of_isDead (h : c.isDead time = true) : (c.termsSince time).toList = [] := by
  refine List.eq_nil_iff_forall_not_mem.2 fun term hterm => ?_
  obtain ⟨v, hv, -, card, hcard, -⟩ := mem_termsSince.1 hterm
  unfold isDead at h
  split at h
  · next he => simp [he] at hv
  · next u he =>
    obtain rfl : v = u := by simpa [he] using hv
    simp [hcard] at h
  · cases h

theorem isDead_mono (h : c.isDead time = true) (hle : time ≤ later) : c.isDead later = true := by
  unfold isDead at h ⊢
  split at h
  · rfl
  · simp only [Bool.and_eq_true, decide_eq_true_eq] at h ⊢
    exact ⟨h.1, Nat.le_trans h.2 hle⟩
  · cases h

/-- The terms since a time are those of versions that pruning up to then leaves. -/
theorem termsSince_pruned (hd : c.versions.Pairwise fun v w => w.stamp < v.stamp)
    (hle : time ≤ later) : (c.pruned time).termsSince later = c.termsSince later := by
  have hat : (c.pruned time).at? later = c.at? later := Version.at?_reachable hle
  refine OrderedSet.eq_of_mem_iff fun term => ?_
  rw [mem_termsSince, mem_termsSince, hat]
  constructor
  · rintro ⟨v, hv, hcounts⟩
    exact ⟨v, Version.mem_of_mem_reachable hv, hcounts⟩
  · rintro ⟨v, hv, hcounts, hcard⟩
    refine ⟨v, ?_, hcounts, hcard⟩
    rcases hcounts with hlt | hcurrent
    · exact Version.mem_reachable_of_lt hd hv (Nat.lt_of_le_of_lt hle hlt)
    · -- the version that is current has its stamp for itself
      obtain ⟨u, hu, hstamp⟩ := Option.map_eq_some_iff.1 hcurrent
      have hn : (c.versions.map Version.stamp).Nodup :=
        List.pairwise_map.2 (hd.imp fun hlt => Nat.ne_of_gt hlt)
      obtain rfl : u = v := List.inj_on_of_nodup_map hn (Version.mem_of_at?_eq_some hu) hv hstamp
      exact Version.mem_of_at?_eq_some (hat.trans hu)

end Chain

namespace VersionStore

variable {s : VersionStore ε} {key : Key} {c : Chain ε} {slot : Slot} {term : String}
  {query : List TermSet} {time later : Stamp} {card : Card ε}

section Reached

/-- The stores that commits of distinct keys lead to, with prunings and clearings among them. -/
inductive Reached : VersionStore ε → Prop
  | empty : Reached empty
  | apply {s : VersionStore ε} {ws : List (Write ε)} :
      Reached s → (ws.map Prod.fst).Nodup → Reached (s.apply ws)
  | pruned {s : VersionStore ε} (time : Stamp) : Reached s → Reached (s.pruned time)
  | clear {s : VersionStore ε} : Reached s → Reached s.clear

theorem Reached.sound (h : Reached s) : s.Sound := by
  induction h with
  | empty => exact sound_empty
  | apply _ _ ih => exact ih.apply _
  | pruned time _ ih => exact ih.pruned time
  | clear _ ih => exact ih.clear

theorem Reached.dated (h : Reached s) : s.Dated := by
  induction h with
  | empty => exact dated_empty
  | apply h hn ih => exact ih.apply h.sound hn
  | pruned time _ ih => exact ih.pruned time
  | clear _ ih => exact ih.clear

end Reached

section Reads

theorem Sound.mem_termsSince (h : s.Sound) : term ∈ (s.termsSince slot time).toList ↔
    ∃ key c, s.chain? key = some c ∧ c.slot = slot ∧ term ∈ (c.termsSince time).toList := by
  constructor
  · intro hterm
    unfold termsSince at hterm
    split at hterm
    · next found hfound =>
      have hm : found ∈ s.chains.entries := List.mem_of_find?_eq_some hfound
      have hslot : found.2.slot = slot := by simpa using List.find?_some hfound
      exact ⟨found.1, found.2, Dict.mem_entries_iff.1 hm, hslot, hterm⟩
    · cases hterm
  · rintro ⟨key, c, hc, rfl, hterm⟩
    simpa [termsSince, h.inSlot? hc] using hterm

theorem chain?_pruned_of_isDead (hc : s.chain? key = some c)
    (hdead : (c.pruned time).isDead time = true) : (s.pruned time).chain? key = none := by
  simp [chain?_pruned, hc, hdead]

theorem chain?_pruned_of_not_isDead (hc : s.chain? key = some c)
    (hdead : (c.pruned time).isDead time = false) :
    (s.pruned time).chain? key = some (c.pruned time) := by
  simp [chain?_pruned, hc, hdead]

theorem termsSince_pruned (hs : s.Sound) (hd : s.Dated) (hle : time ≤ later) :
    (s.pruned time).termsSince slot later = s.termsSince slot later := by
  have hchain : ∀ {key c}, s.chain? key = some c →
      (c.pruned time).termsSince later = c.termsSince later := by
    intro key c hc
    exact Chain.termsSince_pruned (versions_of_chain? hc ▸ hd.descending key) hle
  refine OrderedSet.eq_of_mem_iff fun term => ?_
  rw [(hs.pruned time).mem_termsSince, hs.mem_termsSince]
  constructor
  · rintro ⟨key, c, hc, rfl, hterm⟩
    obtain ⟨c₀, hc₀, rfl⟩ := chain?_of_pruned hc
    exact ⟨key, c₀, hc₀, rfl, hchain hc₀ ▸ hterm⟩
  · rintro ⟨key, c, hc, rfl, hterm⟩
    rw [← hchain hc] at hterm
    cases hdead : (c.pruned time).isDead time with
    | false => exact ⟨key, _, chain?_pruned_of_not_isDead hc hdead, rfl, hterm⟩
    | true =>
      rw [Chain.termsSince_of_isDead (Chain.isDead_mono hdead hle)] at hterm
      cases hterm

theorem committedAfter_pruned (hle : time ≤ later) :
    (s.pruned time).committedAfter later = s.committedAfter later := by
  have hlog : ((s.log.filter (time < ·.1)).filter (later < ·.1)) = s.log.filter (later < ·.1) := by
    rw [List.filter_filter]
    refine List.filter_congr fun e _ => ?_
    by_cases hlt : later < e.1
    · simp [hlt, Nat.lt_of_le_of_lt hle hlt]
    · simp [hlt]
  simp only [committedAfter, pruned, hlog]

theorem Dated.lt_lastCommit_pruned_iff (h : s.Dated) (hle : time ≤ later) :
    later < (s.pruned time).lastCommit key ↔ later < s.lastCommit key := by
  rw [(h.pruned time).lt_lastCommit_iff, h.lt_lastCommit_iff]
  refine exists_congr fun v => and_congr_left fun hlt => ?_
  exact h.mem_versions_pruned (Nat.lt_of_le_of_lt hle hlt)

/-- A store that tells readers from a time on what another one tells them. -/
structure TellsFrom (time : Stamp) (s t : VersionStore ε) : Prop where
  at_eq : ∀ key {later}, time ≤ later → t.at? key later = s.at? key later
  latest_eq : ∀ key, t.latest? key = s.latest? key
  changed_iff : ∀ key {later}, time ≤ later → (later < t.lastCommit key ↔ later < s.lastCommit key)
  committed_eq : ∀ {later}, time ≤ later → t.committedAfter later = s.committedAfter later
  terms_eq : ∀ slot {later}, time ≤ later → t.termsSince slot later = s.termsSince slot later

theorem tellsFrom_pruned (hs : s.Sound) (hd : s.Dated) (time : Stamp) :
    TellsFrom time s (s.pruned time) where
  at_eq _ _ hle := at?_pruned hle
  latest_eq _ := latest?_pruned
  changed_iff _ _ hle := hd.lt_lastCommit_pruned_iff hle
  committed_eq hle := committedAfter_pruned hle
  terms_eq _ _ hle := termsSince_pruned hs hd hle

end Reads

section Candidates

/-- Whether a version that is kept in a slot has a term of a query. -/
def Holds (s : VersionStore ε) (slot : Slot) (query : List TermSet) : Prop :=
  ∃ key c, s.chain? key = some c ∧ c.slot = slot ∧ ∃ v ∈ c.versions, ∃ card, v.value = some card ∧
    ∃ terms ∈ query, ∃ term ∈ terms.toList, term ∈ card.terms.toList

theorem Sound.mem_candidates (h : s.Sound) (hold : s.Holds slot query) :
    slot ∈ (s.postings.candidates query).toList := by
  obtain ⟨key, c, hc, rfl, v, hv, card, hcard, terms, hterms, term, hterm, hmem⟩ := hold
  have hposted := h.posted hc v hv card hcard term hmem
  exact Postings.mem_candidates.2 ⟨terms, hterms, term, hterm, hposted⟩

theorem Holds.of_pruned (h : (s.pruned time).Holds slot query) : s.Holds slot query := by
  obtain ⟨key, c, hc, hslot, v, hv, hcard⟩ := h
  obtain ⟨c₀, hc₀, rfl⟩ := chain?_of_pruned hc
  exact ⟨key, c₀, hc₀, hslot, v, Version.mem_of_mem_reachable hv, hcard⟩

/-- The postings are made anew from the versions that are left. -/
theorem mem_candidates_pruned_iff :
    slot ∈ ((s.pruned time).postings.candidates query).toList ↔
      (s.pruned time).Holds slot query := by
  have hpost : (s.pruned time).postings =
      (s.pruned time).chains.values.foldl Chain.post .empty := rfl
  rw [Postings.mem_candidates, hpost]
  simp only [mem_slotsOf_posts, Dict.mem_values_iff]
  constructor
  · rintro ⟨terms, hterms, term, hterm, hnone | ⟨c, ⟨key, hc⟩, rfl, v, hv, card, hcard, hmem⟩⟩
    · cases hnone
    · exact ⟨key, c, hc, rfl, v, hv, card, hcard, terms, hterms, term, hterm, hmem⟩
  · rintro ⟨key, c, hc, rfl, v, hv, card, hcard, terms, hterms, term, hterm, hmem⟩
    exact ⟨terms, hterms, term, hterm, .inr ⟨c, ⟨key, hc⟩, rfl, v, hv, card, hcard, hmem⟩⟩

end Candidates

section Counting

/-- How many versions the store keeps. -/
def versionCount (s : VersionStore ε) : Nat := (s.chains.values.flatMap Chain.versions).length

theorem values_pruned : (s.pruned time).chains.values =
    (s.chains.values.map (·.pruned time)).filter (!·.isDead time) := by
  simp [pruned, Dict.values, Dict.filter, Dict.map, List.filter_map, Function.comp_def]

theorem versionCount_eq_add_dropped (s : VersionStore ε) (time : Stamp) :
    s.versionCount = (s.pruned time).versionCount + s.dropped time := by
  unfold versionCount dropped
  rw [values_pruned]
  induction s.chains.values with
  | nil => rfl
  | cons c cs ih =>
    have hc := c.length_eq_dropped_add time
    cases hdead : (c.pruned time).isDead time with
    | true => simp [hdead] at hc ih ⊢; omega
    | false => simp [hdead] at hc ih ⊢; omega

theorem dropped_pruned (s : VersionStore ε) (time : Stamp) : (s.pruned time).dropped time = 0 := by
  have hall : ∀ c ∈ (s.pruned time).chains.values, c.dropped time = 0 := by
    intro c hc
    rw [values_pruned, List.mem_filter, List.mem_map] at hc
    obtain ⟨⟨c, -, rfl⟩, hlive⟩ := hc
    exact Chain.dropped_pruned (by simpa using hlive)
  unfold dropped
  generalize (s.pruned time).chains.values = cs at hall ⊢
  induction cs with
  | nil => rfl
  | cons c cs ih =>
    rw [List.forall_mem_cons] at hall
    simp [hall.1, ih hall.2]

theorem pruned_pruned (s : VersionStore ε) (time : Stamp) :
    (s.pruned time).pruned time = s.pruned time := by
  have hchains : ((s.pruned time).chains.map fun _ c => c.pruned time).filter
      (fun _ c => !c.isDead time) = (s.pruned time).chains := by
    apply Dict.ext_entries
    simp [pruned, Dict.filter, Dict.map, List.filter_map, Function.comp_def]
  have hlog : (s.pruned time).log.filter (time < ·.1) = (s.pruned time).log := by
    simp [pruned, List.filter_filter]
  refine mk.injEq .. ▸ ⟨hchains, ?_, hlog, rfl, rfl⟩
  exact congrArg (fun chains : Dict Key (Chain ε) => chains.values.foldl Chain.post .empty) hchains

end Counting

section AtTheClock

theorem Sound.versions_pruned_chain (h : s.Sound) (hc : s.chain? key = some c) :
    (c.pruned s.clock).versions = c.versions.head?.toList :=
  Version.reachable_of_le (h.stamp_le hc)

/-- Pruned up to the present the store keeps one version of each key that has a card. -/
theorem Sound.versions_pruned_clock (h : s.Sound) (hcard : s.latest? key = some card) :
    ∃ v, v.value = some card ∧ (s.pruned s.clock).versions key = [v] := by
  rw [latest?_eq, Option.bind_eq_some_iff] at hcard
  obtain ⟨c, hc, hcard⟩ := hcard
  obtain ⟨v, hv, hvalue⟩ := Option.bind_eq_some_iff.1 hcard
  have hkept : (c.pruned s.clock).versions = [v] := by
    rw [h.versions_pruned_chain hc]
    exact congrArg Option.toList hv
  have hlive : (c.pruned s.clock).isDead s.clock = false := by simp [Chain.isDead, hkept, hvalue]
  exact ⟨v, hvalue, (versions_of_chain? (chain?_pruned_of_not_isDead hc hlive)).trans hkept⟩

/-- Pruned up to the present the store has forgotten each key without a card. -/
theorem Sound.chain?_pruned_clock (h : s.Sound) (hnone : s.latest? key = none) :
    (s.pruned s.clock).chain? key = none := by
  cases hc : s.chain? key with
  | none => simp [chain?_pruned, hc]
  | some c =>
    have hkept := h.versions_pruned_chain hc
    apply chain?_pruned_of_isDead hc
    have hlatest : c.versions.head?.bind Version.value = none := by
      simpa [latest?_eq, hc, Chain.latest?] using hnone
    unfold Chain.isDead
    cases hv : c.versions.head? with
    | none => simp [hkept, hv]
    | some v =>
      have hvalue : v.value = none := by simpa [hv] using hlatest
      have hstamp : v.stamp ≤ s.clock := h.stamp_le hc v (List.mem_of_mem_head? hv)
      simp [hkept, hv, hvalue, hstamp]

end AtTheClock

/-- Readers at the time or later do not notice a pruning, a query has just the slots of the versions
that are left for its candidates, and the number given is that of the versions taken. A second
pruning takes nothing. Up to the present, one version is left of each key that has a card. -/
theorem pruning_loses_nothing (h : Reached s) (time : Stamp) :
    TellsFrom time s (s.pruned time) ∧
    (∀ slot query, (slot ∈ ((s.pruned time).postings.candidates query).toList ↔
        (s.pruned time).Holds slot query) ∧
      ((s.pruned time).Holds slot query → slot ∈ (s.postings.candidates query).toList)) ∧
    s.versionCount = (s.pruned time).versionCount + s.dropped time ∧
    ((s.pruned time).dropped time = 0 ∧ (s.pruned time).pruned time = s.pruned time) ∧
    (∀ key card, s.latest? key = some card →
      ∃ v, v.value = some card ∧ (s.pruned s.clock).versions key = [v]) ∧
    ∀ key, s.latest? key = none → (s.pruned s.clock).chain? key = none := by
  refine ⟨tellsFrom_pruned h.sound h.dated time, fun slot query => ?_,
    s.versionCount_eq_add_dropped time, ⟨s.dropped_pruned time, s.pruned_pruned time⟩,
    fun _ _ => h.sound.versions_pruned_clock, fun _ => h.sound.chain?_pruned_clock⟩
  exact ⟨mem_candidates_pruned_iff, fun hold => h.sound.mem_candidates hold.of_pruned⟩

theorem pruning_loses_nothing_of_removal :
    let card : Card Unit := ⟨⟨.ofList ["lean"], none⟩, ()⟩
    let s := ((empty.apply [("k", some card), ("l", some card)]).apply [("k", some card)]).apply
      [("l", none)]
    Reached s ∧ TellsFrom 2 s (s.pruned 2) ∧ s.dropped 2 = 1 ∧ (s.pruned 2).versionCount = 3 ∧
      (∃ v, (s.pruned s.clock).versions "k" = [v]) ∧ (s.pruned s.clock).chain? "l" = none := by
  intro card s
  have hs : Reached s :=
    ((Reached.empty.apply (by decide)).apply (by decide)).apply (by decide)
  obtain ⟨htells, -, hcount, -, hlive, hgone⟩ := pruning_loses_nothing hs 2
  have hall : s.versionCount = 4 := by decide +kernel
  have hdropped : s.dropped 2 = 1 := by decide +kernel
  obtain ⟨v, -, hv⟩ := hlive "k" card rfl
  exact ⟨hs, htells, hdropped, by omega, ⟨v, hv⟩, hgone "l" rfl⟩

end VersionStore

end Cardfile
