import Cardfile.Proofs.Pairs

/-! # Two indexes in tandem

A step is taken in two indexes that differ in what was pruned. The answers are the same, up to the
order of equally relevant hits and the key that a search clashes with, and afterwards the indexes
still differ in no more than before.
-/

namespace Cardfile

variable {i j : SharedIndex} {s : Session} {t u : Transaction Record} {key key' : Key}
  {c : Change} {op : Operation} {query : List TermSet} {h : Stamp} {w : Waiting} {value : Staged}
  {p S : Key → Prop}

/-- The same clash or none in both, or two clashes of the same transaction with its searches. -/
inductive Clash.Alike : Option Clash → Option Clash → Prop
  | same (c? : Option Clash) : Alike c? c?
  | search (id : TxId) (key key' : Option Key) :
      Alike (some (.onSearch id key)) (some (.onSearch id key'))

namespace SharedIndex

/-- A tried write with the same result in both of two indexes. -/
structure Matched (h : Stamp) (r r' : Except Error Unit × Transaction Record × SharedIndex) :
    Prop where
  answer : r'.1 = r.1
  like : r.2.1.Like r'.2.1
  paired : r.2.2.Paired h r'.2.2

/-- Like progress in both of two indexes. -/
structure Tandem (p : Key → Prop) (h : Stamp) (r r' : Progress × SharedIndex) : Prop where
  progress : r.1.Alike p r'.1
  paired : r.2.Paired h r'.2

section Write

theorem Paired.stage (hp : i.Paired h j) (hl : t.Like u) (key : Key) (value : Staged) :
    (i.stage t key value).2.Paired h (j.stage u key value).2 := by
  unfold SharedIndex.stage
  rw [hp.pending, hl.level_eq, hl.id_eq]
  dsimp only
  split
  · exact hp
  · exact hp.withPending _

theorem Peers.lock (hp : Peers h i j t u) (key : Key) :
    (∃ holder, i.lock t key = .error holder ∧ j.lock u key = .error holder) ∨
      ∃ t' u' i' j', i.lock t key = .ok (t', i') ∧ j.lock u key = .ok (u', j') ∧
        Peers h i' j' t' u' := by
  have hlevel := hp.like.level_eq
  have hid := hp.like.id_eq
  unfold SharedIndex.lock
  rw [hp.paired.locks, hlevel, hid]
  split
  · cases i.locks.acquire key t.id with
    | error holder => exact .inl ⟨holder, rfl, rfl⟩
    | ok r =>
      obtain ⟨isNew, locks⟩ := r
      have hpaired := hp.paired.withLocks locks
      have hleft : ({ i with locks := locks } : SharedIndex).Upholds t :=
        ⟨hp.left.sound, hp.left.dated, hp.left.stands⟩
      have hright : ({ j with locks := locks } : SharedIndex).Upholds u :=
        ⟨hp.right.sound, hp.right.dated, hp.right.stands⟩
      cases isNew with
      | false => exact .inr ⟨_, _, _, _, rfl, rfl, hpaired, hp.like, hp.since, hleft, hright⟩
      | true =>
        refine .inr ⟨_, _, _, _, rfl, rfl, hpaired, ?_, hp.since,
          ⟨hleft.sound, hleft.dated, hleft.stands⟩, ⟨hright.sound, hright.dated, hright.stands⟩⟩
        obtain ⟨pins, rfl, hpins⟩ := hp.like
        exact ⟨pins, rfl, hpins⟩
  · exact .inr ⟨_, _, _, _, rfl, rfl, hp⟩

/-- A write builds on the same value in both. -/
theorem Peers.base_eq (hp : Peers h i j t u) (key : Key) : j.base u key = i.base t key := by
  have hlatest := hp.latest_eq
  have hown := hp.like.ownWrite?_eq key
  have hlevel := hp.like.level_eq
  have hstart := hp.like.start_eq
  have hpins : t.level = .repeatableRead → ∀ {q q'}, t.pins.get? key = some q →
      u.pins.get? key = some q' → q.Alike t.start q' →
        (q.stamp < i.store.lastCommit key ↔ q'.stamp < j.store.lastCommit key) := by
    intro hl q q' hq hq' halike
    exact overtaken_iff hp.paired.store hp.left.dated hp.right.dated (hp.since (.inl hl)) halike
      (hp.left.stands hq) (hstart ▸ hp.right.stands hq')
  obtain ⟨pins, hu, hrel⟩ := hp.like
  have hkey := hrel key
  have hupins : u.pins = pins := by rw [hu]
  rw [← hupins] at hkey
  unfold SharedIndex.base
  rw [hown, hlevel, hstart, ← hlatest]
  split
  · rfl
  · split
    · next hl => exact congrArg Except.ok (hp.paired.store.at_eq (hp.since (.inr hl)) key).symm
    · next hl =>
      have hover := @hpins hl
      generalize t.pins.get? key = q?, u.pins.get? key = q?' at hkey hover
      cases hkey with
      | none => rfl
      | some halike =>
        have hiff := hover rfl rfl halike
        dsimp only
        rw [halike.value]
        simp only [hiff]
    · rfl

theorem Peers.rememberBase (hp : Peers h i j t u) (key : Key) :
    (i.rememberBase t key).Like (j.rememberBase u key) := by
  unfold SharedIndex.rememberBase
  rw [hp.like.level_eq]
  split
  · exact hp.remember key
  · exact hp.like

theorem Peers.writeLocked (hp : Peers h i j t u) (key : Key) (c : Change) :
    Matched h (i.writeLocked t key c) (j.writeLocked u key c) := by
  have hnewer : (decide (u.level = .serializable) && decide (u.start < j.store.lastCommit key)) =
      (decide (t.level = .serializable) && decide (t.start < i.store.lastCommit key)) := by
    rw [hp.like.level_eq, hp.like.start_eq]
    by_cases hl : t.level = .serializable
    · have hiff : t.start < i.store.lastCommit key ↔ t.start < j.store.lastCommit key :=
        hp.paired.store.lt_lastCommit_iff hp.left.dated hp.right.dated (hp.since (.inr hl))
      simp only [hiff]
    · simp only [hl, decide_false, Bool.false_and]
  have staged : ∀ {t' u' : Transaction Record} (value : Staged), t'.Like u' →
      Matched h (.ok (), i.stage t' key value) (.ok (), j.stage u' key value) :=
    fun value hl => ⟨rfl, hl.write key value, hp.paired.stage hl key value⟩
  unfold SharedIndex.writeLocked
  rw [hnewer, hp.base_eq]
  split
  · exact ⟨rfl, hp.like, hp.paired⟩
  · cases c with
    | add card => exact staged (some card) hp.like
    | _ =>
      rcases i.base t key with clash | _ | old
      · exact ⟨rfl, hp.like, hp.paired⟩
      · exact ⟨rfl, hp.rememberBase key, hp.paired⟩
      · exact staged _ (hp.rememberBase key)

theorem Peers.write (hp : Peers h i j t u) (key : Key) (c : Change) :
    (∃ holder, i.write t key c = .error holder ∧ j.write u key c = .error holder) ∨
      ∃ r r', i.write t key c = .ok r ∧ j.write u key c = .ok r' ∧ Matched h r r' := by
  unfold SharedIndex.write
  rcases hp.lock key with ⟨holder, hi, hj⟩ | ⟨t', u', i', j', hi, hj, hp'⟩ <;> rw [hi, hj]
  · exact .inl ⟨holder, rfl, rfl⟩
  · exact .inr ⟨_, _, rfl, rfl, hp'.writeLocked key c⟩

/-- A write leaves the store as it is and its transaction at its level. -/
theorem alike_write {r : Except Error Unit × Transaction Record × SharedIndex}
    (hr : i.write t key c = .ok r) : i.Alike r.2.2 ∧ t.Goes r.2.1 := by
  obtain ⟨keys, k, hk, rfl⟩ := write_ok hr
  have hg := goes_writeLocked k { t with locked := keys } key c
  exact ⟨hk.trans (written_writeLocked ..).alike, ⟨hg.level, hg.start⟩⟩

theorem Peers.writeBound (hp : Peers h i j t u) (hle : h ≤ t.start) (p : Key → Prop) (s : Session)
    (key : Key) (c : Change) :
    Tandem p h (i.writeBound t s key c) (j.writeBound u s key c) := by
  unfold SharedIndex.writeBound
  rcases hp.write key c with ⟨holder, hi, hj⟩ | ⟨r, r', hi, hj, hm⟩ <;> rw [hi, hj]
  · exact ⟨.waiting _, hp.paired⟩
  · have hstart := (alike_write hi).2.start
    refine ⟨.answered ?_, hm.paired.bind hm.like (hstart ▸ hle) s⟩
    rw [hm.answer]
    exact .same _

end Write

section Commit

theorem Paired.isChanged_eq (hp : i.Paired h j) (hl : t.Like u) (hle : h ≤ t.start)
    (hi : i.store.Dated) (hj : j.store.Dated) : j.isChanged u = i.isChanged t := by
  funext key
  have hiff : t.start < i.store.lastCommit key ↔ t.start < j.store.lastCommit key :=
    hp.store.lt_lastCommit_iff hi hj hle
  unfold SharedIndex.isChanged
  rw [hl.start_eq]
  simp only [hiff]

theorem clash?_of_changed (hk : (i.checkedKeys t).find? (i.isChanged t) = some key) :
    i.clash? t = some (.onKey t.id key) := by
  unfold clash?
  rw [hk]

/-- A clash that is not with a key is with a search. -/
theorem clash?_of_unchanged (hk : (i.checkedKeys t).find? (i.isChanged t) = none) {c : Clash}
    (hc : i.clash? t = some c) : ∃ key, c = .onSearch t.id key := by
  unfold clash? at hc
  rw [hk] at hc
  dsimp only at hc
  split at hc
  · cases hc
  · obtain ⟨slot, -, hslot⟩ := List.exists_of_findSome?_eq_some hc
    split at hslot
    · cases hslot
      exact ⟨_, rfl⟩
    · cases hslot

/-- The check before a commit finds the same in both, except that of several keys which clash with
the searches it may name another. -/
theorem Paired.clash?_alike (hp : i.Paired h j) (hl : t.Like u) (hle : h ≤ t.start)
    (hi : i.store.Sound) (hj : j.store.Sound) (hdi : i.store.Dated) (hdj : j.store.Dated)
    (hri : i.Retains t) (hrj : j.Retains u) : Clash.Alike (i.clash? t) (j.clash? u) := by
  have hchanged := hp.isChanged_eq hl hle hdi hdj
  obtain ⟨later, hlater⟩ := hri.told
  obtain ⟨later', hlater'⟩ := hrj.told
  have hlogged' := hrj.logged
  rw [hl.start_eq] at hlater' hlogged'
  have hterms := hp.store.terms_iff hle hi hj hdi hdj hri.logged hlogged' hlater hlater'
  have hkeys : (j.checkedKeys u).find? (j.isChanged u) =
      (i.checkedKeys t).find? (i.isChanged t) := by
    obtain ⟨pins, rfl, -⟩ := hl
    unfold checkedKeys
    rw [hchanged, hp.order, hp.store.clock]
  have hsearched : searched u = searched t := by
    obtain ⟨pins, rfl, -⟩ := hl
    rfl
  have hsome : (i.clash? t).isSome = true ↔ (j.clash? u).isSome = true := by
    rw [clash?_isSome, clash?_isSome, hkeys, hsearched, hl.start_eq]
    refine or_congr_right ?_
    simp only [OrderedSet.meets_iff]
    constructor
    · rintro ⟨slot, hslot, term, hm, hs⟩
      obtain ⟨slot', hslot', hm'⟩ := (hterms term).1 ⟨slot, hslot, hm⟩
      exact ⟨slot', hslot', term, hm', hs⟩
    · rintro ⟨slot, hslot, term, hm, hs⟩
      obtain ⟨slot', hslot', hm'⟩ := (hterms term).2 ⟨slot, hslot, hm⟩
      exact ⟨slot', hslot', term, hm', hs⟩
  -- the keys are checked in the same order in both, the slots perhaps in another
  cases hk : (i.checkedKeys t).find? (i.isChanged t) with
  | some key =>
    rw [clash?_of_changed hk, clash?_of_changed (hkeys.trans hk), hl.id_eq]
    exact .same _
  | none =>
    cases hc : i.clash? t with
    | none =>
      have hc' : j.clash? u = none := by
        rw [hc] at hsome
        exact Option.not_isSome_iff_eq_none.1 fun hj => by simpa using hsome.2 hj
      rw [hc']
      exact .same none
    | some clash =>
      obtain ⟨clash', hc'⟩ := Option.isSome_iff_exists.1 (hsome.1 (by rw [hc]; rfl))
      obtain ⟨key, rfl⟩ := clash?_of_unchanged hk hc
      obtain ⟨key', rfl⟩ := clash?_of_unchanged (hkeys.trans hk) hc'
      rw [hc', hl.id_eq]
      exact .search _ _ _

theorem Paired.commit (hp : i.Paired h j) (hl : t.Like u) (hi : i.store.Sound)
    (hj : j.store.Sound) (p : Key → Prop)
    (hclash : t.level = .serializable → Clash.Alike (i.clash? t) (j.clash? u)) :
    (done (i.commit t)).1.Alike p (done (j.commit u)).1 ∧
      (done (i.commit t)).2.Paired h (done (j.commit u)).2 := by
  have passed : i.commit t = (.ok (), (i.publish t).close t) →
      j.commit u = (.ok (), (j.publish u).close u) →
        (done (i.commit t)).1.Alike p (done (j.commit u)).1 ∧
          (done (i.commit t)).2.Paired h (done (j.commit u)).2 := by
    intro hc hc'
    rw [hc, hc']
    exact ⟨.same _, (hp.publish hl hi hj).close hl⟩
  by_cases hs : t.level = .serializable
  · have hro := hl.isReadOnly_eq
    cases hr : t.isReadOnly with
    | true =>
      refine passed ?_ ?_ <;> unfold SharedIndex.commit
      · rw [hr, Bool.not_true, Bool.and_false]
        rfl
      · rw [hro, hr, Bool.not_true, Bool.and_false]
        rfl
    | false =>
      have hc := commit_of_serializable hs hr i
      have hc' := commit_of_serializable (hl.level_eq.trans hs) (hro.trans hr) j
      have halike := hclash hs
      generalize i.clash? t = c?, j.clash? u = c?' at hc hc' halike
      cases halike with
      | same =>
        cases c? with
        | none => exact passed hc hc'
        | some clash =>
          rw [hc, hc']
          exact ⟨.same _, hp.close hl⟩
      | search id key key' =>
        rw [hc, hc']
        exact ⟨.clash id key key', hp.close hl⟩
  · exact passed (commit_of_ne hs i) (commit_of_ne (hl.level_eq.symm ▸ hs) j)

theorem Peers.writeSingle (hp : Peers h i j t u) (ht : t.IsSingle) (htu : u = t) (p : Key → Prop)
    (s : Session) (key : Key) (c : Change) :
    Tandem p h (i.writeSingle t s key c) (j.writeSingle u s key c) := by
  rw [writeSingle_eq, writeSingle_eq]
  rcases hp.write key c with ⟨holder, hi, hj⟩ | ⟨⟨a, t', i'⟩, ⟨a', u', j'⟩, hi, hj, hm⟩ <;>
    rw [hi, hj]
  · subst htu
    exact ⟨.waiting _, hp.paired⟩
  · obtain ⟨hstore, hgoes⟩ := alike_write hi
    obtain ⟨hstore', -⟩ := alike_write hj
    obtain rfl : a' = a := hm.answer
    cases a' with
    | error e => exact ⟨.answered (.same _), hm.paired.close hm.like⟩
    | ok =>
      have hne : t'.level ≠ .serializable := hgoes.level ▸ ht.level_ne.2
      have hsi : i'.store.Sound := hstore.store ▸ hp.left.sound
      have hsj : j'.store.Sound := hstore'.store ▸ hp.right.sound
      obtain ⟨ha, hpaired⟩ := hm.paired.commit hm.like hsi hsj p fun hs => absurd hs hne
      exact ⟨.answered ha, hpaired⟩

end Commit

/-- An index in order whose store holds what every transaction that runs relies on. -/
structure Firm (i : SharedIndex) : Prop where
  sound : i.store.Sound
  dated : i.store.Dated
  retains : ∀ {s t}, i.registry.current? s = some t → i.Retains t

/-- Two indexes that differ in what was pruned, with the slots of some keys in the same order. -/
structure Twins (S : Key → Prop) (h : Stamp) (i j : SharedIndex) : Prop where
  paired : i.Paired h j
  aligned : i.store.Aligned S j.store
  left : i.Firm
  right : j.Firm

section Read

/-- The sequence number of a hit is the slot of its key. -/
theorem sequence_of_mem_search {x : Hit Record} (hx : x ∈ (i.search t query).1) :
    x.sequence = i.store.slotOf? x.key := by
  have hfound : x ∈ i.foundHits t query := (Hit.ranked_perm _).mem_iff.1 hx
  rcases List.mem_append.1 hfound with hx | hx
  · obtain ⟨⟨x, pin⟩, hm, rfl⟩ := List.mem_map.1 hx
    obtain ⟨key, c, card, hc, -, -, -, hhit, -⟩ := mem_storedHits.1 hm
    obtain ⟨score, -, rfl⟩ := Indexing.hit?_eq_some_iff.1 hhit
    unfold VersionStore.slotOf?
    rw [hc]
    rfl
  · obtain ⟨key, card, -, hhit⟩ := mem_overriddenHits.1 hx
    obtain ⟨score, -, rfl⟩ := Indexing.hit?_eq_some_iff.1 hhit
    rfl

/-- The hits of a search are alike in both. -/
theorem Peers.hits_alike (hp : Peers h i j t u) (ha : i.store.Aligned S j.store)
    (query : List TermSet) :
    Hit.Alike (i.store.Present S) (i.search t query).1 (j.search u query).1 := by
  have hh := (hp.hitsIn query).1
  have hh' := (hp.hitsIn query).2
  have hprec := Hit.pairwise_precedes (i.foundHits t query)
  have hprec' := Hit.pairwise_precedes (j.foundHits u query)
  refine ⟨hh.resemble hh' (Hit.pairwise_ranked _) (Hit.pairwise_ranked _), ?_⟩
  intro key key' hk hk'
  by_cases hne : key = key'
  · subst hne
    have twice : ∀ {hits : List (Hit Record)}, (hits.map Hit.key).Nodup →
        ¬ [key, key].Sublist (hits.map Hit.key) := fun hn hs => by simpa using hs.nodup hn
    exact iff_of_false (twice hh.once) (twice hh'.once)
  · obtain ⟨m, n, hm, hn⟩ := ha.exists_slots hk
    obtain ⟨m', n', hm', hn'⟩ := ha.exists_slots hk'
    have hmm := hp.left.sound.slot_ne hm hm' hne
    have hnn := hp.right.sound.slot_ne hn hn' hne
    have hiff := ha.before hk.1 hk'.1 hm hm' hn hn'
    have slots : ∀ {i : SharedIndex} {t : Transaction Record} {key : Key} {m : Slot},
        i.store.slotOf? key = some m → ∀ x ∈ (i.search t query).1, x.key = key →
          x.sequence = some m :=
      fun hm x hx hkey => (sequence_of_mem_search hx).trans (hkey ▸ hm)
    constructor
    · refine Hit.sublist_of_ranked hh.once (hh.perm hh') hprec hprec' (slots hm) (slots hm')
        (slots hn) (slots hn') fun hle => ?_
      exact hiff.1 (Nat.lt_of_le_of_ne hle hmm)
    · refine Hit.sublist_of_ranked hh'.once (hh'.perm hh) hprec' hprec (slots hn) (slots hn')
        (slots hm) (slots hm') fun hle => ?_
      exact hiff.2 (Nat.lt_of_le_of_ne hle hnn)

/-- A transaction that runs in one of the indexes has a peer in the other. -/
theorem Twins.peers (hw : Twins S h i j) (hc : i.registry.current? s = some t) :
    ∃ u, j.registry.current? s = some u ∧ Peers h i j t u := by
  obtain ⟨u, hu, hl⟩ := hw.paired.current?_some hc
  exact ⟨u, hu, hw.paired, hl, fun _ => hw.paired.since hc,
    ⟨hw.left.sound, hw.left.dated, (hw.left.retains hc).stands⟩,
    ⟨hw.right.sound, hw.right.dated, (hw.right.retains hu).stands⟩⟩

theorem Twins.peers_single (hw : Twins S h i j) :
    Peers h i.single.2 j.single.2 i.single.1 j.single.1 := by
  obtain ⟨he, hp⟩ := hw.paired.single
  rw [he]
  exact hp.peers_of_isSingle (isSingle_single i) hw.left.sound hw.right.sound hw.left.dated
    hw.right.dated

/-- What is read in a transaction of one index is related to what its peer reads. -/
theorem Twins.read {α : Type} {R : α → α → Prop} (hw : Twins S h i j)
    (look : SharedIndex → Transaction Record → α × Transaction Record)
    (hlook : ∀ {i' j' t u}, i'.store = i.store → j'.store = j.store → Peers h i' j' t u →
      R (look i' t).1 (look j' u).1 ∧ (look i' t).2.Like (look j' u).2)
    (hstart : ∀ i t, (look i t).2.start = t.start) (s : Session) :
    R (i.read s look).1 (j.read s look).1 ∧
      (i.read s look).2.Paired h (j.read s look).2 := by
  cases hc : i.registry.current? s with
  | some t =>
    obtain ⟨u, hu, hp⟩ := hw.peers hc
    obtain ⟨hr, hl⟩ := hlook rfl rfl hp
    rw [read_bound hc, read_bound hu]
    exact ⟨hr, hp.paired.bind hl ((hstart i t).symm ▸ hw.paired.since hc) s⟩
  | none =>
    have hp := hw.peers_single
    obtain ⟨hr, hl⟩ := @hlook i.single.2 j.single.2 _ _ rfl rfl hp
    rw [read_single hc, read_single (hw.paired.current?_none hc)]
    exact ⟨hr, hp.paired.close hl⟩

theorem Twins.get (hw : Twins S h i j) (p : Key → Prop) (s : Session) (key : Key) :
    Tandem p h (i.start s (.get key)) (j.start s (.get key)) := by
  have hread := hw.read (R := Eq) (fun i t => i.get t key)
    (fun _ _ hp => ⟨congrArg (fun v : View => (v key).map Card.entry) hp.seen_eq.symm,
      hp.remember key⟩) (fun i t => (reads_remember i t key).start) s
  refine ⟨?_, hread.2⟩
  dsimp only [SharedIndex.start]
  rw [hread.1]
  exact .answered (.same _)

theorem Twins.search (hw : Twins S h i j) (s : Session) (text : String) :
    Tandem (i.store.Present S) h (i.start s (.search text)) (j.start s (.search text)) := by
  have hread : Hit.Alike (i.store.Present S) (i.searchText s text).1 (j.searchText s text).1 ∧
      (i.searchText s text).2.Paired h (j.searchText s text).2 := by
    unfold searchText
    rw [hw.paired.indexing]
    cases i.indexing.analyzer.queryGroups text with
    | nil => exact ⟨⟨⟨.refl _, rfl, .nil⟩, fun _ _ => Iff.rfl⟩, hw.paired⟩
    | cons group rest =>
      refine hw.read (fun i t => i.search t (group :: rest)) (fun hi hj hp => ?_)
        (fun i t => (reads_search i t (group :: rest)).start) s
      refine ⟨?_, hp.search (group :: rest)⟩
      rw [← hi]
      exact hp.hits_alike (hi.symm ▸ hj.symm ▸ hw.aligned) (group :: rest)
  exact ⟨.answered (.hits hread.1), hread.2⟩

end Read

section Start

theorem Twins.startWrite (hw : Twins S h i j) (p : Key → Prop) (s : Session) (key : Key)
    (c : Change) : Tandem p h (i.startWrite s key c) (j.startWrite s key c) := by
  unfold SharedIndex.startWrite
  cases hc : i.registry.current? s with
  | some t =>
    obtain ⟨u, hu, hp⟩ := hw.peers hc
    rw [hu]
    exact hp.writeBound (hw.paired.since hc) p s key c
  | none =>
    rw [hw.paired.current?_none hc]
    exact hw.peers_single.writeSingle (isSingle_single i) hw.paired.single.1 p s key c

theorem Twins.startCard (hw : Twins S h i j) (p : Key → Prop) (s : Session) (key : Key)
    (record entry : Record) (change : Card Record → Change) :
    Tandem p h (i.startCard s key record entry change) (j.startCard s key record entry change) := by
  unfold SharedIndex.startCard
  rw [hw.paired.indexing]
  cases i.indexing.card record entry with
  | error e => exact ⟨.answered (.same _), hw.paired⟩
  | ok card => exact hw.startWrite p s key (change card)

theorem Paired.begin (hp : i.Paired h j) (p : Key → Prop) (s : Session) :
    Tandem p h (answered (i.begin s)) (answered (j.begin s)) := by
  unfold SharedIndex.begin
  rw [hp.mode]
  split
  · exact ⟨.answered (.same _), hp⟩
  · unfold Registry.begin
    cases hc : i.registry.current? s with
    | some t =>
      obtain ⟨u, hu, -⟩ := hp.current?_some hc
      rw [hu]
      exact ⟨.answered (.same _), hp⟩
    | none =>
      have hbound := hp.single.2.bind (.refl i.opened) hp.store.le_clock s
      rw [hp.current?_none hc]
      dsimp only [Registry.takeId]
      rw [hp.nextId, hp.store.clock]
      exact ⟨.answered (.same _), hp.indexing, rfl, hp.order, hp.pending, hp.locks, rfl,
        hp.store, hbound.bound, hbound.since⟩

theorem Twins.commitSession (hw : Twins S h i j) (p : Key → Prop) (s : Session) :
    Tandem p h (answered (i.commitSession s)) (answered (j.commitSession s)) := by
  cases hc : i.registry.current? s with
  | none =>
    rw [commitSession_of_none hc, commitSession_of_none (hw.paired.current?_none hc)]
    exact ⟨.answered (.same _), hw.paired⟩
  | some t =>
    obtain ⟨u, hu, hl⟩ := hw.paired.current?_some hc
    have hclash := hw.paired.clash?_alike hl (hw.paired.since hc) hw.left.sound hw.right.sound
      hw.left.dated hw.right.dated (hw.left.retains hc) (hw.right.retains hu)
    by_cases hactive : t.state = .active
    · rw [commitSession_of_some hc hactive, commitSession_of_some hu (hl.state_eq.trans hactive)]
      obtain ⟨ha, hpaired⟩ := (hw.paired.left s).commit hl hw.left.sound hw.right.sound p
        fun _ => hclash
      exact ⟨.answered ha, hpaired⟩
    · have hended : u.state ≠ .active := fun he => hactive (hl.state_eq.symm.trans he)
      rw [commitSession_of_ended hc hactive, commitSession_of_ended hu hended, hl.id_eq,
        hl.state_eq]
      exact ⟨.answered (.same _), hw.paired.left s⟩

theorem Paired.rollback (hp : i.Paired h j) (p : Key → Prop) (s : Session) :
    Tandem p h (answered (i.rollback s)) (answered (j.rollback s)) := by
  cases hc : i.registry.current? s with
  | none =>
    rw [rollback_of_none hc, rollback_of_none (hp.current?_none hc)]
    exact ⟨.answered (.same _), hp⟩
  | some t =>
    obtain ⟨u, hu, hl⟩ := hp.current?_some hc
    by_cases hactive : t.state = .active
    · rw [rollback_of_some hc hactive, rollback_of_some hu (hl.state_eq.trans hactive)]
      exact ⟨.answered (.same _), (hp.left s).close hl⟩
    · have hended : u.state ≠ .active := fun he => hactive (hl.state_eq.symm.trans he)
      rw [rollback_of_ended hc hactive, rollback_of_ended hu hended]
      exact ⟨.answered (.same _), hp.left s⟩

theorem Paired.activeCount_pos_iff (hp : i.Paired h j) :
    0 < i.registry.activeCount ↔ 0 < j.registry.activeCount := by
  have mono : ∀ {i j : SharedIndex}, i.Paired h j → 0 < i.registry.activeCount →
      0 < j.registry.activeCount := by
    intro i j hp hpos
    obtain ⟨⟨s, t⟩, hm⟩ := List.exists_mem_of_length_pos hpos
    obtain ⟨u, hu, -⟩ := hp.current?_some (Dict.mem_entries_iff.1 hm)
    exact Registry.activeCount_pos hu
  exact ⟨mono hp, mono hp.symm⟩

theorem Paired.clear (hp : i.Paired h j) (p : Key → Prop) :
    Tandem p h (i.changed i.clear) (j.changed j.clear) := by
  unfold SharedIndex.clear
  simp only [← hp.activeCount_pos_iff]
  split
  · exact ⟨.answered (.same _), hp⟩
  · exact ⟨.answered (.same _), hp.indexing, hp.mode, hp.order, hp.pending, hp.locks, hp.nextId,
      hp.store.clear, hp.bound, hp.since⟩

theorem Paired.withIndexing (hp : i.Paired h j) (x : Indexing) :
    Paired h { i with indexing := x } { j with indexing := x } :=
  ⟨rfl, hp.mode, hp.order, hp.pending, hp.locks, hp.nextId, hp.store, hp.bound, hp.since⟩

theorem Twins.size_eq (hw : Twins S h i j) : j.size = i.size := by
  have hlatest := hw.paired.store.latest_eq hw.left.sound hw.right.sound
  refine (VersionStore.liveCount_eq_length i.store.nodup_liveKeys fun key => ?_).trans
    i.store.liveCount_eq.symm
  rw [VersionStore.mem_liveKeys, hlatest]

theorem Twins.changeSettings (hw : Twins S h i j) (p : Key → Prop)
    (change : Analyzer.Settings → Analyzer.Settings) :
    Tandem p h (i.changed (i.changeSettings change)) (j.changed (j.changeSettings change)) := by
  have hguard : (decide (0 < j.size) || !j.pending.isEmpty) =
      (decide (0 < i.size) || !i.pending.isEmpty) := by rw [hw.size_eq, hw.paired.pending]
  unfold SharedIndex.changeSettings
  rw [hguard, hw.paired.indexing]
  split
  · exact ⟨.answered (.same _), hw.paired⟩
  · cases i.indexing.withSettings (change i.indexing.settings) with
    | error e => exact ⟨.answered (.same _), hw.paired⟩
    | ok x => exact ⟨.answered (.same _), hw.paired.withIndexing x⟩

/-- All steps but cleanups have like answers in both. -/
theorem Twins.start (hw : Twins S h i j) (s : Session) (hop : op ≠ .cleanup) :
    Tandem (i.store.Present S) h (i.start s op) (j.start s op) := by
  cases op with
  | begin => exact hw.paired.begin _ s
  | commit => exact hw.commitSession _ s
  | rollback => exact hw.paired.rollback _ s
  | add key record entry => exact hw.startCard _ s key record entry .add
  | update key record entry => exact hw.startCard _ s key record entry .update
  | updateEntry key entry => exact hw.startWrite _ s key (.updateEntry entry)
  | remove key => exact hw.startWrite _ s key .remove
  | get key => exact hw.get _ s key
  | search text => exact hw.search s text
  | clear => exact hw.paired.clear _
  | cleanup => exact absurd rfl hop
  | setMode level =>
    exact ⟨.answered (.same _), hw.paired.indexing, rfl, hw.paired.order, hw.paired.pending,
      hw.paired.locks, hw.paired.nextId, hw.paired.store, hw.paired.bound, hw.paired.since⟩
  | setStopWords words => exact hw.changeSettings _ _
  | setSynonyms table => exact hw.changeSettings _ _
  | _ =>
    refine ⟨.answered (.same _), ?_⟩
    dsimp only [SharedIndex.start, changed]
    rw [hw.paired.indexing]
    exact hw.paired.withIndexing _

end Start

section Wait

/-- A write that waits is tried again in both with like results. -/
theorem Twins.resume (hw : Twins S h i j) (p : Key → Prop)
    (hs : ∀ {t}, w.single = some t → t.IsSingle) : Tandem p h (i.resume w) (j.resume w) := by
  unfold SharedIndex.resume
  cases ht : w.single with
  | some t =>
    have hp := hw.paired.peers_of_isSingle (hs ht) hw.left.sound hw.right.sound hw.left.dated
      hw.right.dated
    exact hp.writeSingle (hs ht) rfl p w.session w.key w.change
  | none =>
    cases hc : i.registry.current? w.session with
    | some t =>
      obtain ⟨u, hu, hp⟩ := hw.peers hc
      rw [hu]
      exact hp.writeBound (hw.paired.since hc) p w.session w.key w.change
    | none =>
      rw [hw.paired.current?_none hc]
      exact ⟨.answered (.same _), hw.paired⟩

theorem Paired.waiter_eq (hp : i.Paired h j) (w : Waiting) : j.waiter w = i.waiter w := by
  unfold waiter
  cases w.single with
  | some t => rfl
  | none =>
    cases hc : i.registry.current? w.session with
    | some t =>
      obtain ⟨u, hu, hl⟩ := hp.current?_some hc
      rw [hu]
      exact hl.id_eq
    | none => rw [hp.current?_none hc]

theorem Paired.expire (hp : i.Paired h j) (p : Key → Prop) (w : Waiting) :
    Tandem p h (answered (i.expire w)) (answered (j.expire w)) := by
  unfold SharedIndex.expire
  rw [hp.waiter_eq]
  cases w.single with
  | some t => exact ⟨.answered (.same _), hp.close (.refl t)⟩
  | none => exact ⟨.answered (.same _), hp⟩

end Wait

section Cleanup

/-- Nobody has started after the present time. -/
theorem Firm.oldestStart_le (hf : i.Firm) : i.registry.oldestStart i.store.clock ≤ i.store.clock := by
  unfold Registry.oldestStart
  cases hm : (i.registry.bound.values.map Transaction.start).min? with
  | none => exact Nat.le_refl _
  | some n =>
    obtain ⟨t, ht, rfl⟩ := List.mem_map.1 (List.min?_eq_some_iff.1 hm).1
    obtain ⟨s, hs⟩ := Dict.mem_values_iff.1 ht
    exact (hf.retains hs).start_le

/-- A cleanup in one of the indexes only. -/
theorem Paired.cleanup (hp : i.Paired h j) (hf : i.Firm) :
    ∃ h', i.cleanup.2.Paired h' j := by
  refine ⟨_, hp.indexing, hp.mode, hp.order, hp.pending, hp.locks, hp.nextId,
    hp.store.pruned hf.dated hf.oldestStart_le, hp.bound, fun hc => ?_⟩
  exact Nat.max_le.2 ⟨hp.since hc, Registry.oldestStart_le hc i.store.clock⟩

end Cleanup

end SharedIndex

end Cardfile
