import Cardfile.Proofs.Exactness
import Cardfile.Proofs.Pruning
import Cardfile.Proofs.Undo

/-! # Indexes that differ in what was pruned

Two indexes that went through the same operations but were pruned at different times. Reads, writes
and commits do the same on both, except that hits which are equally relevant may come in another
order, and that a refused commit may name another key that its searches clash with.
-/

namespace Cardfile

variable {i j i' j' : SharedIndex} {s s' : Session} {t u t' u' : Transaction Record} {key key' : Key}
  {c : Change} {op : Operation} {query : List TermSet} {h : Stamp} {w : Waiting} {value : Staged}
  {a b : Answer} {p : Key → Prop} {S : Key → Prop} {hits found : List (Hit Record)}
  {q q' : Pin Record} {start : Stamp}

/-- Pins of one value that a transaction cannot tell apart: if their stamps differ, then both are
from before its start. -/
structure Pin.Alike (start : Stamp) (q q' : Pin Record) : Prop where
  value : q'.value = q.value
  stamp : q'.stamp = q.stamp ∨ (q.stamp ≤ start ∧ q'.stamp ≤ start)

/-- The same transaction with pins that it cannot tell apart. -/
def Transaction.Like (t u : Transaction Record) : Prop :=
  ∃ pins, u = { t with pins := pins } ∧
    ∀ key, Option.Rel (Pin.Alike t.start) (t.pins.get? key) (pins.get? key)

/-- The same hits in both, and equally ranked. Hits that are as relevant as one another may change
places, but not those of keys with `p`. -/
structure Hit.Alike (p : Key → Prop) (hits found : List (Hit Record)) : Prop where
  resemble : Hit.Resemble hits found
  before : ∀ {key key'}, p key → p key' →
    ([key, key'].Sublist (hits.map Hit.key) ↔ [key, key'].Sublist (found.map Hit.key))

/-- The same answer, but for hits in another order and the key that a search clashes with. -/
inductive Answer.Alike (p : Key → Prop) : Answer → Answer → Prop
  | same (a : Answer) : Alike p a a
  | hits {hits found : List (Hit Record)} : Hit.Alike p hits found →
      Alike p (.ok (.hits hits)) (.ok (.hits found))
  | clash (id : TxId) (key key' : Option Key) :
      Alike p (.error (.clash (.onSearch id key))) (.error (.clash (.onSearch id key')))

inductive Progress.Alike (p : Key → Prop) : Progress → Progress → Prop
  | answered {a b : Answer} : a.Alike p b → Alike p (.answered a) (.answered b)
  | waiting (w : Waiting) : Alike p (.waiting w) (.waiting w)

section Like

theorem Pin.Alike.refl (start : Stamp) (q : Pin Record) : q.Alike start q := ⟨rfl, .inl rfl⟩

theorem Pin.Alike.symm (hq : q.Alike start q') : q'.Alike start q :=
  ⟨hq.value.symm, hq.stamp.imp Eq.symm And.symm⟩

theorem Transaction.like_of_pins (t : Transaction Record) {pins pins' : Dict Key (Pin Record)}
    (hp : ∀ key, Option.Rel (Pin.Alike t.start) (pins.get? key) (pins'.get? key)) :
    Like { t with pins := pins } { t with pins := pins' } := ⟨pins', rfl, hp⟩

theorem Transaction.Like.refl (t : Transaction Record) : t.Like t := by
  refine ⟨t.pins, rfl, fun key => ?_⟩
  cases t.pins.get? key with
  | none => exact .none
  | some q => exact .some (.refl _ q)

theorem Transaction.Like.symm (hl : t.Like u) : u.Like t := by
  obtain ⟨pins, rfl, hp⟩ := hl
  refine ⟨t.pins, rfl, fun key => ?_⟩
  have hkey := hp key
  dsimp only
  generalize t.pins.get? key = q?, pins.get? key = q?' at hkey
  cases hkey with
  | none => exact .none
  | some hq => exact .some hq.symm

theorem Transaction.Like.id_eq (hl : t.Like u) : u.id = t.id := by
  obtain ⟨pins, rfl, -⟩ := hl
  rfl

theorem Transaction.Like.state_eq (hl : t.Like u) : u.state = t.state := by
  obtain ⟨pins, rfl, -⟩ := hl
  rfl

theorem Transaction.Like.level_eq (hl : t.Like u) : u.level = t.level := by
  obtain ⟨pins, rfl, -⟩ := hl
  rfl

theorem Transaction.Like.start_eq (hl : t.Like u) : u.start = t.start := by
  obtain ⟨pins, rfl, -⟩ := hl
  rfl

theorem Transaction.Like.locked_eq (hl : t.Like u) : u.locked = t.locked := by
  obtain ⟨pins, rfl, -⟩ := hl
  rfl

theorem Transaction.Like.writes_eq (hl : t.Like u) : u.writes = t.writes := by
  obtain ⟨pins, rfl, -⟩ := hl
  rfl

theorem Transaction.Like.ownWrite?_eq (hl : t.Like u) (key : Key) :
    u.ownWrite? key = t.ownWrite? key := congrArg (·.get? key) hl.writes_eq

theorem Transaction.Like.isReadOnly_eq (hl : t.Like u) : u.isReadOnly = t.isReadOnly :=
  congrArg Dict.isEmpty hl.writes_eq

theorem Transaction.Like.write (hl : t.Like u) (key : Key) (value : Staged) :
    (t.write key value).Like (u.write key value) := by
  obtain ⟨pins, rfl, hp⟩ := hl
  exact ⟨pins, rfl, hp⟩

theorem Transaction.Like.pinned?_eq (hl : t.Like u) (key : Key) :
    SharedIndex.pinned? u key = SharedIndex.pinned? t key := by
  obtain ⟨pins, rfl, hp⟩ := hl
  have hkey := hp key
  unfold SharedIndex.pinned?
  dsimp only
  generalize t.pins.get? key = q?, pins.get? key = q?' at hkey
  cases hkey with
  | none => rfl
  | some hq => simp only [Option.map_some, hq.value]

end Like

namespace SharedIndex

/-- Two indexes that are the same but for versions from before a time that no transaction goes back
to, for slots, and for pins that cannot be told apart. -/
structure Paired (h : Stamp) (i j : SharedIndex) : Prop where
  indexing : j.indexing = i.indexing
  mode : j.mode = i.mode
  order : j.order = i.order
  pending : j.pending = i.pending
  locks : j.locks = i.locks
  nextId : j.registry.nextId = i.registry.nextId
  store : i.store.SameSince h j.store
  bound : ∀ s, Option.Rel Transaction.Like (i.registry.current? s) (j.registry.current? s)
  since : ∀ {s t}, i.registry.current? s = some t → h ≤ t.start

/-- What a store holds for a transaction that reads and writes. -/
structure Upholds (i : SharedIndex) (t : Transaction Record) : Prop where
  sound : i.store.Sound
  dated : i.store.Dated
  stands : ∀ {key pin}, t.pins.get? key = some pin → i.store.Stands t.start key pin

/-- A transaction in both of two indexes. -/
structure Peers (h : Stamp) (i j : SharedIndex) (t u : Transaction Record) : Prop where
  paired : i.Paired h j
  like : t.Like u
  since : t.level = .repeatableRead ∨ t.level = .serializable → h ≤ t.start
  left : i.Upholds t
  right : j.Upholds u

section Paired

theorem Paired.symm (hp : i.Paired h j) : j.Paired h i := by
  refine ⟨hp.indexing.symm, hp.mode.symm, hp.order.symm, hp.pending.symm, hp.locks.symm,
    hp.nextId.symm, hp.store.symm, fun s => ?_, fun {s u} hu => ?_⟩
  · have hs := hp.bound s
    generalize i.registry.current? s = t?, j.registry.current? s = u? at hs
    cases hs with
    | none => exact .none
    | some hl => exact .some hl.symm
  · have hs := hp.bound s
    rw [hu] at hs
    generalize ht : i.registry.current? s = t? at hs
    cases hs with
    | some hl =>
      have hle := hp.since ht
      obtain ⟨pins, rfl, -⟩ := hl
      exact hle

theorem Paired.withLocks (hp : i.Paired h j) (l : Locks) :
    Paired h { i with locks := l } { j with locks := l } :=
  ⟨hp.indexing, hp.mode, hp.order, hp.pending, rfl, hp.nextId, hp.store, hp.bound, hp.since⟩

theorem Paired.withPending (hp : i.Paired h j) (d : Dict Key (TxId × Staged)) :
    Paired h { i with pending := d } { j with pending := d } :=
  ⟨hp.indexing, hp.mode, hp.order, rfl, hp.locks, hp.nextId, hp.store, hp.bound, hp.since⟩

theorem Paired.close (hp : i.Paired h j) (hl : t.Like u) : (i.close t).Paired h (j.close u) := by
  unfold SharedIndex.close
  rw [hp.pending, hp.locks, hl.id_eq, hl.locked_eq]
  exact ⟨hp.indexing, hp.mode, hp.order, rfl, rfl, hp.nextId, hp.store, hp.bound, hp.since⟩

theorem Paired.publish (hp : i.Paired h j) (hl : t.Like u) (hi : i.store.Sound)
    (hj : j.store.Sound) : (i.publish t).Paired h (j.publish u) := by
  rw [publish_eq, publish_eq, hl.isReadOnly_eq, hl.writes_eq, hp.order, hp.store.clock]
  refine ⟨hp.indexing, hp.mode, rfl, hp.pending, hp.locks, hp.nextId, ?_, hp.bound, hp.since⟩
  dsimp only
  split
  · exact hp.store
  · exact hp.store.apply hi hj KeyOrder.nodup_keys_entries

theorem rel_update {live live' : Session → Option (Transaction Record)}
    (hb : ∀ s, Option.Rel Transaction.Like (live s) (live' s))
    {t? u? : Option (Transaction Record)} (hl : Option.Rel Transaction.Like t? u?)
    (s s' : Session) :
    Option.Rel Transaction.Like (Function.update live s t? s') (Function.update live' s u? s') := by
  simp only [Function.update_apply]
  split
  · exact hl
  · exact hb s'

theorem Paired.bind (hp : i.Paired h j) (hl : t.Like u) (hs : h ≤ t.start) (s : Session) :
    (i.bind s t).Paired h (j.bind s u) := by
  refine ⟨hp.indexing, hp.mode, hp.order, hp.pending, hp.locks, hp.nextId, hp.store,
    fun s' => ?_, fun {s' t'} hc => ?_⟩
  · unfold SharedIndex.bind
    rw [Registry.current?_bind_eq, Registry.current?_bind_eq]
    exact rel_update hp.bound (.some hl) s s'
  · unfold SharedIndex.bind at hc
    rw [Registry.current?_bind_eq, update_eq_some_iff] at hc
    rcases hc with ⟨-, hc⟩ | ⟨-, hc⟩
    · cases hc
      exact hs
    · exact hp.since hc

theorem current?_left_eq (i : SharedIndex) (s : Session) :
    (i.left s).registry.current? = Function.update i.registry.current? s none :=
  Registry.current?_release_eq i.registry s

theorem Paired.left (hp : i.Paired h j) (s : Session) : (i.left s).Paired h (j.left s) := by
  refine ⟨hp.indexing, hp.mode, hp.order, hp.pending, hp.locks, hp.nextId, hp.store,
    fun s' => ?_, fun {s' t'} hc => ?_⟩
  · rw [current?_left_eq, current?_left_eq]
    exact rel_update hp.bound .none s s'
  · rw [current?_left_eq, update_eq_some_iff] at hc
    rcases hc with ⟨-, hc⟩ | ⟨-, hc⟩
    · cases hc
    · exact hp.since hc

/-- Both indexes give a step the same transaction of its own. -/
theorem Paired.single (hp : i.Paired h j) :
    j.single.1 = i.single.1 ∧ i.single.2.Paired h j.single.2 := by
  refine ⟨?_, hp.indexing, hp.mode, hp.order, hp.pending, hp.locks, ?_, hp.store, hp.bound,
    hp.since⟩
  · simp only [SharedIndex.single, Registry.takeId, hp.nextId, hp.mode, hp.store.clock]
  · simp only [SharedIndex.single, Registry.takeId, hp.nextId]

theorem Paired.current?_none (hp : i.Paired h j) (hc : i.registry.current? s = none) :
    j.registry.current? s = none := by
  have hs := hp.bound s
  rw [hc] at hs
  generalize j.registry.current? s = u? at hs
  cases hs
  rfl

theorem Paired.current?_some (hp : i.Paired h j) (hc : i.registry.current? s = some t) :
    ∃ u, j.registry.current? s = some u ∧ t.Like u := by
  have hs := hp.bound s
  rw [hc] at hs
  generalize j.registry.current? s = u? at hs
  cases hs with
  | some hl => exact ⟨_, rfl, hl⟩

end Paired

section Reads

/-- A transaction for one step is a peer of itself. -/
theorem Paired.peers_of_isSingle (hp : i.Paired h j) (ht : t.IsSingle) (hi : i.store.Sound)
    (hj : j.store.Sound) (hdi : i.store.Dated) (hdj : j.store.Dated) : Peers h i j t t := by
  have hpins : ∀ key, t.pins.get? key = none := by
    obtain ⟨id, mode, start, rfl⟩ := ht
    exact fun _ => rfl
  refine ⟨hp, .refl t, fun hl => absurd hl (not_or.2 ht.level_ne), ⟨hi, hdi, fun hq => ?_⟩,
    ⟨hj, hdj, fun hq => ?_⟩⟩
  all_goals
    rw [hpins] at hq
    cases hq

/-- Pins that cannot be told apart are overtaken by the same commits. -/
theorem overtaken_iff {a b : VersionStore Record} (hs : a.SameSince h b) (ha : a.Dated)
    (hb : b.Dated) (hle : h ≤ start) (hq : q.Alike start q') (hst : a.Stands start key q)
    (hst' : b.Stands start key q') : q.stamp < a.lastCommit key ↔ q'.stamp < b.lastCommit key := by
  have mono : ∀ {a b : VersionStore Record} {q q' : Pin Record}, a.SameSince h b → a.Dated →
      b.Dated → q.Alike start q' → a.Stands start key q → q.stamp < a.lastCommit key →
        q'.stamp < b.lastCommit key := by
    intro a b q q' hs ha hb hq hst hlt
    cases hst with
    | current _ hold => exact absurd hlt (Nat.not_lt_of_le hold)
    | overtaken hstart =>
      rcases hs.lastCommit_cases ha hb key with he | ⟨hold, -⟩
      · rw [← he]
        rcases hq.stamp with hsame | ⟨-, hold⟩
        · exact hsame ▸ hlt
        · exact Nat.lt_of_le_of_lt hold hstart
      · exact absurd hstart (Nat.not_lt_of_le (Nat.le_trans hold hle))
  exact ⟨mono hs ha hb hq hst, mono hs.symm hb ha hq.symm hst'⟩

theorem Peers.latest_eq (hp : Peers h i j t u) : i.store.latest? = j.store.latest? :=
  hp.paired.store.latest_eq hp.left.sound hp.right.sound

theorem Peers.dirty?_eq (hp : Peers h i j t u) (key : Key) : j.dirty? u key = i.dirty? t key := by
  obtain ⟨pins, rfl, -⟩ := hp.like
  unfold dirty?
  rw [hp.paired.pending]

theorem Peers.stored_eq (hp : Peers h i j t u) (key : Key) : j.stored u key = i.stored t key := by
  obtain ⟨pins, rfl, -⟩ := hp.like
  unfold stored
  dsimp only
  split
  · next hl => exact (hp.paired.store.at_eq (hp.since (.inr hl)) key).symm
  · rw [hp.latest_eq]

theorem Peers.overrides_eq (hp : Peers h i j t u) (key : Key) :
    (j.overrides u).get? key = (i.overrides t).get? key := by
  have hpinned := hp.like.pinned?_eq key
  have hdirty := hp.dirty?_eq key
  obtain ⟨pins, rfl, -⟩ := hp.like
  rw [get?_overrides, get?_overrides, hpinned, hdirty]
  rfl

theorem Peers.seen_eq (hp : Peers h i j t u) : j.seen u = i.seen t := by
  funext key
  rw [SharedIndex.seen_eq, SharedIndex.seen_eq, hp.overrides_eq, hp.stored_eq]

/-- Pins that are set at the same time cannot be told apart. -/
theorem Peers.pin_alike (hp : Peers h i j t u) (hl : t.level = .repeatableRead) (key : Key)
    (value : Staged) : Pin.Alike t.start ⟨i.store.lastCommit key, value⟩
      ⟨j.store.lastCommit key, value⟩ := by
  refine ⟨rfl, ?_⟩
  have hle := hp.since (.inl hl)
  rcases hp.paired.store.lastCommit_cases hp.left.dated hp.right.dated key with he | ⟨ho, ho'⟩
  · exact .inl he.symm
  · exact .inr ⟨Nat.le_trans ho hle, Nat.le_trans ho' hle⟩

/-- A pin that is set only where there was none leaves transactions alike. -/
theorem rel_insertNew {pins pins' : Dict Key (Pin Record)}
    (hp : ∀ key, Option.Rel (Pin.Alike start) (pins.get? key) (pins'.get? key))
    (hq : q.Alike start q') (key key' : Key) :
    Option.Rel (Pin.Alike start) ((pins.insertNew key q).get? key')
      ((pins'.insertNew key q').get? key') := by
  rw [Dict.get?_insertNew, Dict.get?_insertNew]
  split
  · next hk =>
    subst hk
    have hold := hp key
    generalize pins.get? key = p?, pins'.get? key = p?' at hold
    cases hold with
    | none => exact .some hq
    | some hold => exact .some hold
  · exact hp key'

theorem Peers.remember (hp : Peers h i j t u) (key : Key) :
    (i.remember t key).Like (j.remember u key) := by
  have hpin := fun hl => hp.pin_alike hl key (i.store.latest? key)
  have hlatest := hp.latest_eq
  obtain ⟨pins, rfl, hpins⟩ := hp.like
  have hown : Transaction.ownWrite? { t with pins := pins } key = t.ownWrite? key := rfl
  unfold SharedIndex.remember
  rw [hown, ← hlatest]
  split
  · exact Transaction.like_of_pins t hpins
  · dsimp only
    split
    · next hl => exact Transaction.like_of_pins t (rel_insertNew hpins (hpin hl) key)
    · exact ⟨pins, rfl, hpins⟩
    · exact Transaction.like_of_pins t hpins

/-- The pin that a search would set for a key. -/
theorem find?_storedHits (hs : i.store.Sound) (t : Transaction Record) (query : List TermSet)
    (key : Key) : ((i.storedHits t query).find? (·.1.key = key)).map Prod.snd =
      if (i.overrides t).get? key = none then
        (i.stored t key).bind fun card => (i.indexing.score query card).map fun _ =>
          ⟨i.store.lastCommit key, some card⟩
      else none := by
  cases hf : (i.storedHits t query).find? (·.1.key = key) with
  | some found =>
    obtain ⟨hit, pin⟩ := found
    have hkey : hit.key = key := by simpa using List.find?_some hf
    obtain ⟨key', c, card, hc, -, ho, hcard, hhit, rfl⟩ :=
      mem_storedHits.1 (List.mem_of_find?_eq_some hf)
    obtain ⟨score, hscore, rfl⟩ := Indexing.hit?_eq_some_iff.1 hhit
    obtain rfl : key' = key := hkey
    have hstored : i.stored t key' = some card := by
      rw [SharedIndex.stored_eq, hc]
      exact hcard
    rw [if_pos ho, hstored, Option.bind_some, hscore]
    rfl
  | none =>
    split
    · next ho =>
      refine Eq.symm (Option.eq_none_iff_forall_ne_some.2 fun pin hpin => ?_)
      obtain ⟨card, hstored, hpin⟩ := Option.bind_eq_some_iff.1 hpin
      obtain ⟨score, hscore, -⟩ := Option.map_eq_some_iff.1 hpin
      rw [SharedIndex.stored_eq] at hstored
      obtain ⟨c, hc, hcard⟩ := Option.bind_eq_some_iff.1 hstored
      have hm : ((⟨key, card.entry, score, some c.slot⟩ : Hit Record),
          (⟨i.store.lastCommit key, some card⟩ : Pin Record)) ∈ i.storedHits t query :=
        mem_storedHits.2 ⟨key, c, card, hc, slot_mem_candidates hs hc hcard hscore, ho, hcard,
          Indexing.hit?_eq_some_iff.2 ⟨score, hscore, rfl⟩, rfl⟩
      simpa using List.find?_eq_none.1 hf _ hm
    · rfl

theorem Peers.hitsIn (hp : Peers h i j t u) (query : List TermSet) :
    HitsIn i.indexing query (i.seen t) (i.search t query).1 ∧
      HitsIn i.indexing query (i.seen t) (j.search u query).1 := by
  refine ⟨hitsIn_search hp.left.sound t query, ?_⟩
  rw [← hp.seen_eq, ← hp.paired.indexing]
  exact hitsIn_search hp.right.sound u query

theorem Peers.search (hp : Peers h i j t u) (query : List TermSet) :
    (i.search t query).2.Like (j.search u query).2 := by
  have hover := hp.overrides_eq
  have hstored := hp.stored_eq
  have hpin := hp.pin_alike
  have hkeys : ∀ key, key ∈ (i.foundHits t query).map Hit.key ↔
      key ∈ (j.foundHits u query).map Hit.key := by
    intro key
    have hperm : ((i.search t query).1.map Hit.content).Perm ((j.search u query).1.map Hit.content) :=
      (hp.hitsIn query).1.perm (hp.hitsIn query).2
    have hranked := (Hit.ranked_perm (i.foundHits t query)).map Hit.key
    have hranked' := (Hit.ranked_perm (j.foundHits u query)).map Hit.key
    rw [← hranked.mem_iff, ← hranked'.mem_iff]
    have hfst : Prod.fst ∘ Hit.content = (Hit.key : Hit Record → Key) := rfl
    have hsame := (hperm.map Prod.fst).mem_iff (a := key)
    rw [List.map_map, List.map_map, hfst] at hsame
    exact hsame
  by_cases hrr : t.level = .repeatableRead
  · obtain ⟨pins, rfl, hpins⟩ := hp.like
    rw [search_repeatable hrr, search_repeatable (t := { t with pins := pins }) hrr]
    refine Transaction.like_of_pins t fun key => ?_
    rw [get?_pinAll, get?_pinAll, find?_storedHits hp.left.sound, find?_storedHits hp.right.sound,
      hover, hstored, hp.paired.indexing]
    have hold := hpins key
    generalize t.pins.get? key = q?, pins.get? key = q?' at hold
    cases hold with
    | some hq => exact .some hq
    | none =>
      rw [Option.none_or, Option.none_or]
      split
      · cases i.stored t key with
        | none => exact .none
        | some card =>
          rw [Option.bind_some, Option.bind_some]
          cases i.indexing.score query card with
          | none => exact .none
          | some score => exact .some (hpin hrr key _)
      · exact .none
  · obtain ⟨pins, rfl, hpins⟩ := hp.like
    by_cases hser : t.level = .serializable
    · have hreads : t.reads.insertAll ((j.foundHits { t with pins := pins } query).map Hit.key) =
          t.reads.insertAll ((i.foundHits t query).map Hit.key) := by
        refine OrderedSet.eq_of_mem_iff fun key => ?_
        rw [OrderedSet.mem_insertAll, OrderedSet.mem_insertAll, hkeys]
      have hleft : (i.search t query).2 = rememberSearch t query (i.storedHits t query)
        (i.foundHits t query) := rfl
      have hright : (j.search { t with pins := pins } query).2 =
        rememberSearch { t with pins := pins } query (j.storedHits { t with pins := pins } query)
          (j.foundHits { t with pins := pins } query) := rfl
      rw [hleft, hright, rememberSearch_serializable hser,
        rememberSearch_serializable (t := { t with pins := pins }) hser]
      dsimp only
      rw [hreads]
      exact ⟨pins, rfl, hpins⟩
    · have hkeep : ∀ (i : SharedIndex) (t : Transaction Record), t.level ≠ .repeatableRead →
          t.level ≠ .serializable → (i.search t query).2 = t := by
        intro i t hrr hser
        unfold SharedIndex.search rememberSearch
        dsimp only
        split
        · next hl => exact absurd hl hrr
        · next hl => exact absurd hl hser
        · rfl
      rw [hkeep i t hrr hser, hkeep j { t with pins := pins } hrr hser]
      exact ⟨pins, rfl, hpins⟩

end Reads

end SharedIndex

namespace Hit

/-- Two keys in the order of the hits are those of two hits in that order. -/
theorem exists_of_sublist (h : [key, key'].Sublist (hits.map Hit.key)) :
    ∃ x y : Hit Record, [x, y].Sublist hits ∧ x.key = key ∧ y.key = key' := by
  obtain ⟨l, hl, he⟩ := List.sublist_map_iff.1 h
  obtain ⟨x, rest, rfl, hx, hrest⟩ := List.map_eq_cons_iff.1 he.symm
  obtain ⟨y, rest, rfl, hy, hnil⟩ := List.map_eq_cons_iff.1 hrest
  obtain rfl := List.map_eq_nil_iff.1 hnil
  exact ⟨x, y, hl, hx, hy⟩

theorem sublist_or_sublist {α : Type} {x y : α} {l : List α} (hx : x ∈ l) (hy : y ∈ l)
    (hne : x ≠ y) : [x, y].Sublist l ∨ [y, x].Sublist l := by
  induction l with
  | nil => cases hx
  | cons z rest ih =>
    rcases List.mem_cons.1 hx with rfl | hx' <;> rcases List.mem_cons.1 hy with rfl | hy'
    · exact absurd rfl hne
    · exact .inl ((List.singleton_sublist.2 hy').cons_cons x)
    · exact .inr ((List.singleton_sublist.2 hx').cons_cons y)
    · exact (ih hx' hy').imp (List.Sublist.cons z) (List.Sublist.cons z)

/-- Ranked hits with the same contents have two keys in the same order if the sequence numbers of
the two are in the same order. -/
theorem sublist_of_ranked {m m' n n' : Nat} (hn : (hits.map Hit.key).Nodup)
    (hperm : (hits.map Hit.content).Perm (found.map Hit.content))
    (hp : hits.Pairwise fun x y => x.precedes y = true)
    (hp' : found.Pairwise fun x y => x.precedes y = true)
    (hm : ∀ x ∈ hits, x.key = key → x.sequence = some m)
    (hm' : ∀ x ∈ hits, x.key = key' → x.sequence = some m')
    (hn' : ∀ x ∈ found, x.key = key → x.sequence = some n)
    (hn'' : ∀ x ∈ found, x.key = key' → x.sequence = some n')
    (hiff : m ≤ m' → n < n') (h : [key, key'].Sublist (hits.map Hit.key)) :
    [key, key'].Sublist (found.map Hit.key) := by
  have hne : key ≠ key' := by
    have hpair := h.nodup hn
    simpa using hpair
  obtain ⟨x, y, hxy, rfl, rfl⟩ := exists_of_sublist h
  have twin : ∀ z ∈ hits, ∃ z' ∈ found, z'.key = z.key ∧ z'.score = z.score := by
    intro z hz
    obtain ⟨z', hz', he⟩ := List.mem_map.1 (hperm.mem_iff.1 (List.mem_map_of_mem hz))
    exact ⟨z', hz', congrArg Prod.fst he, congrArg (fun c => c.2.2) he⟩
  have hx : x ∈ hits := hxy.subset List.mem_cons_self
  have hy : y ∈ hits := hxy.subset (List.mem_cons_of_mem _ List.mem_cons_self)
  obtain ⟨x', hx', hkx, hsx⟩ := twin x hx
  obtain ⟨y', hy', hky, hsy⟩ := twin y hy
  have hne' : x' ≠ y' := by
    rintro rfl
    exact hne (hkx.symm.trans hky)
  rcases sublist_or_sublist hx' hy' hne' with hs | hs
  · have hkeys := hs.map Hit.key
    rw [List.map_cons, List.map_cons, List.map_nil, hkx, hky] at hkeys
    exact hkeys
  · -- the other order needs equal scores, and then the sequence numbers say no
    have hle := Hit.precedes_iff.1 (List.pairwise_iff_forall_sublist.1 hp hxy)
    have hle' := Hit.precedes_iff.1 (List.pairwise_iff_forall_sublist.1 hp' hs)
    rw [hsx, hsy, hn' x' hx' hkx, hn'' y' hy' hky] at hle'
    rw [hm x hx rfl, hm' y hy rfl] at hle
    have hmm : m ≤ m' := of_decide_eq_true (hle.2 hle'.1)
    have hnn : n' ≤ n := of_decide_eq_true (hle'.2 hle.1)
    exact absurd (hiff hmm) (Nat.not_lt_of_le hnn)

end Hit

end Cardfile
