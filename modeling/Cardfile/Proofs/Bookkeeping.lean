import Cardfile.Proofs.Holdings
import Cardfile.Proofs.Snapshot

/-! # Bookkeeping

What steps do to numbers, locks and pending writes. Numbers are given out once, and a transaction
for one step has given back all that it held when the step is done.
-/

namespace Cardfile

variable {i j k : SharedIndex} {s s' : Session} {t u : Transaction Record} {key : Key}
  {c : Change} {op : Operation} {w : Waiting} {live : Session → Option (Transaction Record)}

theorem KeyOrder.entries_insert_of_isEmpty {ν : Type} (o : KeyOrder) {d : Dict Key ν}
    (h : d.isEmpty = true) (time : Nat) (key : Key) (v : ν) :
    o.entries time (d.insert key v) = [(key, v)] := by
  have hd : d.entries = [] := List.isEmpty_iff.1 h
  have hkeys : (d.insert key v).keys = [key] := by
    simp [Dict.keys, Dict.insert, hd, Dict.assign]
  have harrange : o.arrange time [key] = [key] := List.perm_singleton.1 (o.perm _ _)
  simp [KeyOrder.entries, hkeys, harrange]

namespace Registry

theorem current?_bind_eq (r : Registry Record) (s : Session) (t : Transaction Record) :
    (r.bind s t).current? = Function.update r.current? s (some t) := by
  funext s'
  rw [current?_bind, Function.update_apply]
  simp only [eq_comm]

theorem current?_release_eq (r : Registry Record) (s : Session) :
    ({ r with bound := r.bound.erase s } : Registry Record).current? =
      Function.update r.current? s none := by
  funext s'
  rw [current?_release, Function.update_apply]
  simp only [eq_comm]

end Registry

/-- The same transaction, which has at most read on. -/
structure Transaction.Reads (t u : Transaction Record) : Prop where
  id : u.id = t.id
  level : u.level = t.level
  state : u.state = t.state
  start : u.start = t.start
  writes : u.writes = t.writes
  locked : u.locked = t.locked

theorem Transaction.Reads.refl (t : Transaction Record) : t.Reads t := ⟨rfl, rfl, rfl, rfl, rfl, rfl⟩

/-- A transaction for one step that has done nothing yet. -/
def Transaction.IsSingle (t : Transaction Record) : Prop :=
  ∃ id mode start, t = .begun id (Isolation.single mode) start

theorem Isolation.single_ne (level : Isolation) :
    level.single ≠ .repeatableRead ∧ level.single ≠ .serializable := by
  cases level <;> decide

theorem Transaction.IsSingle.level_ne (h : t.IsSingle) :
    t.level ≠ .repeatableRead ∧ t.level ≠ .serializable := by
  obtain ⟨id, mode, start, rfl⟩ := h
  exact mode.single_ne

theorem Transaction.IsSingle.isReadOnly (h : t.IsSingle) : t.isReadOnly = true := by
  obtain ⟨id, mode, start, rfl⟩ := h
  rfl

theorem Transaction.IsSingle.locked (h : t.IsSingle) : t.locked = [] := by
  obtain ⟨id, mode, start, rfl⟩ := h
  rfl

namespace SharedIndex

section Reads

theorem reads_remember (i : SharedIndex) (t : Transaction Record) (key : Key) :
    t.Reads (i.remember t key) := by
  unfold remember
  split
  · exact .refl t
  · split <;> exact ⟨rfl, rfl, rfl, rfl, rfl, rfl⟩

theorem reads_search (i : SharedIndex) (t : Transaction Record) (query : List TermSet) :
    t.Reads (i.search t query).2 := by
  unfold search rememberSearch
  dsimp only
  split <;> exact ⟨rfl, rfl, rfl, rfl, rfl, rfl⟩

theorem reads_noted (i : SharedIndex) (t : Transaction Record) (key : Key) (c : Change) :
    t.Reads (i.noted t key c) := by
  rcases noted_cases i t key c with h | h <;> rw [h]
  · exact .refl t
  · exact ⟨rfl, rfl, rfl, rfl, rfl, rfl⟩

theorem goes_writeLocked (i : SharedIndex) (t : Transaction Record) (key : Key) (c : Change) :
    t.Goes (i.writeLocked t key c).2.1 := by
  have hn := reads_noted i t key c
  have hw := written_writeLocked i t key c
  generalize i.writeLocked t key c = r at hw
  cases hw with
  | clash => exact ⟨rfl, rfl⟩
  | unknown => exact ⟨hn.level, hn.start⟩
  | staged => exact ⟨hn.level, hn.start⟩

/-- Who holds no locks leaves nothing behind. -/
theorem close_of_nil (h : t.locked = []) (i : SharedIndex) : i.close t = i := by
  unfold close
  have hp : (i.pending.filter fun key p => !(t.locked.contains key && p.1 = t.id)) = i.pending := by
    simp [h, Dict.filter]
  rw [hp, h]
  rfl

end Reads

section Write

variable {r : Except Error Unit × Transaction Record × SharedIndex}

theorem holdings_lock (h : Holdings i.locks i.pending live) (hc : live s = some t)
    (hw : i.lock t key = .ok (u, j)) :
    u.id = t.id ∧ u.level = t.level ∧ key ∈ u.locked ∧
      Holdings j.locks j.pending (Function.update live s (some u)) := by
  unfold SharedIndex.lock at hw
  have hlocks : t.level.locks = true := decide_eq_true (h.grouped hc)
  rw [if_pos hlocks] at hw
  unfold Locks.acquire at hw
  cases hn : i.locks.holder? key with
  | none =>
    rw [hn] at hw
    cases hw
    exact ⟨rfl, rfl, List.mem_append_right _ List.mem_cons_self, h.take hc hn⟩
  | some holder =>
    simp only [hn] at hw
    by_cases hid : holder = t.id
    · subst hid
      rw [if_pos rfl] at hw
      cases hw
      have hsame : Function.update live s (some t) = live := hc ▸ Function.update_eq_self ..
      exact ⟨rfl, rfl, (h.mem_locked_iff hc).2 hn, hsame.symm ▸ h⟩
    · rw [if_neg hid] at hw
      cases hw

theorem holdings_written (h : Holdings i.locks i.pending live) (hc : live s = some t)
    (hk : key ∈ t.locked) (hw : i.Written t key c r) :
    r.2.1.id = t.id ∧ r.2.1.level = t.level ∧
      Holdings r.2.2.locks r.2.2.pending (Function.update live s (some r.2.1)) := by
  have hn := reads_noted i t key c
  have hread : Holdings i.locks i.pending (Function.update live s (some (i.noted t key c))) :=
    h.rebind hc hn.id hn.state hn.level hn.locked hn.writes
  cases hw with
  | clash cause =>
    refine ⟨rfl, rfl, ?_⟩
    rw [← hc, Function.update_eq_self]
    exact h
  | unknown => exact ⟨hn.id, hn.level, hread⟩
  | staged value =>
    refine ⟨hn.id, hn.level, ?_⟩
    have hst := hread.stage (Function.update_self ..) (hn.locked ▸ hk) value
    have hl : (i.noted t key c).level ≠ .none := hn.level ▸ h.grouped hc
    rw [Function.update_idem] at hst
    unfold stage
    rw [if_neg hl]
    exact hst

theorem holdings_write (h : Holdings i.locks i.pending live) (hc : live s = some t)
    (hw : i.write t key c = .ok r) :
    r.2.1.id = t.id ∧ r.2.1.level = t.level ∧
      Holdings r.2.2.locks r.2.2.pending (Function.update live s (some r.2.1)) := by
  unfold SharedIndex.write at hw
  cases hl : i.lock t key with
  | error holder => rw [hl] at hw; cases hw
  | ok p =>
    obtain ⟨u, j⟩ := p
    rw [hl] at hw
    cases hw
    obtain ⟨hid, hlevel, hk, hj⟩ := holdings_lock h hc hl
    obtain ⟨hid', hlevel', hr⟩ := holdings_written hj (Function.update_self ..) hk (written_writeLocked j u key c)
    rw [Function.update_idem] at hr
    exact ⟨hid'.trans hid, hlevel'.trans hlevel, hr⟩

/-- A lock that nobody else holds is to be had. -/
theorem lock_of_holder (h : ∀ id, i.locks.holder? key = some id → id = t.id) :
    ∃ r, i.lock t key = .ok r := by
  unfold lock
  split
  · unfold Locks.acquire
    cases hh : i.locks.holder? key with
    | none => exact ⟨_, rfl⟩
    | some id =>
      obtain rfl := h id hh
      simp only [if_true]
      exact ⟨_, rfl⟩
  · exact ⟨_, rfl⟩

theorem write_of_lock (h : ∃ r, i.lock t key = .ok r) (c : Change) :
    ∃ keys j, i.Alike j ∧
      i.write t key c = .ok (j.writeLocked { t with locked := keys } key c) := by
  obtain ⟨⟨u, j⟩, hl⟩ := h
  obtain ⟨hj, keys, rfl⟩ := lock_ok hl
  refine ⟨keys, j, hj, ?_⟩
  unfold write
  rw [hl]
  rfl

end Write

section Single

/-- A write that is committed at once is done on the last commit. -/
theorem finished_eq (hl : t.level ≠ .repeatableRead ∧ t.level ≠ .serializable)
    (hr : t.isReadOnly = true) (j : SharedIndex) (key : Key) (c : Change) :
    finished (j.writeLocked t key c) =
      match c.onto key (j.store.latest? key) with
      | .error e => (.error e, j.close t)
      | .ok value => (.ok .done,
          { (j.stage t key value).2.close (t.write key value) with
            store := j.store.apply [(key, value)] }) := by
  have hg : j.ground t key = j.store.latest? key := by
    unfold ground stored
    rw [if_neg hl.2]
    exact Transaction.overlaid_of_none (Dict.isEmpty_iff.1 hr key) _
  rw [writeLocked_eq hl.1 fun h => absurd h hl.2, hg, noted_of_ne hl.2]
  cases c.onto key (j.store.latest? key) with
  | error e => rfl
  | ok value =>
    have hstage := alike_stage j t key value
    have hwrites : (j.stage t key value).2.order.entries (j.stage t key value).2.store.clock
        (t.write key value).writes = [(key, value)] := by
      rw [hstage.order]
      exact KeyOrder.entries_insert_of_isEmpty _ hr _ key value
    have hu : (t.write key value).isReadOnly = false := Transaction.isReadOnly_write
    have hc : (j.stage t key value).2.commit (j.stage t key value).1 = _ :=
      commit_of_ne (t := t.write key value) hl.2 _
    dsimp only [finished]
    rw [hc, publish_eq, hwrites, hu, hstage.store]
    rfl

theorem writeSingle_eq (i : SharedIndex) (t : Transaction Record) (s : Session) (key : Key)
    (c : Change) :
    i.writeSingle t s key c =
      match i.write t key c with
      | .error holder => (.waiting ⟨s, some t, key, c, holder⟩, i)
      | .ok r => answered (finished r) := by
  unfold writeSingle
  rcases i.write t key c with holder | ⟨_ | _, u, j⟩ <;> rfl

/-- What a write in a transaction for one step does, apart from locks and pending writes. -/
structure Alone (i : SharedIndex) (key : Key) (c : Change) (a : Answer) (j : SharedIndex) :
    Prop where
  answer : a = (c.onto key (i.store.latest? key)).map fun _ => .done
  indexing : j.indexing = i.indexing
  registry : j.registry = i.registry
  mode : j.mode = i.mode
  order : j.order = i.order
  store : j.store =
    match c.onto key (i.store.latest? key) with
    | .ok value => i.store.apply [(key, value)]
    | .error _ => i.store

theorem alone_finished (ht : t.IsSingle) (hw : i.Alike j) (keys : List Key) (key : Key)
    (c : Change) :
    i.Alone key c (finished (j.writeLocked { t with locked := keys } key c)).1
      (finished (j.writeLocked { t with locked := keys } key c)).2 := by
  rw [finished_eq (t := { t with locked := keys }) ht.level_ne ht.isReadOnly, hw.store]
  cases hc : c.onto key (i.store.latest? key) with
  | error e =>
    refine ⟨?_, hw.indexing, hw.registry, hw.mode, hw.order, ?_⟩
    · rw [hc]; rfl
    · rw [hc]; exact hw.store
  | ok value =>
    have hj := hw.trans (alike_stage j { t with locked := keys } key value)
    refine ⟨?_, hj.indexing, hj.registry, hj.mode, hj.order, ?_⟩
    · rw [hc]; rfl
    · rw [hc]

theorem writeSingle_cases (ht : t.IsSingle) (i : SharedIndex) (s : Session) (key : Key)
    (c : Change) :
    (∃ holder, i.writeSingle t s key c = (.waiting ⟨s, some t, key, c, holder⟩, i)) ∨
      ∃ a j, i.writeSingle t s key c = (.answered a, j) ∧ i.Alone key c a j := by
  rw [writeSingle_eq]
  cases hw : i.write t key c with
  | error holder => exact .inl ⟨holder, rfl⟩
  | ok r =>
    obtain ⟨keys, j, hj, rfl⟩ := write_ok hw
    exact .inr ⟨_, _, rfl, alone_finished ht hj keys key c⟩

end Single

section Tidy

/-- Numbers are given out once, and locks and pending writes belong to transactions that run. -/
structure Tidy (i : SharedIndex) : Prop where
  numbered : ∀ {s t}, i.registry.current? s = some t → t.id < i.registry.nextId
  holdings : Holdings i.locks i.pending i.registry.current?

/-- A move to a tidy index in which transactions keep their numbers or get new ones. -/
structure Orderly (i j : SharedIndex) : Prop where
  tidy : j.Tidy
  nextId_le : i.registry.nextId ≤ j.registry.nextId
  known : ∀ {s u}, j.registry.current? s = some u →
    i.registry.nextId ≤ u.id ∨ ∃ s' t, i.registry.current? s' = some t ∧ t.id = u.id

theorem Orderly.congr (h : i.Orderly j) (hr : k.registry = j.registry) (hl : k.locks = j.locks)
    (hp : k.pending = j.pending) : i.Orderly k := by
  obtain ⟨⟨hnum, hhold⟩, hle, hknown⟩ := h
  rw [← hr] at hnum hhold hle hknown
  rw [← hl, ← hp] at hhold
  exact ⟨⟨hnum, hhold⟩, hle, hknown⟩

theorem Tidy.orderly (h : i.Tidy) : i.Orderly i :=
  ⟨h, Nat.le_refl _, fun hc => .inr ⟨_, _, hc, rfl⟩⟩

/-- The transaction of a session goes on under its number. -/
theorem Tidy.rebound (h : i.Tidy) (hc : i.registry.current? s = some t) (hid : u.id = t.id)
    (hr : j.registry = i.registry.bind s u)
    (hh : Holdings j.locks j.pending (Function.update i.registry.current? s (some u))) :
    i.Orderly j := by
  have hcur : j.registry.current? = Function.update i.registry.current? s (some u) := by
    rw [hr, Registry.current?_bind_eq]
  have hnext : j.registry.nextId = i.registry.nextId := by rw [hr]; rfl
  have known : ∀ {s' u'}, j.registry.current? s' = some u' →
      ∃ s' t', i.registry.current? s' = some t' ∧ t'.id = u'.id := by
    intro s' u' hu
    rw [hcur, update_eq_some_iff] at hu
    rcases hu with ⟨-, hu⟩ | ⟨-, hu⟩
    · cases hu
      exact ⟨s, t, hc, hid.symm⟩
    · exact ⟨s', u', hu, rfl⟩
  refine ⟨⟨fun hu => ?_, hcur ▸ hh⟩, Nat.le_of_eq hnext.symm, fun hu => .inr (known hu)⟩
  obtain ⟨s', t', ht', hid'⟩ := known hu
  rw [hnext, ← hid']
  exact h.numbered ht'

/-- The transaction of a session is over. -/
theorem Tidy.released (h : i.Tidy)
    (hr : j.registry = { i.registry with bound := i.registry.bound.erase s })
    (hh : Holdings j.locks j.pending (Function.update i.registry.current? s none)) :
    i.Orderly j := by
  have hcur : j.registry.current? = Function.update i.registry.current? s none := by
    rw [hr, Registry.current?_release_eq]
  have hnext : j.registry.nextId = i.registry.nextId := by rw [hr]
  have known : ∀ {s' u'}, j.registry.current? s' = some u' →
      i.registry.current? s' = some u' := by
    intro s' u' hu
    rw [hcur, update_eq_some_iff] at hu
    rcases hu with ⟨-, hu⟩ | ⟨-, hu⟩
    · cases hu
    · exact hu
  exact ⟨⟨fun hu => hnext ▸ h.numbered (known hu), hcur ▸ hh⟩, Nat.le_of_eq hnext.symm,
    fun hu => .inr ⟨_, _, known hu, rfl⟩⟩

/-- A number has been given out, and nothing else has happened. -/
theorem Tidy.single (h : i.Tidy) : i.Orderly i.single.2 :=
  ⟨⟨fun hc => Nat.lt_succ_of_lt (h.numbered hc), h.holdings⟩, Nat.le_succ _,
    fun hc => .inr ⟨_, _, hc, rfl⟩⟩

theorem Orderly.trans (h : i.Orderly j) (h' : j.Orderly k) : i.Orderly k := by
  refine ⟨h'.tidy, Nat.le_trans h.nextId_le h'.nextId_le, fun hu => ?_⟩
  rcases h'.known hu with hle | ⟨s', t, hc, hid⟩
  · exact .inl (Nat.le_trans h.nextId_le hle)
  · rcases h.known hc with hle | ⟨s'', t', hc', hid'⟩
    · exact .inl (hid ▸ hle)
    · exact .inr ⟨s'', t', hc', hid'.trans hid⟩

theorem Tidy.begin (h : i.Tidy) (s : Session) : i.Orderly (i.begin s).2 := by
  unfold SharedIndex.begin
  split
  · exact h.orderly
  · next hm =>
    unfold Registry.begin
    cases hn : i.registry.current? s with
    | some t => exact h.orderly
    | none =>
      have hopen : Holdings i.locks i.pending
          (Function.update i.registry.current? s (some i.opened)) :=
        h.holdings.open hn hm fun s' t' hc => Nat.ne_of_lt (h.numbered hc)
      have hcur : (i.registry.takeId.2.bind s i.opened).current? = _ :=
        Registry.current?_bind_eq ..
      refine ⟨⟨fun {s'} {t'} hc => ?_, hcur ▸ hopen⟩, Nat.le_succ _, fun {s'} {t'} hc => ?_⟩
      all_goals
        change (i.registry.takeId.2.bind s i.opened).current? s' = some t' at hc
        rw [hcur, update_eq_some_iff] at hc
        rcases hc with ⟨-, hc⟩ | ⟨-, hc⟩
      · cases hc
        exact Nat.lt_succ_self _
      · exact Nat.lt_succ_of_lt (h.numbered hc)
      · cases hc
        exact .inl (Nat.le_refl _)
      · exact .inr ⟨_, _, hc, rfl⟩

theorem Tidy.left_close (h : i.Tidy) (hc : i.registry.current? s = some t) :
    i.Orderly ((i.left s).close t) :=
  h.released rfl (h.holdings.close hc)

theorem Tidy.commitSession (h : i.Tidy) (s : Session) : i.Orderly (i.commitSession s).2 := by
  cases hc : i.registry.current? s with
  | none => rw [commitSession_of_none hc]; exact h.orderly
  | some t =>
    rw [commitSession_of_some hc (h.holdings.active hc)]
    have hclose := h.left_close hc
    rcases commit_cases (i.left s) t with ⟨c, hcommit⟩ | ⟨hcommit, -⟩
    · rw [hcommit]
      exact hclose
    · rw [hcommit, publish_eq]
      exact hclose.congr rfl rfl rfl

theorem Tidy.rollback (h : i.Tidy) (s : Session) : i.Orderly (i.rollback s).2 := by
  cases hc : i.registry.current? s with
  | none => rw [rollback_of_none hc]; exact h.orderly
  | some t =>
    rw [rollback_of_some hc (h.holdings.active hc)]
    exact h.left_close hc

theorem Tidy.read {α : Type} (h : i.Tidy) (s : Session)
    (look : SharedIndex → Transaction Record → α × Transaction Record)
    (hlook : ∀ i t, Transaction.Reads t (look i t).2) : i.Orderly (i.read s look).2 := by
  cases hc : i.registry.current? s with
  | some t =>
    have hr := hlook i t
    rw [read_bound hc]
    exact h.rebound hc hr.id rfl
      (h.holdings.rebind hc hr.id hr.state hr.level hr.locked hr.writes)
  | none =>
    rw [read_single hc, close_of_nil (hlook i.single.2 i.single.1).locked]
    exact h.single

theorem Tidy.searchText (h : i.Tidy) (s : Session) (query : String) :
    i.Orderly (i.searchText s query).2 := by
  unfold SharedIndex.searchText
  split
  · exact h.orderly
  · exact h.read s _ fun i t => reads_search i t _

theorem Tidy.writeBound (h : i.Tidy) (hc : i.registry.current? s = some t) (key : Key)
    (c : Change) : i.Orderly (i.writeBound t s key c).2 := by
  unfold SharedIndex.writeBound
  cases hw : i.write t key c with
  | error holder => exact h.orderly
  | ok r =>
    obtain ⟨hid, -, hh⟩ := holdings_write h.holdings hc hw
    obtain ⟨keys, j, hj, rfl⟩ := write_ok hw
    have hreg := (hj.trans (written_writeLocked j { t with locked := keys } key c).alike).registry
    refine h.rebound hc hid ?_ hh
    exact congrArg (Registry.bind · s _) hreg

/-- A transaction that no session has, under a number of its own. -/
structure Apart (i : SharedIndex) (t : Transaction Record) : Prop where
  id_lt : t.id < i.registry.nextId
  id_ne : ∀ s u, i.registry.current? s = some u → u.id ≠ t.id

/-- A transaction for one step holds nothing when its step is done. -/
theorem holdings_finished {r : Except Error Unit × Transaction Record × SharedIndex}
    (h : Holdings r.2.2.locks r.2.2.pending (Function.update live s (some r.2.1)))
    (hl : r.2.1.level ≠ .serializable) (hn : live s = none) :
    Holdings (finished r).2.locks (finished r).2.pending live := by
  have hclose := h.close (Function.update_self ..)
  rw [Function.update_idem, ← hn, Function.update_eq_self] at hclose
  obtain ⟨_ | _, u, j⟩ := r
  · exact hclose
  · have hc : j.commit u = _ := commit_of_ne hl j
    unfold finished done
    dsimp only
    rw [hc, publish_eq]
    exact hclose

theorem holdings_finished_of_none {j : SharedIndex} (hl : t.level = .none) (ht : t.IsSingle)
    (hh : Holdings j.locks j.pending live) (key : Key) (c : Change) :
    Holdings (finished (j.writeLocked t key c)).2.locks
      (finished (j.writeLocked t key c)).2.pending live := by
  have hstage : ∀ value, (j.stage t key value).2 = j := fun value => if_pos hl
  have hclose : ∀ value, j.close (t.write key value) = j := fun _ => close_of_nil ht.locked j
  rw [finished_eq ht.level_ne ht.isReadOnly]
  split
  · rw [close_of_nil ht.locked]
    exact hh
  · rw [hstage, hclose]
    exact hh

theorem Tidy.writeSingle (h : i.Tidy) (ht : t.IsSingle) (hn : i.registry.current? s = none)
    (hu : i.Apart t) (key : Key) (c : Change) : i.Orderly (i.writeSingle t s key c).2 := by
  rw [writeSingle_eq]
  cases hw : i.write t key c with
  | error holder => exact h.orderly
  | ok r =>
    have hreg : (finished r).2.registry = i.registry := by
      obtain ⟨keys, j, hj, rfl⟩ := write_ok hw
      exact (alone_finished ht hj keys key c).registry
    suffices hh : Holdings (finished r).2.locks (finished r).2.pending i.registry.current? by
      have hcur : (finished r).2.registry.current? = i.registry.current? := by rw [hreg]
      exact ⟨⟨fun hc => hreg ▸ h.numbered (hreg ▸ hc), hcur ▸ hh⟩,
        Nat.le_of_eq (congrArg _ hreg.symm), fun hc => .inr ⟨_, _, hreg ▸ hc, rfl⟩⟩
    by_cases hl : t.level = .none
    · have hlock : i.lock t key = .ok (t, i) := by
        unfold SharedIndex.lock
        rw [hl]
        rfl
      have hr : r = i.writeLocked t key c := by
        unfold SharedIndex.write at hw
        rw [hlock] at hw
        exact (Except.ok.inj hw).symm
      rw [hr]
      exact holdings_finished_of_none hl ht h.holdings key c
    · have hopen : Holdings i.locks i.pending (Function.update i.registry.current? s (some t)) := by
        obtain ⟨id, mode, start, rfl⟩ := ht
        exact h.holdings.open hn hl hu.id_ne
      obtain ⟨-, hlevel, hr⟩ := holdings_write hopen (Function.update_self ..) hw
      rw [Function.update_idem] at hr
      exact holdings_finished hr (hlevel ▸ ht.level_ne.2) hn

theorem isSingle_single (i : SharedIndex) : i.single.1.IsSingle := ⟨_, _, _, rfl⟩

theorem Tidy.apart_single (h : i.Tidy) : i.single.2.Apart i.single.1 :=
  ⟨Nat.lt_succ_self _, fun _ _ hc => Nat.ne_of_lt (h.numbered hc)⟩

theorem Tidy.startWrite (h : i.Tidy) (s : Session) (key : Key) (c : Change) :
    i.Orderly (i.startWrite s key c).2 := by
  unfold SharedIndex.startWrite
  cases hc : i.registry.current? s with
  | some t => exact h.writeBound hc key c
  | none =>
    exact h.single.trans (h.single.tidy.writeSingle (isSingle_single i) hc h.apart_single key c)

theorem Tidy.startCard (h : i.Tidy) (s : Session) (key : Key) (record entry : Record)
    (change : Card Record → Change) : i.Orderly (i.startCard s key record entry change).2 := by
  unfold SharedIndex.startCard
  split
  · exact h.startWrite ..
  · exact h.orderly

theorem Tidy.changeSettings (h : i.Tidy) (change : Analyzer.Settings → Analyzer.Settings) :
    i.Orderly (i.changed (i.changeSettings change)).2 := by
  cases hr : i.changeSettings change with
  | error e => exact h.orderly
  | ok j =>
    obtain ⟨x, rfl⟩ := changeSettings_ok hr
    exact h.orderly.congr rfl rfl rfl

theorem Tidy.start (h : i.Tidy) (s : Session) (op : Operation) : i.Orderly (i.start s op).2 := by
  cases op with
  | begin => exact h.begin s
  | commit => exact h.commitSession s
  | rollback => exact h.rollback s
  | add key record entry => exact h.startCard ..
  | update key record entry => exact h.startCard ..
  | updateEntry key entry => exact h.startWrite ..
  | remove key => exact h.startWrite ..
  | get key => exact h.read s (fun i t => i.get t key) fun i t => reads_remember i t key
  | search query => exact h.searchText s query
  | clear =>
    change i.Orderly (i.changed i.clear).2
    unfold clear
    split
    · exact h.orderly
    · exact h.orderly.congr rfl rfl rfl
  | setStopWords words => exact h.changeSettings _
  | setSynonyms table => exact h.changeSettings _
  | _ => exact h.orderly.congr rfl rfl rfl

end Tidy

section Waits

/-- A write of a session that waits. One that waits alone holds nothing. -/
structure Waits (i : SharedIndex) (s : Session) (op : Operation) (w : Waiting) : Prop where
  session : w.session = s
  change : ∃ x, op.change? x = some (w.key, .ok w.change)
  single : ∀ {t}, w.single = some t → t.IsSingle ∧ i.registry.current? s = none ∧ i.Apart t

/-- Only writes have to wait. -/
theorem start_of_change_none (h : op.change? i.indexing = none) :
    ∃ a, (i.start s op).1 = .answered a := by
  have changed : ∀ r, ∃ a, (i.changed r).1 = .answered a := by
    rintro (e | j)
    · exact ⟨_, rfl⟩
    · exact ⟨_, rfl⟩
  cases op with
  | clear => exact changed _
  | setStopWords words => exact changed _
  | setSynonyms table => exact changed _
  | _ => first | exact ⟨_, rfl⟩ | cases h

/-- Who waits goes on waiting whatever the others do. -/
theorem Waits.moved (h : i.Waits s op w) (hm : i.Orderly j)
    (hs : j.registry.current? s = i.registry.current? s) : j.Waits s op w := by
  refine ⟨h.session, h.change, fun ht => ?_⟩
  obtain ⟨hsingle, hn, hu⟩ := h.single ht
  refine ⟨hsingle, hs.trans hn, Nat.lt_of_lt_of_le hu.id_lt hm.nextId_le, fun s' u hc => ?_⟩
  rcases hm.known hc with hle | ⟨s'', t', hc', hid'⟩
  · exact Nat.ne_of_gt (Nat.lt_of_lt_of_le hu.id_lt hle)
  · exact hid' ▸ hu.id_ne s'' t' hc'

/-- A write that waits in vain leaves nothing behind. -/
theorem Waits.expire (hw : i.Waits s op w) : (i.expire w).2 = i := by
  unfold SharedIndex.expire
  cases ht : w.single with
  | none => rfl
  | some t => exact close_of_nil (hw.single ht).1.locked i

end Waits

end SharedIndex

end Cardfile
