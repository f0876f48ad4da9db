import Cardfile.Proofs.Contents
import Cardfile.Proofs.RepeatableRead

/-! # Dirty reads

From read-committed on, nobody is answered anything that depends on what others have staged. At all
levels, what is read, be it a card or that there is none, was staged by the reader or by another
transaction that still runs, or it is what commits have made of the key, now or since the reader has
begun. Nothing is left of a transaction that has failed or was rolled back.
-/

namespace Cardfile

variable {i j : SharedIndex} {s s' : Session} {t u : Transaction Record} {key : Key}
  {value : Staged} {v : Version Record} {op : Operation} {query : List TermSet}
  {c? : Option (Key × Change)} {r : Progress × SharedIndex} {pin : Pin Record}

/-- Two transactions that are in the same place to read. -/
structure Transaction.Twin (t u : Transaction Record) : Prop where
  level : u.level = t.level
  start : u.start = t.start
  writes : u.writes = t.writes
  pins : u.pins = t.pins

namespace SharedIndex

/-- Two indexes that are the same for a session but for what others have in hand: their
transactions, pending writes and locks. -/
structure SameBut (i : SharedIndex) (s : Session) (j : SharedIndex) : Prop where
  indexing : j.indexing = i.indexing
  store : j.store = i.store
  mode : j.mode = i.mode
  order : j.order = i.order
  own : j.registry.current? s = i.registry.current? s

section Same

theorem twin_acting (h : i.SameBut s j) : (i.acting s).Twin (j.acting s) := by
  cases hc : i.registry.current? s with
  | some t =>
    rw [acting_of_some hc, acting_of_some (h.own.trans hc)]
    exact ⟨rfl, rfl, rfl, rfl⟩
  | none =>
    rw [acting_of_none hc, acting_of_none (h.own.trans hc)]
    exact ⟨congrArg Isolation.single h.mode, congrArg VersionStore.clock h.store, rfl, rfl⟩

theorem overrides_congr (h : t.Twin u) (hl : t.level.readsDirty = false) :
    j.overrides u = i.overrides t := by
  unfold overrides
  rw [h.level, hl, h.pins, h.writes]
  rfl

theorem seen_congr (h : i.SameBut s j) (ht : t.Twin u) (hl : t.level.readsDirty = false) :
    j.seen u = i.seen t := by
  funext key
  rw [seen_eq, seen_eq, overrides_congr ht hl]
  unfold stored
  rw [ht.level, ht.start, h.store]

theorem search_congr (h : i.SameBut s j) (ht : t.Twin u) (hl : t.level.readsDirty = false)
    (query : List TermSet) : (j.search u query).1 = (i.search t query).1 := by
  have hover := overrides_congr (i := i) (j := j) ht hl
  have hcurrent : current? u = current? t := by
    funext c
    rw [current?_eq, current?_eq, ht.level, ht.start]
  have hstored : j.storedHits u query = i.storedHits t query := by
    unfold storedHits
    rw [hover, hcurrent, h.store, h.indexing]
  have hoverridden : j.overriddenHits u query = i.overriddenHits t query := by
    unfold overriddenHits
    rw [hover, h.store, h.indexing, h.order]
  unfold search
  rw [hstored, hoverridden]

/-- Who does not read dirty is answered the same whatever the others have staged. -/
theorem SameBut.answer_eq (h : i.SameBut s j) (hl : (i.acting s).level.readsDirty = false)
    (hr : op.isRead = true) : (j.step s op).1 = (i.step s op).1 := by
  have ht := twin_acting h
  cases op with
  | get key => rw [step_get, step_get, seen_congr h ht hl]
  | search text =>
    have found : ∀ (i : SharedIndex) groups, (i.read s fun i t => i.search t groups).1 =
        (i.search (i.acting s) groups).1 := by
      intro i groups
      cases hc : i.registry.current? s with
      | some t => rw [read_bound hc, acting_of_some hc]
      | none => rw [read_single hc, acting_of_none hc]; rfl
    rw [step_search, step_search, h.indexing]
    split
    · rfl
    · dsimp only
      rw [found, found, search_congr h ht hl]
  | _ => cases hr

end Same

section Pins

/-- A pin that a step sets is that of the last commit. -/
def PinnedFrom (i : SharedIndex) (t u : Transaction Record) : Prop :=
  ∀ {key pin}, u.pins.get? key = some pin →
    t.pins.get? key = some pin ∨ pin = ⟨i.store.lastCommit key, i.store.latest? key⟩

theorem pinnedFrom_of_eq (h : u.pins = t.pins) : i.PinnedFrom t u := fun hp => .inl (h ▸ hp)

theorem pinnedFrom_remember (i : SharedIndex) (t : Transaction Record) (key : Key) :
    i.PinnedFrom t (i.remember t key) := by
  intro key' pin hp
  unfold remember at hp
  split at hp
  · exact .inl hp
  · split at hp
    · dsimp only at hp
      rw [Dict.get?_insertNew] at hp
      split at hp
      · next hk =>
        subst hk
        cases ho : t.pins.get? key with
        | some old =>
          rw [ho] at hp
          exact .inl hp
        | none =>
          rw [ho] at hp
          cases hp
          exact .inr rfl
      · exact .inl hp
    · exact .inl hp
    · exact .inl hp

theorem pinnedFrom_search (i : SharedIndex) (t : Transaction Record) (query : List TermSet) :
    i.PinnedFrom t (i.search t query).2 := by
  intro key pin hp
  by_cases hl : t.level = .repeatableRead
  · rw [search_repeatable hl] at hp
    dsimp only at hp
    rw [get?_pinAll, Option.or_eq_some_iff] at hp
    rcases hp with hp | ⟨-, hp⟩
    · exact .inl hp
    · obtain ⟨⟨hit, pin'⟩, hfind, rfl⟩ := Option.map_eq_some_iff.1 hp
      have hkey : hit.key = key := by simpa using List.find?_some hfind
      obtain ⟨key', c, card, hc, -, -, hcard, hhit, rfl⟩ :=
        mem_storedHits.1 (List.mem_of_find?_eq_some hfind)
      obtain ⟨score, -, rfl⟩ := Indexing.hit?_eq_some_iff.1 hhit
      obtain rfl : key' = key := hkey
      have hstored : i.stored t key' = i.store.latest? key' := if_neg (by rw [hl]; decide)
      rw [← hcard, ← hstored, stored_eq, hc]
      exact .inr rfl
  · exact pinnedFrom_of_eq (pins_search hl) hp

theorem pins_writeLocked (i : SharedIndex) (t : Transaction Record) (key : Key) (c : Change) :
    (i.writeLocked t key c).2.1.pins = t.pins := by
  have noted : (i.noted t key c).pins = t.pins := by
    rcases noted_cases i t key c with h | h <;> rw [h]
  have hw := written_writeLocked i t key c
  generalize i.writeLocked t key c = r at hw
  cases hw with
  | clash => rfl
  | unknown => exact noted
  | staged => exact noted

theorem id_writeLocked (i : SharedIndex) (t : Transaction Record) (key : Key) (c : Change) :
    (i.writeLocked t key c).2.1.id = t.id := by
  have noted := (reads_noted i t key c).id
  have hw := written_writeLocked i t key c
  generalize i.writeLocked t key c = r at hw
  cases hw with
  | clash => rfl
  | unknown => exact noted
  | staged => exact noted

/-- A session that asks to begin has a new transaction then, or the one that it had. -/
theorem own_begin (hc : (i.begin s).2.registry.current? s = some u) :
    i.registry.current? s = some u ∨ u = i.opened := by
  have hstep : i.step s .begin = i.begin s := rfl
  cases hn : i.registry.current? s with
  | some t =>
    obtain ⟨e, he⟩ := step_begin_bound hn
    rw [← hstep, he] at hc
    exact .inl (hn.symm.trans hc)
  | none =>
    by_cases hm : i.mode = .none
    · have hsame : i.begin s = (.error .ungrouped, i) := if_pos hm
      rw [hsame, hn] at hc
      cases hc
    · rw [← hstep, step_begin hm hn] at hc
      have hnew := Registry.current?_bind.symm.trans hc
      rw [if_pos rfl] at hnew
      exact .inr (Option.some.inj hnew).symm

/-- The transaction that a session has after an operation that is not a write. -/
theorem own_start (hop : op.change? i.indexing = none)
    (hc : (i.start s op).2.registry.current? s = some u) :
    i.registry.current? s = some u ∨ (op = .begin ∧ u = i.opened) ∨
      ∃ t, i.registry.current? s = some t ∧
        ((∃ key, u = i.remember t key) ∨ ∃ query, u = (i.search t query).2) := by
  have kept : ∀ {registry : Registry Record}, registry = i.registry →
      registry.current? s = some u → i.registry.current? s = some u := fun he h => he ▸ h
  cases op with
  | begin => exact (own_begin hc).imp_right fun h => .inl ⟨rfl, h⟩
  | commit => cases (current?_commitSession i s).symm.trans hc
  | rollback => cases (current?_rollback i s).symm.trans hc
  | get key =>
    have hread := (current?_read i s fun i t => i.get t key).symm.trans hc
    obtain ⟨t, ht, rfl⟩ := Option.map_eq_some_iff.1 hread
    exact .inr (.inr ⟨t, ht, .inl ⟨key, rfl⟩⟩)
  | search text =>
    change (i.searchText s text).2.registry.current? s = some u at hc
    unfold searchText at hc
    split at hc
    · exact .inl hc
    · rw [current?_read] at hc
      obtain ⟨t, ht, rfl⟩ := Option.map_eq_some_iff.1 hc
      exact .inr (.inr ⟨t, ht, .inr ⟨_, rfl⟩⟩)
  | clear =>
    refine .inl (kept ?_ hc)
    change (i.changed i.clear).2.registry = i.registry
    unfold clear
    split <;> rfl
  | setStopWords words => exact .inl (kept (registry_changeSettings i _) hc)
  | setSynonyms table => exact .inl (kept (registry_changeSettings i _) hc)
  | add | update | updateEntry | remove => cases hop
  | _ => exact .inl hc

/-- Where the transaction comes from that a session has after a move: it has just begun, or it has
gone on and may have set pins. -/
theorem Deed.origin (h : i.Deed s op c? r) (hc : r.2.registry.current? s' = some u) :
    (u = i.opened ∧ r.2.store = i.store) ∨
      ∃ t, i.registry.current? s' = some t ∧ u.id = t.id ∧ t.Goes u ∧ i.PinnedFrom t u := by
  have same : i.registry.current? s' = some u →
      ∃ t, i.registry.current? s' = some t ∧ u.id = t.id ∧ t.Goes u ∧ i.PinnedFrom t u :=
    fun hu => ⟨u, hu, rfl, ⟨rfl, rfl⟩, .inl⟩
  have read : ∀ {t}, i.registry.current? s' = some t → t.Reads u → i.PinnedFrom t u →
      ∃ t, i.registry.current? s' = some t ∧ u.id = t.id ∧ t.Goes u ∧ i.PinnedFrom t u :=
    fun ht hr hp => ⟨_, ht, hr.id, ⟨hr.level, hr.start⟩, hp⟩
  by_cases hs : s' = s
  · subst hs
    cases h with
    | plain hop =>
      rcases own_start hop hc with hu | ⟨rfl, rfl⟩ | ⟨t, ht, ⟨key, rfl⟩ | ⟨query, rfl⟩⟩
      · exact .inr (same hu)
      · exact .inl ⟨rfl, (quiet_begin i s').store⟩
      · exact .inr (read ht (reads_remember i t key) (pinnedFrom_remember i t key))
      · exact .inr (read ht (reads_search i t query) (pinnedFrom_search i t query))
    | refused => exact .inr (same hc)
    | @bound x t key c hop ht =>
      unfold writeBound at hc
      cases hw : i.write t key c with
      | error holder =>
        rw [hw] at hc
        exact .inr (same hc)
      | ok r =>
        obtain ⟨keys, j, hj, rfl⟩ := write_ok hw
        rw [hw] at hc
        dsimp only at hc
        rw [current?_bind_self] at hc
        obtain rfl := Option.some.inj hc
        have hgoes := goes_writeLocked j { t with locked := keys } key c
        have hid := id_writeLocked j { t with locked := keys } key c
        exact .inr ⟨t, ht, hid, ⟨hgoes.level, hgoes.start⟩, pinnedFrom_of_eq (pins_writeLocked ..)⟩
    | @alone x t j key c hop hq hj hn hn' ht hu =>
      rcases writeSingle_cases ht j s' key c with ⟨holder, hw⟩ | ⟨a, k, hw, ha⟩
      · rw [hw] at hc
        cases hn'.symm.trans hc
      · rw [hw] at hc
        dsimp only at hc
        rw [ha.registry] at hc
        cases hn'.symm.trans hc
  · exact .inr (same ((h.moved.others s' hs).symm.trans hc))

/-- A pin was there before a move or is that of the last commit before it. -/
theorem Deed.pinned (h : i.Deed s op c? r) (hc : r.2.registry.current? s' = some u)
    (hp : u.pins.get? key = some pin) :
    (∃ t, i.registry.current? s' = some t ∧ t.pins.get? key = some pin) ∨
      pin = ⟨i.store.lastCommit key, i.store.latest? key⟩ := by
  rcases h.origin hc with ⟨rfl, -⟩ | ⟨t, ht, -, -, hfrom⟩
  · cases hp
  · exact (hfrom hp).imp_left fun hold => ⟨t, ht, hold⟩

end Pins

section Seen

/-- What a transaction sees of a key is an own write, pending, the last commit, pinned, or as at
its start. -/
theorem seen_cases (i : SharedIndex) (t : Transaction Record) (key : Key) :
    t.ownWrite? key = some (i.seen t key) ∨
      (t.level.readsDirty = true ∧ i.dirty? t key = some (i.seen t key)) ∨
      i.seen t key = i.store.latest? key ∨
      (t.level = .repeatableRead ∧ ∃ pin, t.pins.get? key = some pin ∧
        i.seen t key = pin.value) ∨
      (t.level = .serializable ∧ i.seen t key = i.store.at? key t.start) := by
  have dirty : t.level.readsDirty = true →
      (t.level.readsDirty = true ∧
        i.dirty? t key = some ((i.dirty? t key).getD (i.store.latest? key))) ∨
      (i.dirty? t key).getD (i.store.latest? key) = i.store.latest? key := by
    intro hl
    cases i.dirty? t key with
    | some value => exact .inl ⟨hl, rfl⟩
    | none => exact .inr rfl
  unfold seen
  cases t.ownWrite? key with
  | some own => exact .inl rfl
  | none =>
    refine .inr ?_
    dsimp only [Option.getD_none]
    unfold committedOrDirty
    cases hl : t.level with
    | none | readUncommitted =>
      rw [hl] at dirty
      exact (dirty rfl).imp_right .inl
    | readCommitted => exact .inr (.inl rfl)
    | repeatableRead =>
      cases hp : t.pins.get? key with
      | some pin => exact .inr (.inr (.inl ⟨rfl, pin, rfl, rfl⟩))
      | none => exact .inr (.inl rfl)
    | serializable => exact .inr (.inr (.inr ⟨rfl, rfl⟩))

/-- Only the transaction of a session has written something; one for a single step has not. -/
theorem current?_of_ownWrite? {own : Staged} (h : (i.acting s).ownWrite? key = some own) :
    i.registry.current? s = some (i.acting s) := by
  cases hc : i.registry.current? s with
  | some t => rw [acting_of_some hc]
  | none =>
    rw [acting_of_none hc] at h
    cases h

/-- A transaction for a single step has no high level. -/
theorem current?_of_level
    (h : (i.acting s).level = .repeatableRead ∨ (i.acting s).level = .serializable) :
    i.registry.current? s = some (i.acting s) := by
  cases hc : i.registry.current? s with
  | some t => rw [acting_of_some hc]
  | none =>
    rw [acting_of_none hc] at h
    have hne := i.mode.single_ne
    exact (h.elim hne.1 hne.2).elim

/-- What is read dirty is staged by another transaction that runs. -/
theorem Tidy.staged_of_dirty? (h : i.Tidy) (hd : i.dirty? t key = some value) :
    ∃ s u, i.registry.current? s = some u ∧ u.id ≠ t.id ∧ u.state = .active ∧
      u.ownWrite? key = some value := by
  unfold dirty? at hd
  split at hd
  · next owner found hp =>
    split at hd
    · cases hd
    · next hne =>
      cases hd
      obtain ⟨s, u, hc, rfl, hown⟩ := (h.holdings.pending_iff key owner value).1 hp
      exact ⟨s, u, hc, hne, h.holdings.active hc, hown⟩
  · cases hd

end Seen

end SharedIndex

namespace Scene

variable {x : Scene} {w : View} {m : Move} {moves : List Move} {id : TxId} {P Q : View → Prop}

/-- A version was there from the beginning, or some move has published it since. -/
def Published (x : Scene) (moves : List Move) (key : Key) (v : Version Record) : Prop :=
  v ∈ x.index.store.versions key ∨
    ∃ past m rest, moves = past ++ m :: rest ∧ (key, v.value) ∈ (x.after past).batch m ∧
      v.stamp = (x.after past).index.store.clock + 1

/-- Whether a property held of the committed contents, which were `w` in the beginning, at some time
in these moves when the session was in the transaction `id`. -/
def Since (x : Scene) (w : View) (moves : List Move) (s : Session) (id : TxId) (P : View → Prop) :
    Prop :=
  ∃ past rest t, moves = past ++ rest ∧ (x.after past).index.registry.current? s = some t ∧
    t.id = id ∧ P (x.contents w past)

/-- Where the value may come from that a session reads under a key, be it a card or that there is
none, if the committed contents were `w` in the beginning. -/
inductive Source (x : Scene) (w : View) (moves : List Move) (s : Session) (key : Key)
    (value : Staged) : Prop
  /-- The session has staged it in the transaction that it is in. -/
  | own (t : Transaction Record) : (x.after moves).index.registry.current? s = some t →
      t.ownWrite? key = some value → Source x w moves s key value
  /-- Another session has staged it in the transaction that it is in, and dirty reads are
  allowed. -/
  | dirty (s' : Session) (t : Transaction Record) :
      ((x.after moves).index.acting s).level.readsDirty = true → s' ≠ s →
      (x.after moves).index.registry.current? s' = some t → t.state = .active →
      t.ownWrite? key = some value → Source x w moves s key value
  /-- It is what commits have made of the key. -/
  | committed : value = x.contents w moves key → Source x w moves s key value
  /-- It was so at some time since the session has begun its transaction, at a high level. -/
  | held (t : Transaction Record) : (x.after moves).index.registry.current? s = some t →
      t.level = .repeatableRead ∨ t.level = .serializable →
      x.Since w moves s t.id (fun w => value = w key) → Source x w moves s key value

section Published

theorem Published.later (h : x.Published moves key v) (m : Move) :
    x.Published (moves ++ [m]) key v := by
  rcases h with h | ⟨past, m', rest, rfl, hm, hs⟩
  · exact .inl h
  · exact .inr ⟨past, m', rest ++ [m], by simp, hm, hs⟩

theorem Since.now (hc : (x.after moves).index.registry.current? s = some t)
    (h : P (x.contents w moves)) : x.Since w moves s t.id P :=
  ⟨moves, [], t, (List.append_nil moves).symm, hc, rfl, h⟩

theorem Since.later (h : x.Since w moves s id P) (m : Move) : x.Since w (moves ++ [m]) s id P := by
  obtain ⟨past, rest, t, rfl, hc, hid, hp⟩ := h
  exact ⟨past, rest ++ [m], t, List.append_assoc .., hc, hid, hp⟩

theorem Since.imp (h : x.Since w moves s id P) (hq : ∀ w, P w → Q w) : x.Since w moves s id Q := by
  obtain ⟨past, rest, t, hmoves, hc, hid, hp⟩ := h
  exact ⟨past, rest, t, hmoves, hc, hid, hq _ hp⟩

/-- All that is in the store has been published; what a transaction that runs relies on, and what it
has pinned, was committed at some time since it has begun. -/
structure Sourced (x : Scene) (w : View) (moves : List Move) : Prop where
  versions : ∀ {key v}, v ∈ (x.after moves).index.store.versions key → x.Published moves key v
  start : ∀ {s t}, (x.after moves).index.registry.current? s = some t →
    x.Since w moves s t.id fun w => (x.after moves).index.Anchored t w
  pins : ∀ {s t key pin}, (x.after moves).index.registry.current? s = some t →
    t.pins.get? key = some pin → x.Since w moves s t.id fun w => pin.value = w key

theorem contents_eq (hx : x.Tidy) (hw : x.index.store.latest? = w) (moves : List Move) :
    x.contents w moves = (x.after moves).index.store.latest? :=
  hw ▸ (hx.latest?_after moves).symm

theorem Sourced.take (h : x.Sourced w moves) (hx : x.Tidy) (hw : x.index.store.latest? = w)
    (m : Move) : x.Sourced w (moves ++ [m]) := by
  have ht := hx.after moves
  have hcontents := contents_eq hx hw
  have hafter : x.after (moves ++ [m]) = ((x.after moves).take m).2 := after_append x moves [m]
  -- a transaction has just begun, or it ran before and has at most pinned the last commits
  have origin : ∀ {s u}, (x.after (moves ++ [m])).index.registry.current? s = some u →
      (u = (x.after moves).index.opened ∧
        (x.after (moves ++ [m])).index.store = (x.after moves).index.store) ∨
      ∃ t, (x.after moves).index.registry.current? s = some t ∧ u.id = t.id ∧
        (x.after moves).index.PinnedFrom t u ∧ ∀ w, (x.after moves).index.Anchored t w →
          (x.after (moves ++ [m])).index.Anchored u w := by
    intro s u hc
    rw [hafter] at hc ⊢
    rcases ht.take_cases m with ⟨-, htake, -⟩ | ⟨s', op, r, -, hd, htake, -⟩
    · rw [htake] at hc ⊢
      exact .inr ⟨u, hc, rfl, .inl, fun _ ha => ha⟩
    · rw [htake, index_settle] at hc ⊢
      rcases hd.origin hc with hnew | ⟨t, hc', hid, hgoes, hpins⟩
      · exact .inl hnew
      · exact .inr ⟨t, hc', hid, hpins, fun w ha => (ha.moved hc' hd.moved).goes hgoes⟩
  refine ⟨fun {key v} hv => ?_, fun {s u} hc => ?_, fun {s u key pin} hc hpin => ?_⟩
  · rw [hafter] at hv
    rcases (ht.publishes m).mem_versions hv with ⟨hs, hm⟩ | hold
    · exact .inr ⟨moves, m, [], rfl, hm, hs⟩
    · exact (h.versions hold).later m
  · rcases origin hc with ⟨rfl, hstore⟩ | ⟨t, hc', hid, -, hanchored⟩
    · refine .now hc ?_
      rw [hcontents]
      exact SharedIndex.anchored_clock (hx.after _).sound (congrArg VersionStore.clock hstore.symm)
    · exact hid ▸ ((h.start hc').later m).imp hanchored
  · rcases origin hc with ⟨rfl, -⟩ | ⟨t, hc', hid, hpins, -⟩
    · cases hpin
    · rw [hid]
      rcases hpins hpin with hold | rfl
      · exact (h.pins hc' hold).later m
      · exact (Since.now hc' (congrFun (hcontents moves).symm key)).later m

theorem sourced_opening (o : KeyOrder) (p : Index) (mode : Isolation) :
    (opening o p mode).Sourced p.view [] := by
  have hnone : ∀ {s t}, (opening o p mode).index.registry.current? s ≠ some t := by
    intro s t hc
    have hr : (opening o p mode).index.registry = .empty := SharedIndex.registry_ofIndex o p
    rw [hr] at hc
    cases hc
  exact ⟨fun hv => .inl hv, fun hc => absurd hc hnone, fun hc => absurd hc hnone⟩

theorem Sourced.after (h : x.Sourced w []) (hx : x.Tidy) (hw : x.index.store.latest? = w)
    (moves : List Move) : x.Sourced w moves := by
  induction moves using List.reverseRecOn with
  | nil => exact h
  | append_singleton moves m ih => exact ih.take hx hw m

/-- What a session sees of a key has a source. -/
theorem Sourced.source (h : x.Sourced w moves) (hx : x.Tidy) (hw : x.index.store.latest? = w)
    (s : Session) (key : Key) :
    x.Source w moves s key ((x.after moves).index.seen ((x.after moves).index.acting s) key) := by
  rcases SharedIndex.seen_cases (x.after moves).index ((x.after moves).index.acting s) key with
    hown | ⟨hl, hdirty⟩ | hlatest | ⟨hl, pin, hpin, hval⟩ | ⟨hl, hval⟩
  · exact .own _ (SharedIndex.current?_of_ownWrite? hown) hown
  · obtain ⟨s', u, hc, hne, hstate, hown⟩ := (hx.after moves).index.staged_of_dirty? hdirty
    refine .dirty s' u hl ?_ hc hstate hown
    rintro rfl
    exact hne (congrArg Transaction.id (SharedIndex.acting_of_some hc).symm)
  · rw [hlatest, ← contents_eq hx hw]
    exact .committed rfl
  · have hc := SharedIndex.current?_of_level (.inl hl)
    exact .held _ hc (.inl hl) ((h.pins hc hpin).imp fun w hp => hval.trans hp)
  · have hc := SharedIndex.current?_of_level (.inr hl)
    exact .held _ hc (.inr hl) ((h.start hc).imp fun w ha => hval.trans (ha.snapshot key))

/-- Nobody depends on what others have staged unless dirty reads are allowed; all that is in the
store was published by a commit; and whatever is read at any level, a card or that there is none, is
an own write, a write of a transaction that runs, or what commits have made of the key, by now or
since the reader has begun. -/
theorem reads_of_staged_or_published (o : KeyOrder) (p : Index) (mode : Isolation)
    (moves : List Move) :
    let x := opening o p mode
    let i := (x.after moves).index
    (∀ s j op, op.isRead = true → (i.acting s).level.readsDirty = false → i.SameBut s j →
        (j.step s op).1 = (i.step s op).1) ∧
      (∀ key v, v ∈ i.store.versions key → x.Published moves key v) ∧
      ∀ s op, op.isRead = true → ∃ v : View, v.Answers i.indexing op (i.step s op).1 ∧
        ∀ key, x.Source p.view moves s key (v key) := by
  intro x i
  have hx : x.Tidy := tidy_opening o p mode
  have hw : x.index.store.latest? = p.view := latest?_opening o p mode
  have hsourced : x.Sourced p.view moves := (sourced_opening o p mode).after hx hw moves
  refine ⟨fun s j op hr hl hj => hj.answer_eq hl hr, fun key v hv => hsourced.versions hv,
    fun s op hr => ⟨i.seen (i.acting s), ?_, hsourced.source hx hw s⟩⟩
  exact SharedIndex.answers_read (hx.after moves).sound hr s

theorem reads_beside_staged_removal :
    let card : Card Record := ⟨⟨.empty, none⟩, ⟨"note", [], .empty⟩⟩
    let p := (Index.ofIndexing .usual).store "k" card
    let moves := [Move.start "writer" .begin, .start "writer" (.remove "k")]
    let x := opening .given p .readCommitted
    let i := (x.after moves).index
    i.pending.isEmpty = false ∧ (i.acting "reader").level.readsDirty = false ∧
      i.SameBut "reader" x.index ∧
      (x.index.step "reader" (.get "k")).1 = (i.step "reader" (.get "k")).1 ∧
      ∃ v : View, v.Answers i.indexing (.get "k") (i.step "reader" (.get "k")).1 ∧
        ∀ key, x.Source p.view moves "reader" key (v key) := by
  intro card p moves x i
  have hsame : i.SameBut "reader" x.index := ⟨rfl, rfl, rfl, rfl, rfl⟩
  have hreads := reads_of_staged_or_published .given p .readCommitted moves
  exact ⟨by decide +kernel, rfl, hsame, hreads.1 "reader" x.index (.get "k") rfl rfl hsame,
    hreads.2.2 "reader" (.get "k") rfl⟩

end Published

end Scene

end Cardfile
