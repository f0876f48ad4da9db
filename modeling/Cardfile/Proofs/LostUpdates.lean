import Cardfile.Proofs.DirtyReads
import Cardfile.Proofs.Publication

/-! # Lost updates

Who has staged a write keeps everybody else from committing the key until he ends. What was
committed before that is noticed when the write is made: by a serializable transaction, if it was
committed after the transaction began; by a repeatable-read transaction, if it was committed after
the key was first read and the write builds on the card that is there.
-/

namespace Cardfile

variable {i j : SharedIndex} {s s' : Session} {op : Operation} {id holder : TxId} {key : Key}
  {t u : Transaction Record} {c : Change} {c? : Option (Key × Change)} {pin : Pin Record}
  {r : Progress × SharedIndex} {reply : Reply} {a : Answer} {y : Indexing}

/-- Whether a move turns transactions off. -/
def Move.ungroups : Move → Bool
  | .start _ (.setMode level) => level = .none
  | _ => false

theorem Isolation.single_ne_none {level : Isolation} (h : level ≠ .none) :
    level.single ≠ .none := by
  cases level <;> first | exact absurd rfl h | decide

theorem Operation.ne_add_of_builds (hop : op.change? y = some (key, .ok c))
    (hb : op.builds = true) (card : Card Record) : c ≠ .add card := by
  rintro rfl
  cases op with
  | update key record entry =>
    have hmap : (y.card record entry).map Change.update = .ok (.add card) :=
      (Prod.ext_iff.1 (Option.some.inj hop)).2
    obtain ⟨new, hnew⟩ := Indexing.exists_of_card_map hmap
    cases hnew
  | updateEntry => cases hop
  | remove => cases hop
  | _ => cases hb

/-- A record whose type has a mapping is indexed by it, if there are no types above. -/
theorem Mappings.resolve_of_get? {m : Mappings} {mapping : Mapping} {record : Record}
    (h : m.get? record.type = some mapping) (hr : record.supertypes = [])
    (hs : m.supertypesOf record.type = []) : m.resolve record = .ok (compose [mapping]) := by
  have hl : m.lineage [] [record.type] = [record.type] := by
    rw [lineage, if_neg List.not_mem_nil, hs, List.append_nil, lineage]
  unfold resolve
  rw [hr, hl, List.filterMap_cons_some h, List.filterMap_nil]

theorem Indexing.card_of_texts {x : Indexing} {mapping : Mapping} {record : Record}
    {texts : List String} (h : x.mappings.get? record.type = some mapping)
    (hr : record.supertypes = []) (hs : x.mappings.supertypesOf record.type = [])
    (ht : Mappings.texts record (Mappings.compose [mapping]).fields = .ok texts) (entry : Record) :
    x.card record entry =
      .ok ⟨⟨x.analyzer.terms (String.intercalate " " texts), (Mappings.compose [mapping]).ratingField⟩,
        entry⟩ := by
  unfold card Mappings.extract
  rw [Mappings.resolve_of_get? h hr hs]
  dsimp only [bind, Except.bind]
  rw [ht]
  rfl

theorem Indexing.card_of_get? {x : Indexing} {record : Record}
    (h : x.mappings.get? record.type = some ⟨[], none⟩) (hr : record.supertypes = [])
    (hs : x.mappings.supertypesOf record.type = []) (entry : Record) :
    x.card record entry = .ok ⟨⟨x.analyzer.terms "", none⟩, entry⟩ :=
  card_of_texts h hr hs rfl entry

namespace SharedIndex

section Locked

/-- A lock that somebody else holds has to be waited for. -/
theorem write_of_held (hl : t.level ≠ .none) (hh : i.locks.holder? key = some holder)
    (hne : holder ≠ t.id) (c : Change) : i.write t key c = .error holder := by
  have hlocks : t.level.locks = true := decide_eq_true hl
  unfold write lock Locks.acquire
  rw [if_pos hlocks, hh]
  dsimp only
  rw [if_neg hne]
  rfl

/-- What a batch has is a write of the transaction that is committed, or the single write that is
done. -/
theorem mem_batch {w : Write Record} {p : Progress} (h : w ∈ i.batch c? s op p) :
    (∃ t, i.registry.current? s = some t ∧ op = .commit ∧ t.ownWrite? w.1 = some w.2) ∨
      i.registry.current? s = none ∧ (∃ reply, p = .answered (.ok reply)) ∧
        ∃ c, c? = some (w.1, c) := by
  unfold batch at h
  split at h
  · next reply =>
    split at h
    · next t hc => exact .inl ⟨t, hc, rfl, KeyOrder.mem_entries.1 h⟩
    · next key c hc =>
      split at h
      · obtain rfl := List.mem_singleton.1 h
        exact .inr ⟨hc, ⟨reply, rfl⟩, c, rfl⟩
      · cases h
    · cases h
  · cases h

end Locked

section Fresh

/-- A serializable transaction writes no key that has been committed since it began. -/
theorem lastCommit_le_start (hl : t.level = .serializable)
    (hw : (i.writeLocked t key c).1 = .ok ()) : i.store.lastCommit key ≤ t.start := by
  by_contra hlt
  unfold writeLocked at hw
  rw [if_pos (by simpa [hl] using hlt)] at hw
  cases hw

/-- A repeatable-read transaction does not build on a key that has been committed since it was
pinned. -/
theorem lastCommit_le_pin (hl : t.level = .repeatableRead) (ho : t.ownWrite? key = none)
    (hp : t.pins.get? key = some pin) (hc : ∀ card, c ≠ .add card)
    (hw : (i.writeLocked t key c).1 = .ok ()) : i.store.lastCommit key ≤ pin.stamp := by
  by_contra hlt
  have hbase : i.base t key = .error (.changedSinceRead key) := by
    unfold base
    rw [ho, hl]
    dsimp only
    rw [hp]
    exact if_pos (Nat.lt_of_not_le hlt)
  unfold writeLocked at hw
  rw [if_neg (by simp [hl]), hbase] at hw
  cases c with
  | add card => exact hc card rfl
  | _ => cases hw

theorem writeLocked_of_writeBound (hw : (i.writeBound t s key c).1 = .answered (.ok reply)) :
    ∃ keys j, i.Alike j ∧ (j.writeLocked { t with locked := keys } key c).1 = .ok () := by
  unfold writeBound at hw
  cases hr : i.write t key c with
  | error holder => rw [hr] at hw; cases hw
  | ok r =>
    obtain ⟨keys, j, hj, rfl⟩ := write_ok hr
    refine ⟨keys, j, hj, ?_⟩
    rw [hr] at hw
    cases hok : (j.writeLocked { t with locked := keys } key c).1 with
    | error e =>
      dsimp only at hw
      rw [hok] at hw
      cases hw
    | ok _ => rfl

end Fresh

section Pins

/-- A transaction that has gone on without letting go of a pin. -/
structure Clings (t u : Transaction Record) : Prop where
  goes : t.Goes u
  pins : ∀ {key pin}, t.pins.get? key = some pin → u.pins.get? key = some pin

theorem clings_remember (i : SharedIndex) (t : Transaction Record) (key : Key) :
    Clings t (i.remember t key) := by
  have hr := reads_remember i t key
  refine ⟨⟨hr.level, hr.start⟩, fun {key' pin} hp => ?_⟩
  unfold remember
  split
  · exact hp
  · split
    · dsimp only
      rw [Dict.get?_insertNew, hp]
      split <;> rfl
    · exact hp
    · exact hp

theorem clings_search (i : SharedIndex) (t : Transaction Record) (query : List TermSet) :
    Clings t (i.search t query).2 := by
  have hr := reads_search i t query
  refine ⟨⟨hr.level, hr.start⟩, fun {key pin} hp => ?_⟩
  by_cases hl : t.level = .repeatableRead
  · rw [search_repeatable hl]
    dsimp only
    rw [get?_pinAll, hp]
    rfl
  · rw [pins_search hl]
    exact hp

theorem clings_writeBound (hc : i.registry.current? s = some t) (key : Key) (c : Change) :
    ∃ u, (i.writeBound t s key c).2.registry.current? s = some u ∧ Clings t u := by
  unfold writeBound
  cases hw : i.write t key c with
  | error holder => exact ⟨t, hc, ⟨rfl, rfl⟩, id⟩
  | ok r =>
    obtain ⟨keys, j, hj, rfl⟩ := write_ok hw
    have hgoes := goes_writeLocked j { t with locked := keys } key c
    refine ⟨_, current?_bind_self .., ⟨hgoes.level, hgoes.start⟩, fun hp => ?_⟩
    rw [pins_writeLocked]
    exact hp

/-- A session keeps its transaction and the pins in it until it asks for the end. -/
theorem Deed.clings (h : i.Deed s op c? r) (hi : i.Tidy) (hc : i.registry.current? s = some t)
    (he : op.isEnd = false) : ∃ u, r.2.registry.current? s = some u ∧ Clings t u := by
  obtain ⟨u, hu, hid, -⟩ := h.goes hc he
  cases h with
  | plain hop =>
    refine ⟨u, hu, ?_⟩
    rcases own_start hop hu with hsame | ⟨-, rfl⟩ | ⟨t', ht, ⟨key, rfl⟩ | ⟨query, rfl⟩⟩
    · cases hc.symm.trans hsame
      exact ⟨⟨rfl, rfl⟩, id⟩
    · -- a new transaction has a number of its own
      exact absurd hid (Nat.ne_of_gt (hi.numbered hc))
    · cases hc.symm.trans ht
      exact clings_remember i t key
    · cases hc.symm.trans ht
      exact clings_search i t query
  | refused => exact ⟨t, hc, ⟨rfl, rfl⟩, id⟩
  | bound _ hc' =>
    cases hc.symm.trans hc'
    exact clings_writeBound hc _ _
  | alone _ _ _ hn => cases hn.symm.trans hc

/-- A key that an answer reveals is pinned, unless the session has written it itself. -/
theorem Deed.pin_of_reveals (h : i.Deed s op c? r) (hc : i.registry.current? s = some t)
    (hl : t.level = .repeatableRead) (ho : t.ownWrite? key = none) (ha : r.1 = .answered a)
    (hr : op.Reveals key a) :
    ∃ u pin, r.2.registry.current? s = some u ∧ u.pins.get? key = some pin := by
  have pinned : ∀ {u : Transaction Record} {value}, t.Reads u → fixed? u key = some value →
      ∃ pin, u.pins.get? key = some pin := by
    intro u value hu hf
    have hown : u.ownWrite? key = none := (congrArg (Dict.get? · key) hu.writes).trans ho
    rw [fixed?_eq (hu.level.trans hl), hown, Option.none_or, Option.map_eq_some_iff] at hf
    obtain ⟨pin, hp, -⟩ := hf
    exact ⟨pin, hp⟩
  -- no write reveals anything
  have reads : ∀ {x p}, op.change? x = some p → False := by
    intro x p hop
    cases op with
    | get | search => cases hop
    | _ => exact hr
  cases h with
  | plain hop =>
    cases op with
    | get asked =>
      obtain rfl : asked = key := hr
      have hstart : (i.start s (.get asked)).2 = i.bind s (i.remember t asked) := by
        simp only [start, read_bound hc]
        rfl
      obtain ⟨pin, hp⟩ := pinned (reads_remember i t asked) (fixed?_remember_self (i := i) hl)
      rw [hstart]
      exact ⟨_, pin, current?_bind_self .., hp⟩
    | search text =>
      simp only [start, searchText] at ha ⊢
      split at ha
      · cases ha
        cases hr
      · rw [read_bound hc] at ha ⊢
        cases ha
        obtain ⟨pin, hp⟩ := pinned (reads_search i t _) (fixed?_search_of_mem (i := i) hl hr)
        exact ⟨_, pin, current?_bind_self .., hp⟩
    | _ => exact hr.elim
  | refused _ hop => exact (reads hop).elim
  | bound hop => exact (reads hop).elim
  | alone hop => exact (reads hop).elim

end Pins

end SharedIndex

namespace Scene

variable {x : Scene} {m : Move} {moves during : List Move} {l : Ledger} {since : Stamp}
  {later : List (Write Record)}

section Grouped

/-- Whoever writes takes the lock on the key. -/
structure Grouped (x : Scene) : Prop where
  mode : x.index.mode ≠ .none
  waits : ∀ {s op w t}, x.waiting.get? s = some (op, w) → w.single = some t → t.level ≠ .none

theorem grouped_opening (o : KeyOrder) (p : Index) {mode : Isolation} (hm : mode ≠ .none) :
    (opening o p mode).Grouped :=
  ⟨hm, fun hw => by cases hw⟩

/-- A single write is tried in a transaction that takes locks and that no session has. -/
theorem Grouped.single_turn (h : x.Grouped) (hx : x.Tidy) (ht : x.turn? m = some ((s, op), r))
    (hn : x.index.registry.current? s = none) (hc : x.change? m = some (key, c)) :
    (∃ e, r.1 = .answered (.error e)) ∨
      ∃ (t : Transaction Record) (j : SharedIndex), t.IsSingle ∧ t.level ≠ .none ∧
        j.locks = x.index.locks ∧ (∀ s u, x.index.registry.current? s = some u → u.id ≠ t.id) ∧
          r = j.writeSingle t s key c := by
  cases m with
  | start s' op' =>
    unfold turn? at ht
    dsimp only at ht
    split at ht
    · cases ht
    · cases ht
      change x.index.asked op = some (key, c) at hc
      unfold SharedIndex.asked at hc
      split at hc
      · next hop =>
        cases hc
        rw [SharedIndex.start_of_change_ok hop]
        unfold SharedIndex.startWrite
        rw [hn]
        exact .inr ⟨x.index.single.1, x.index.single.2, SharedIndex.isSingle_single _,
          Isolation.single_ne_none h.mode, rfl, hx.index.apart_single.id_ne, rfl⟩
      · cases hc
  | retry s' =>
    obtain ⟨⟨op', w⟩, hw, he⟩ := Option.map_eq_some_iff.1 ht
    cases he
    have hchange : some (w.key, w.change) = some (key, c) := by
      rw [← hc]
      simp only [change?, hw, Option.map_some]
    cases hchange
    have hs := (hx.waits hw).session
    -- who waits alone goes on in the transaction that was opened for the write
    dsimp only
    unfold SharedIndex.resume
    rw [hs, hn]
    cases hsingle : w.single with
    | some t =>
      obtain ⟨hst, -, hapart⟩ := (hx.waits hw).single hsingle
      exact .inr ⟨t, x.index, hst, h.waits hw hsingle, rfl, hapart.id_ne, rfl⟩
    | none => exact .inl ⟨_, rfl⟩
  | giveUp s' => cases hc

theorem Grouped.mode_take (h : x.Grouped) (hx : x.Tidy) (hm : m.ungroups = false) :
    (x.take m).2.index.mode ≠ .none := by
  cases ht : x.turn? m with
  | none =>
    rw [take_of_none ht]
    exact h.mode
  | some p =>
    obtain ⟨⟨s, op⟩, r⟩ := p
    have hd := hx.deed ht
    rw [take_of_some ht, index_settle]
    by_cases hset : ∃ level, op = .setMode level
    · obtain ⟨level, rfl⟩ := hset
      rcases hx.start_or_write ht with rfl | ⟨y, p, hop⟩
      · cases hd with
        | plain => exact of_decide_eq_false hm
        | refused _ hop => cases hop
      · cases hop
    · rw [hd.moved.mode fun level he => hset ⟨level, he⟩]
      exact h.mode

theorem Grouped.take (h : x.Grouped) (hx : x.Tidy) (hm : m.ungroups = false) :
    (x.take m).2.Grouped := by
  refine ⟨h.mode_take hx hm, fun {s' op' w t} hw hsingle => ?_⟩
  cases ht : x.turn? m with
  | none =>
    rw [take_of_none ht] at hw
    exact h.waits hw hsingle
  | some p =>
    obtain ⟨⟨s, op⟩, r⟩ := p
    have hd := hx.deed ht
    rw [take_of_some ht] at hw
    rcases waits_settle x s op r hw with ⟨rfl, rfl, hr⟩ | ⟨-, hold⟩
    · generalize hc : x.change? m = c? at hd
      cases hd with
      | plain hop =>
        obtain ⟨a, ha⟩ := SharedIndex.start_of_change_none (s := s') hop
        rw [ha] at hr
        cases hr
      | refused => cases hr
      | bound =>
        unfold SharedIndex.writeBound at hr
        split at hr
        · cases hr
          cases hsingle
        · cases hr
      | alone _ _ _ hn =>
        rcases h.single_turn hx ht hn hc with ⟨e, he⟩ | ⟨t', j, hst, hl, -, -, he⟩
        · rw [he] at hr
          cases hr
        · rw [he] at hr
          rcases SharedIndex.writeSingle_cases hst j s' _ _ with ⟨holder, hj⟩ | ⟨a, k, hj, -⟩
          · rw [hj] at hr
            cases hr
            cases hsingle
            exact hl
          · rw [hj] at hr
            cases hr
    · exact h.waits hold hsingle

theorem Grouped.after (h : x.Grouped) (hx : x.Tidy) (hm : ∀ m ∈ moves, m.ungroups = false) :
    (x.after moves).Grouped := by
  induction moves generalizing x with
  | nil => exact h
  | cons m rest ih =>
    obtain ⟨hfirst, hrest⟩ := List.forall_mem_cons.1 hm
    exact ih (h.take hx hfirst) (hx.take m) hrest

/-- Nobody commits a key while a session that goes on has it locked. -/
theorem Grouped.notMem_batch (h : x.Grouped) (hx : x.Tidy)
    (hc : x.index.registry.current? s = some t) (hk : key ∈ t.locked) (hm : m.ends s = false) :
    key ∉ (x.batch m).map Prod.fst := by
  intro hkey
  obtain ⟨⟨key, value⟩, hw, rfl⟩ := List.mem_map.1 hkey
  cases ht : x.turn? m with
  | none =>
    rw [batch_of_none ht] at hw
    cases hw
  | some p =>
    obtain ⟨⟨s', op⟩, r⟩ := p
    have hheld := (hx.index.holdings.mem_locked_iff hc).1 hk
    rw [batch_of_some ht] at hw
    rcases SharedIndex.mem_batch hw with ⟨u, hu, rfl, hown⟩ | ⟨hn, ⟨reply, hok⟩, c, hch⟩
    · -- who commits the key has it locked, and a key is locked once
      have hsame := (hx.index.holdings.mem_locked_iff hu).1 (hx.index.holdings.covered hu hown)
      rw [hheld] at hsame
      obtain rfl := hx.index.holdings.apart hc hu (Option.some.inj hsame)
      exact Bool.noConfusion (hx.isEnd_of_ends ht hm)
    · rcases h.single_turn hx ht hn hch with ⟨e, he⟩ | ⟨t', j, -, hl, hlocks, hids, rfl⟩
      · rw [he] at hok
        cases hok
      · have hwrite := SharedIndex.write_of_held hl (hlocks ▸ hheld) (hids s t hc) c
        unfold SharedIndex.writeSingle at hok
        rw [hwrite] at hok
        cases hok

end Grouped

section Wrote

theorem written_append (x : Scene) (past rest : List Move) :
    x.written (past ++ rest) = x.written past ++ (x.after past).written rest := by
  induction past generalizing x with
  | nil => rfl
  | cons m past ih =>
    rw [List.cons_append, written, written, ih, List.append_assoc]
    rfl

theorem ledger_append (x : Scene) (s : Session) (l : Ledger) (past rest : List Move) :
    x.ledger s l (past ++ rest) = (x.after past).ledger s (x.ledger s l past) rest := by
  induction past generalizing x l with
  | nil => rfl
  | cons m past ih => exact ih (x.take m).2 (l.enter (x.staged? s m))

/-- A key that is written stays written. -/
theorem ledger_of_entered (hl : l key ≠ none) (x : Scene) (s : Session) (moves : List Move) :
    x.ledger s l moves key ≠ none := by
  induction moves generalizing x l with
  | nil => exact hl
  | cons m rest ih =>
    refine ih ?_ (x.take m).2
    cases x.staged? s m with
    | none => exact hl
    | some w =>
      rw [Ledger.enter_some]
      split
      · exact Option.some_ne_none _
      · exact hl

/-- A write of a session in its transaction that has been answered well has been staged. -/
theorem Tidy.writeBound_of_ok (h : x.Tidy) (hc : x.index.registry.current? s = some t)
    (he : (x.take m).1 = some ⟨s, op, .ok reply⟩) (hk : op.target? = some key) :
    ∃ y c, op.change? y = some (key, .ok c) ∧ x.change? m = some (key, c) ∧
      x.turn? m = some ((s, op), x.index.writeBound t s key c) ∧
      (x.index.writeBound t s key c).1 = .answered (.ok reply) := by
  cases ht : x.turn? m with
  | none =>
    rw [take_of_none ht] at he
    cases he
  | some p =>
    obtain ⟨⟨s', op'⟩, r⟩ := p
    have hd := h.deed ht
    rw [take_of_some ht, event_settle] at he
    split at he
    · next a ha =>
      cases he
      generalize hch : x.change? m = c? at hd
      cases hd with
      | plain hop =>
        rw [op.target?_eq x.index.indexing, hop] at hk
        cases hk
      | refused => cases ha
      | @bound y t' key' c hop hc' =>
        cases hc.symm.trans hc'
        rw [op.target?_eq y, hop] at hk
        cases hk
        exact ⟨y, c, hop, rfl, rfl, ha⟩
      | alone _ _ _ hn => cases hn.symm.trans hc
    · cases he

theorem session_of_take {e : Event} (h : (x.take m).1 = some e) : m.session = e.session := by
  cases ht : x.turn? m with
  | none =>
    rw [take_of_none ht] at h
    cases h
  | some p =>
    obtain ⟨⟨s, op⟩, r⟩ := p
    rw [take_of_some ht, event_settle] at h
    split at h
    · cases h
      exact (session_of_turn? ht).symm
    · cases h

theorem Grouped.notMem_written (h : x.Grouped) (hx : x.Tidy) (hi : x.index.InHand s id l)
    (hl : l key ≠ none) (hm : ∀ m ∈ moves, m.ends s = false ∧ m.ungroups = false) :
    key ∉ (x.written moves).map Prod.fst := by
  induction moves generalizing x l with
  | nil => exact List.not_mem_nil
  | cons m rest ih =>
    obtain ⟨⟨hend, hgroup⟩, hrest⟩ := List.forall_mem_cons.1 hm
    rw [written, List.map_append, List.mem_append]
    rintro (hk | hk)
    · obtain ⟨t, hc, -, -, hown⟩ := hi
      obtain ⟨own, ho⟩ := Option.ne_none_iff_exists'.1 hl
      have hlocked := hx.index.holdings.covered hc ((hown key).trans ho)
      exact h.notMem_batch hx hc hlocked hend hk
    · refine ih (h.take hx hgroup) (hx.take m) (inHand_take hx hi hend) ?_ hrest hk
      exact ledger_of_entered hl x s [m]

/-- From a write on, nobody else commits the key. -/
theorem Grouped.notMem_written_of_write (h : x.Grouped) (hx : x.Tidy)
    (hi : x.index.InHand s id l) (he : (x.take m).1 = some ⟨s, op, .ok reply⟩)
    (hk : op.target? = some key) (hm : ∀ m' ∈ m :: moves, m'.ends s = false ∧ m'.ungroups = false) :
    key ∉ (x.written (m :: moves)).map Prod.fst := by
  obtain ⟨⟨hend, hgroup⟩, hrest⟩ := List.forall_mem_cons.1 hm
  have hown : x.batch m = [] := hx.batch_of_bound hi (session_of_take he) hend
  have hstaged : ∃ value, x.staged? s m = some (key, value) := by
    obtain ⟨t, hc, -⟩ := hi
    obtain ⟨y, c, -, hch, ht, hok⟩ := hx.writeBound_of_ok hc he hk
    refine ⟨c.leaves (x.index.base t key).toOption.join, ?_⟩
    unfold staged?
    rw [ht]
    dsimp only
    rw [if_pos rfl, hch, hok]
    unfold SharedIndex.staged?
    rw [hc]
  obtain ⟨value, hv⟩ := hstaged
  rw [written, hown, List.nil_append]
  refine (h.take hx hgroup).notMem_written (hx.take m) (inHand_take hx hi hend) ?_ hrest
  rw [hv, Ledger.enter_some, if_pos rfl]
  exact Option.some_ne_none _

end Wrote

section Pinned

/-- The session is in a repeatable-read transaction. What it has pinned was committed by now. -/
structure Rereads (x : Scene) (s : Session) : Prop where
  tidy : x.Tidy
  bound : ∃ t, x.index.registry.current? s = some t ∧ t.level = .repeatableRead ∧
    t.start ≤ x.index.store.clock ∧
    ∀ {key pin}, t.pins.get? key = some pin → pin.stamp ≤ x.index.store.clock

/-- The session is in a repeatable-read transaction with a pin that was committed by some time.
Since then `later` has been committed. -/
structure Pinned (x : Scene) (s : Session) (key : Key) (since : Stamp)
    (later : List (Write Record)) : Prop where
  tidy : x.Tidy
  bound : ∃ t pin, x.index.registry.current? s = some t ∧ t.level = .repeatableRead ∧
    t.start ≤ since ∧ since ≤ x.index.store.clock ∧ x.index.store.Chronicle since later ∧
    t.pins.get? key = some pin ∧ pin.stamp ≤ since

/-- A session keeps its transaction and its pins in a move. -/
theorem Tidy.clings (h : x.Tidy) (hc : x.index.registry.current? s = some t)
    (hm : m.ends s = false) :
    ∃ u, (x.take m).2.index.registry.current? s = some u ∧ SharedIndex.Clings t u := by
  rcases h.take_cases m with ⟨-, ht, -⟩ | ⟨s', op, r, hend, hd, ht, -⟩
  · rw [ht]
    exact ⟨t, hc, ⟨rfl, rfl⟩, id⟩
  · rw [ht, index_settle]
    by_cases hs : s' = s
    · subst hs
      exact hd.clings h.index hc (hend hm)
    · exact ⟨t, (hd.moved.others s fun e => hs e.symm).trans hc, ⟨rfl, rfl⟩, id⟩

/-- What is pinned after a move was committed before it. -/
theorem Rereads.stamp_le (h : x.Rereads s)
    (hu : (x.take m).2.index.registry.current? s = some u) (hp : u.pins.get? key = some pin) :
    pin.stamp ≤ x.index.store.clock := by
  obtain ⟨t, hc, -, -, hpins⟩ := h.bound
  have hbefore : (∃ t, x.index.registry.current? s = some t ∧ t.pins.get? key = some pin) ∨
      pin = ⟨x.index.store.lastCommit key, x.index.store.latest? key⟩ := by
    rcases h.tidy.take_cases m with ⟨-, ht, -⟩ | ⟨s', op, r, -, hd, ht, -⟩
    · rw [ht] at hu
      exact .inl ⟨u, hu, hp⟩
    · rw [ht, index_settle] at hu
      exact hd.pinned hu hp
  rcases hbefore with ⟨t', hc', hp'⟩ | rfl
  · cases hc.symm.trans hc'
    exact hpins hp'
  · exact h.tidy.sound.lastCommit_le

theorem Rereads.take (h : x.Rereads s) (hm : m.ends s = false) : (x.take m).2.Rereads s := by
  obtain ⟨t, hc, hl, hle, -⟩ := h.bound
  obtain ⟨u, hu, hgoes, -⟩ := h.tidy.clings hc hm
  have hclock := (h.tidy.publishes m).clock_le
  refine ⟨h.tidy.take m, u, hu, hgoes.level.trans hl, ?_, fun hp => ?_⟩
  · rw [hgoes.start]
    exact Nat.le_trans hle hclock
  · exact Nat.le_trans (h.stamp_le hu hp) hclock

theorem Rereads.after (h : x.Rereads s) (hm : ∀ m ∈ moves, m.ends s = false) :
    (x.after moves).Rereads s := by
  induction moves generalizing x with
  | nil => exact h
  | cons m rest ih =>
    obtain ⟨hfirst, hrest⟩ := List.forall_mem_cons.1 hm
    exact ih (h.take hfirst) hrest

theorem rereads_begin (h : x.Tidy) (hm : x.index.mode = .repeatableRead)
    (hb : (x.take (.start s .begin)).1 = some ⟨s, .begin, .ok (.started id)⟩) :
    (x.take (.start s .begin)).2.Rereads s := by
  have hi := (index_of_begun hb).2
  refine ⟨h.take _, x.index.opened, ?_⟩
  rw [hi]
  exact ⟨Registry.current?_bind.trans (if_pos rfl), hm, Nat.le_refl _, fun hp => by cases hp⟩

/-- A key that has been revealed is pinned from then on. -/
theorem Rereads.pinned (h : x.Rereads s) (hi : x.index.InHand s id l) (hl : l key = none)
    (hm : m.ends s = false) (he : (x.take m).1 = some ⟨s, op, a⟩) (hr : op.Reveals key a) :
    (x.take m).2.Pinned s key x.index.store.clock (x.batch m) := by
  obtain ⟨t, hc, hlevel, hle, -⟩ := h.bound
  have hown : t.ownWrite? key = none := (hi.ownWrite?_eq hc key).trans hl
  have hpin : ∃ u pin, (x.take m).2.index.registry.current? s = some u ∧
      u.pins.get? key = some pin := by
    rcases h.tidy.take_cases m with ⟨-, ht, -⟩ | ⟨s', op', r, -, hd, ht, -⟩
    · rw [ht] at he
      cases he
    · rw [ht, event_settle] at he
      rw [ht, index_settle]
      split at he
      · next a' ha =>
        cases he
        exact hd.pin_of_reveals hc hlevel hown ha hr
      · cases he
  obtain ⟨u, pin, hu, hp⟩ := hpin
  obtain ⟨u', hu', hgoes, -⟩ := h.tidy.clings hc hm
  cases hu.symm.trans hu'
  have hpub := h.tidy.publishes m
  have hclock := h.tidy.dated.chronicle_clock h.tidy.sound
  exact ⟨h.tidy.take m, u, pin, hu, hgoes.level.trans hlevel, hgoes.start ▸ hle, hpub.clock_le,
    hpub.chronicle h.tidy.dated hc hle (Nat.le_refl _) hclock, hp, h.stamp_le hu hp⟩

theorem Pinned.take (h : x.Pinned s key since later) (hm : m.ends s = false) :
    (x.take m).2.Pinned s key since (later ++ x.batch m) := by
  obtain ⟨t, pin, hc, hl, hstart, hclock, hlater, hp, hstamp⟩ := h.bound
  obtain ⟨u, hu, hgoes, hpins⟩ := h.tidy.clings hc hm
  have hpub := h.tidy.publishes m
  exact ⟨h.tidy.take m, u, pin, hu, hgoes.level.trans hl, hgoes.start ▸ hstart,
    Nat.le_trans hclock hpub.clock_le,
    hpub.chronicle h.tidy.dated hc hstart hclock hlater, hpins hp, hstamp⟩

theorem Pinned.after (h : x.Pinned s key since later) (hm : ∀ m ∈ moves, m.ends s = false) :
    (x.after moves).Pinned s key since (later ++ x.written moves) := by
  induction moves generalizing x later with
  | nil =>
    rw [written, List.append_nil]
    exact h
  | cons m rest ih =>
    obtain ⟨hfirst, hrest⟩ := List.forall_mem_cons.1 hm
    rw [written, ← List.append_assoc]
    exact ih (h.take hfirst) hrest

/-- Who builds on a key that he has read finds that nobody has committed it since. -/
theorem Pinned.notMem_of_write (h : x.Pinned s key since later) (hi : x.index.InHand s id l)
    (hl : l key = none) (he : (x.take m).1 = some ⟨s, op, .ok reply⟩) (hk : op.target? = some key)
    (hb : op.builds = true) : key ∉ later.map Prod.fst := by
  obtain ⟨t, pin, hc, hlevel, -, -, hlater, hp, hstamp⟩ := h.bound
  have hown : t.ownWrite? key = none := (hi.ownWrite?_eq hc key).trans hl
  obtain ⟨y, c, hop, -, -, hok⟩ := h.tidy.writeBound_of_ok hc he hk
  obtain ⟨keys, j, hj, hw⟩ := SharedIndex.writeLocked_of_writeBound hok
  have hlast := SharedIndex.lastCommit_le_pin (t := { t with locked := keys }) hlevel hown hp
    (op.ne_add_of_builds hop hb) hw
  rw [hj.store] at hlast
  rw [hlater.mem_keys_iff h.tidy.dated]
  exact Nat.not_lt_of_le (Nat.le_trans hlast hstamp)

theorem Rereads.notMem_written {look : Move} {op' : Operation} (h : x.Rereads s)
    (hi : x.index.InHand s id l) (hm : ∀ m' ∈ look :: moves, m'.ends s = false)
    (hlook : (x.take look).1 = some ⟨s, op', a⟩) (hr : op'.Reveals key a)
    (hl : x.ledger s l (look :: moves) key = none)
    (he : ((x.after (look :: moves)).take m).1 = some ⟨s, op, .ok reply⟩)
    (hk : op.target? = some key) (hb : op.builds = true) :
    key ∉ (x.written (look :: moves)).map Prod.fst := by
  obtain ⟨hend, hrest⟩ := List.forall_mem_cons.1 hm
  -- what is not written now was not written when the key was read
  have hnone : l key = none := by
    by_contra hsome
    exact ledger_of_entered hsome x s _ hl
  have hpinned := (h.pinned hi hnone hend hlook hr).after hrest
  have hkept : (x.after (look :: moves)).index.InHand s id (x.ledger s l (look :: moves)) :=
    inHand_after h.tidy hi hm
  exact hpinned.notMem_of_write hkept hl he hk hb

/-- A serializable transaction cannot write a key that has been committed since it began. -/
theorem Underway.notMem_of_write {v : View} {f : Footprint} (h : x.Underway s v f later)
    (he : (x.take m).1 = some ⟨s, op, .ok reply⟩) (hk : op.target? = some key) :
    key ∉ later.map Prod.fst := by
  obtain ⟨t, hc, hlevel, -, hlater, -⟩ := h.bound
  obtain ⟨y, c, -, -, -, hok⟩ := h.tidy.writeBound_of_ok hc he hk
  obtain ⟨keys, j, hj, hw⟩ := SharedIndex.writeLocked_of_writeBound hok
  have hlast := SharedIndex.lastCommit_le_start (t := { t with locked := keys }) hlevel hw
  rw [hj.store] at hlast
  rw [hlater.mem_keys_iff h.tidy.dated]
  exact Nat.not_lt_of_le hlast

end Pinned

/-- As long as transactions are not turned off, nobody else commits a key between a write of a
transaction and its end. A serializable transaction can only write a key that nobody has committed
since it began. If a repeatable-read transaction has read a key and the first that it writes there
builds on the card, then nobody has committed the key since it was read. -/
theorem committed_alone_since_read (o : KeyOrder) (p : Index) (mode : Isolation)
    (before during : List Move) (hmode : mode ≠ .none)
    (hgroup : ∀ m ∈ before ++ during, m.ungroups = false)
    (hb : (((opening o p mode).after before).take (.start s .begin)).1 =
      some ⟨s, .begin, .ok (.started id)⟩)
    (hd : ∀ m ∈ during, m.ends s = false) :
    let x := (opening o p mode).after before
    let y := (x.take (.start s .begin)).2
    ∀ past m late op reply key, during = past ++ m :: late →
      ((y.after past).take m).1 = some ⟨s, op, .ok reply⟩ → op.target? = some key →
        key ∉ ((y.after past).written (m :: late)).map Prod.fst ∧
        (x.index.mode = .serializable → key ∉ (y.written during).map Prod.fst) ∧
        (x.index.mode = .repeatableRead → op.builds = true → y.ledger s .empty past key = none →
          ∀ early look rest op' a, past = early ++ look :: rest →
            ((y.after early).take look).1 = some ⟨s, op', a⟩ → op'.Reveals key a →
              key ∉ ((y.after early).written (look :: rest ++ m :: late)).map Prod.fst) := by
  rintro x y past m late op reply key rfl he hk
  have hx : x.Tidy := (tidy_opening o p mode).after before
  have hy : y.Tidy := hx.take _
  have hbegun : y.index.InHand s id .empty := inHand_begin hb
  have hgrouped : y.Grouped :=
    ((grouped_opening o p hmode).after (tidy_opening o p mode) fun m hm =>
      hgroup m (List.mem_append_left _ hm)).take hx rfl
  have hpast : ∀ m ∈ past, m.ends s = false := fun m hm => hd m (List.mem_append_left _ hm)
  have hkept : (y.after past).index.InHand s id (y.ledger s .empty past) :=
    inHand_after hy hbegun hpast
  have hfrom : key ∉ ((y.after past).written (m :: late)).map Prod.fst := by
    have hgp : (y.after past).Grouped := hgrouped.after hy fun m hm =>
      hgroup m (List.mem_append_right _ (List.mem_append_left _ hm))
    refine hgp.notMem_written_of_write (hy.after past) hkept he hk fun m' hm => ?_
    have hm' := List.mem_append_right past hm
    exact ⟨hd m' hm', hgroup m' (List.mem_append_right _ hm')⟩
  refine ⟨hfrom, fun hm => ?_, fun hm hbuild hl early look rest op' a hp hlook hr => ?_⟩
  · have hunder := (underway_begin hx hm hb).after hpast
    rw [written_append, List.map_append, List.mem_append]
    exact fun hkey => hkey.elim (hunder.notMem_of_write he hk) hfrom
  · subst hp
    obtain ⟨hearly, hrest⟩ := List.forall_mem_append.1 hpast
    have hreads : (y.after early).Rereads s := (rereads_begin hx hm hb).after hearly
    rw [after_append] at he hfrom
    rw [ledger_append] at hl
    have hkept := inHand_after hy hbegun hearly
    have hfresh := hreads.notMem_written hkept hrest hlook hr hl he hk hbuild
    rw [written_append, List.map_append, List.mem_append]
    exact fun hkey => hkey.elim hfresh hfrom

theorem committed_alone_since_read_of_update :
    let card : Card Record := ⟨⟨.empty, none⟩, ⟨"note", [], .empty⟩⟩
    let p := ((Index.ofIndexing .usual).store "k" card).store "l" card
    let past := [Move.start "a" (.get "k"), .start "b" (.remove "l")]
    let late := [Move.start "b" (.remove "k")]
    let during := past ++ .start "a" (.updateEntry "k" card.entry) :: late
    let x := (opening .given p .repeatableRead).after []
    let y := (x.take (.start "a" .begin)).2
    (x.take (.start "a" .begin)).1 = some ⟨"a", .begin, .ok (.started 1)⟩ ∧
      (∀ m ∈ [] ++ during, m.ungroups = false) ∧ (∀ m ∈ during, m.ends "a" = false) ∧
      ((y.after past).take (.start "a" (.updateEntry "k" card.entry))).1 =
        some ⟨"a", .updateEntry "k" card.entry, .ok .done⟩ ∧
      (y.take (.start "a" (.get "k"))).1 = some ⟨"a", .get "k", .ok (.entry (some card.entry))⟩ ∧
      (y.written during).map Prod.fst ≠ [] ∧ "k" ∉ (y.written during).map Prod.fst := by
  refine ⟨rfl, by decide, by decide, rfl, rfl, by decide +kernel, ?_⟩
  have hb : (((opening .given (((Index.ofIndexing .usual).store "k"
      ⟨⟨.empty, none⟩, ⟨"note", [], .empty⟩⟩).store "l" ⟨⟨.empty, none⟩, ⟨"note", [], .empty⟩⟩)
      .repeatableRead).after []).take (.start "a" .begin)).1 =
      some ⟨"a", .begin, .ok (.started 1)⟩ := rfl
  have h := committed_alone_since_read .given _ .repeatableRead []
    [.start "a" (.get "k"), .start "b" (.remove "l"),
      .start "a" (.updateEntry "k" ⟨"note", [], .empty⟩), .start "b" (.remove "k")]
    (by decide) (by decide) hb (by decide) [.start "a" (.get "k"), .start "b" (.remove "l")]
    _ _ _ .done "k" rfl rfl rfl
  exact h.2.2 rfl rfl (Option.isNone_iff_eq_none.1 (by decide +kernel)) [] _ _ _ _ rfl rfl rfl

theorem take_add {card : Card Record} {record entry : Record}
    (hcard : x.index.indexing.card record entry = .ok card) (hw : x.waiting.get? s = none) :
    x.take (.start s (.add key record entry)) =
      x.settle s (.add key record entry) (x.index.startWrite s key (.add card)) := by
  rw [take_of_some (turn?_start hw _)]
  exact congrArg (x.settle s _) (SharedIndex.startCard_of_ok hcard)

/-- An addition builds on no card: a repeatable-read transaction that adds a key which it has read
does not notice that the key has been removed since, and its commit brings the key back. -/
theorem added_over_newer_commit :
    let note : Record := ⟨"note", [], .empty⟩
    let p := (Index.ofIndexing .usual).store "k" ⟨⟨.empty, none⟩, note⟩
    let x := (opening .given p .repeatableRead).after [.start "c" (.register "note" ⟨[], none⟩)]
    let y := (x.take (.start "a" .begin)).2
    let z := (y.take (.start "a" (.get "k"))).2
    let other := (z.take (.start "b" (.remove "k"))).2
    let last := (other.take (.start "a" (.add "k" note note))).2
    (x.take (.start "a" .begin)).1 = some ⟨"a", .begin, .ok (.started 1)⟩ ∧
      (y.take (.start "a" (.get "k"))).1 = some ⟨"a", .get "k", .ok (.entry (some note))⟩ ∧
      "k" ∈ (z.written [.start "b" (.remove "k")]).map Prod.fst ∧
      (other.take (.start "a" (.add "k" note note))).1 =
        some ⟨"a", .add "k" note note, .ok .done⟩ ∧
      (last.take (.start "a" .commit)).1 = some ⟨"a", .commit, .ok .done⟩ ∧
      ((last.take (.start "a" .commit)).2.index.store.latest? "k").isSome = true := by
  refine ⟨rfl, rfl, by decide +kernel, ?_⟩
  rw [take_add (Indexing.card_of_get? rfl rfl rfl _)
    (Option.isNone_iff_eq_none.1 (by decide +kernel))]
  exact ⟨rfl, rfl, rfl⟩

end Scene

end Cardfile
