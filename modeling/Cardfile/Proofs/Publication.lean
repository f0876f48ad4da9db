import Cardfile.Proofs.Exactness
import Cardfile.Proofs.Ownership

/-! # Publication

A commit publishes what its transaction has written, the last write of each key, in one batch. What
fails, is rolled back or has written nothing leaves the store as it is.
-/

namespace Cardfile

variable {i j : SharedIndex} {s s' : Session} {op : Operation} {id : TxId} {key : Key}
  {t u : Transaction Record} {c : Change} {c? : Option (Key × Change)} {value : Staged}
  {r : Progress × SharedIndex}

/-- The writes of one session, the last one to each key. -/
abbrev Ledger := Key → Option Staged

namespace Ledger

def empty : Ledger := fun _ => none

/-- A later write to a key takes the place of an earlier one. -/
def enter (l : Ledger) : Option (Key × Staged) → Ledger
  | some (key, value) => Function.update l key (some value)
  | none => l

theorem enter_some (l : Ledger) (key : Key) (value : Staged) (key' : Key) :
    l.enter (some (key, value)) key' = if key = key' then some value else l key' := by
  simp only [enter, Function.update_apply, eq_comm]

end Ledger

section Appends

variable {ε : Type} {store : VersionStore ε} {ws : List (Write ε)}
  {l : Key → Option (Option (Card ε))}

/-- A store after a commit: each key that was written has one more version, all with one new stamp,
and the log names the slots of these keys. All other chains are as they were. -/
structure VersionStore.Appends (store : VersionStore ε) (l : Key → Option (Option (Card ε)))
    (after : VersionStore ε) : Prop where
  clock : after.clock = store.clock + 1
  fresh : ∀ key, ∀ v ∈ store.versions key, v.stamp < after.clock
  written : ∀ {key value}, l key = some value →
    after.versions key = ⟨after.clock, value⟩ :: store.versions key
  kept : ∀ {key}, l key = none → after.chain? key = store.chain? key
  log : ∃ slots, after.log = (after.clock, slots) :: store.log ∧
    ∀ slot, slot ∈ slots ↔ ∃ key value, l key = some value ∧ after.slotOf? key = some slot

theorem VersionStore.Sound.appends (h : store.Sound) (hn : (ws.map Prod.fst).Nodup)
    (hl : ∀ key value, (key, value) ∈ ws ↔ l key = some value) :
    store.Appends l (store.apply ws) := by
  have clock : (store.apply ws).clock = store.clock + 1 := clock_apply
  refine ⟨clock, fun key v hv => ?_, fun {key value} hk => ?_, fun {key} hk => ?_, ?_⟩
  · rw [clock]
    exact Nat.lt_succ_of_le (h.stamp_versions_le hv)
  · rw [clock]
    exact versions_apply_of_mem hn ((hl key value).2 hk)
  · refine chain?_puts_of_notMem (s := { store with clock := store.clock + 1 }) fun hm => ?_
    obtain ⟨⟨key', value⟩, hw, rfl⟩ := List.mem_map.1 hm
    rw [(hl key' value).1 hw] at hk
    cases hk
  · refine ⟨ws.filterMap fun w => (store.apply ws).slotOf? w.1, ?_, fun slot => ?_⟩
    · have hlog : (ws.foldl VersionStore.put { store with clock := store.clock + 1 }).log =
        store.log :=
        log_puts (s := { store with clock := store.clock + 1 })
      rw [← hlog]
      rfl
    · simp only [List.mem_filterMap, Prod.exists, hl]

end Appends

/-- What a change leaves under a key with some value. -/
def Change.leaves : Change → Staged → Staged
  | .add card, _ => some card
  | .update card, _ => some card
  | .updateEntry entry, old => old.map (·.withEntry entry)
  | .remove, _ => none

namespace SharedIndex

/-- The write that a session stages in its transaction when a change has been answered. A new entry
goes to the card that the transaction sees. -/
def staged? (i : SharedIndex) (s : Session) (c? : Option (Key × Change)) (p : Progress) :
    Option (Key × Staged) :=
  match p, i.registry.current? s, c? with
  | .answered (.ok _), some t, some (key, c) => some (key, c.leaves (i.base t key).toOption.join)
  | _, _, _ => none

section Staging

theorem reads_rememberBase (i : SharedIndex) (t : Transaction Record) (key : Key) :
    t.Reads (i.rememberBase t key) := by
  unfold rememberBase
  split
  · exact reads_remember i t key
  · exact .refl t

theorem base_congr (hj : i.Alike j) (t : Transaction Record) (keys : List Key) (key : Key) :
    j.base { t with locked := keys } key = i.base t key := by
  unfold base
  rw [hj.store]
  rfl

/-- A write to a key whose lock is held is staged, or it is refused and nothing is written. -/
theorem writeLocked_cases (i : SharedIndex) (t : Transaction Record) (key : Key) (c : Change) :
    i.writeLocked t key c =
      (.ok (), i.stage (i.noted t key c) key (c.leaves (i.base t key).toOption.join)) ∨
    ∃ e u, t.Reads u ∧ i.writeLocked t key c = (.error e, u, i) := by
  have hread := reads_rememberBase i t key
  unfold writeLocked noted
  split
  · exact .inr ⟨_, t, .refl t, rfl⟩
  · cases c with
    | add card => exact .inl rfl
    | _ =>
      dsimp only
      cases i.base t key with
      | error clash => exact .inr ⟨_, t, .refl t, rfl⟩
      | ok old =>
        cases old with
        | none => exact .inr ⟨_, _, hread, rfl⟩
        | some card => exact .inl rfl

/-- A session has its transaction still, with the write that has been staged and no others. -/
def Goes (s : Session) (t : Transaction Record) (j : SharedIndex) (w? : Option (Key × Staged)) :
    Prop :=
  ∃ u, j.registry.current? s = some u ∧ u.id = t.id ∧
    ∀ key, u.ownWrite? key = Ledger.enter t.ownWrite? w? key

theorem goes_of_reads (hc : j.registry.current? s = some u) (h : t.Reads u) : Goes s t j none :=
  ⟨u, hc, h.id, fun key => congrArg (Dict.get? · key) h.writes⟩

theorem goes_start (hc : i.registry.current? s = some t) (hop : op.change? i.indexing = none)
    (he : op.isEnd = false) : Goes s t (i.start s op).2 none := by
  have plain : op.isData = false → Goes s t (i.start s op).2 none := by
    intro hd
    obtain ⟨a, ha⟩ := start_of_change_none (s := s) hop
    have hstep : (i.step s op).2 = (i.start s op).2 :=
      congrArg Prod.snd (step_of_answered (Prod.ext ha rfl))
    exact goes_of_reads (hstep ▸ current?_step hc hd he) (.refl t)
  cases op with
  | get key =>
    have hstart : (i.start s (.get key)).2 = i.bind s (i.remember t key) := by
      simp only [start, read_bound hc]
      rfl
    rw [hstart]
    exact goes_of_reads (current?_bind_self ..) (reads_remember i t key)
  | search text =>
    change Goes s t (i.searchText s text).2 none
    unfold searchText
    split
    · exact goes_of_reads hc (.refl t)
    · rw [read_bound hc]
      exact goes_of_reads (current?_bind_self ..) (reads_search i t _)
  | add | update | updateEntry | remove => cases hop
  | _ => exact plain rfl

theorem goes_writeBound (hc : i.registry.current? s = some t) (key : Key) (c : Change) :
    Goes s t (i.writeBound t s key c).2 (i.staged? s (some (key, c)) (i.writeBound t s key c).1) := by
  unfold writeBound staged?
  rw [hc]
  cases hw : i.write t key c with
  | error holder => exact goes_of_reads hc (.refl t)
  | ok r =>
    obtain ⟨keys, j, hj, rfl⟩ := write_ok hw
    have hb := base_congr hj t keys key
    rcases writeLocked_cases j { t with locked := keys } key c with he | ⟨e, u, hu, he⟩
    · have hn := reads_noted j { t with locked := keys } key c
      rw [he, hb]
      refine ⟨_, current?_bind_self .., hn.id, fun key' => ?_⟩
      dsimp only [Except.map]
      rw [Ledger.enter_some, stage, Transaction.ownWrite?_write]
      exact if_congr Iff.rfl rfl (congrArg (Dict.get? · key') hn.writes)
    · rw [he]
      exact ⟨u, current?_bind_self .., hu.id, fun key' => congrArg (Dict.get? · key') hu.writes⟩

theorem staged?_none (i : SharedIndex) (s : Session) (p : Progress) :
    i.staged? s none p = none := by
  unfold staged?
  split
  · next hc => cases hc
  · rfl

/-- A move of a session leaves its transaction with what has been staged. -/
theorem Deed.goes (h : i.Deed s op c? r) (hc : i.registry.current? s = some t)
    (he : op.isEnd = false) : Goes s t r.2 (i.staged? s c? r.1) := by
  cases h with
  | plain hop => exact staged?_none i s _ ▸ goes_start hc hop he
  | refused => exact goes_of_reads hc (.refl t)
  | bound hop hc' =>
    cases hc.symm.trans hc'
    exact goes_writeBound hc _ _
  | alone _ _ _ hn => cases hn.symm.trans hc

/-- Nothing is committed before a session asks for it. -/
theorem batch_of_bound (hc : i.registry.current? s = some t) (he : op.isEnd = false)
    (c? : Option (Key × Change)) (p : Progress) : i.batch c? s op p = [] := by
  unfold batch
  rw [hc]
  split
  · split
    · cases he
    · next hn => cases hn
    · rfl
  · rfl

end Staging

section Ending

/-- A transaction that runs for a session, with the writes that it would publish. -/
def InHand (i : SharedIndex) (s : Session) (id : TxId) (l : Ledger) : Prop :=
  ∃ t, i.registry.current? s = some t ∧ t.id = id ∧ t.state = .active ∧
    ∀ key, t.ownWrite? key = l key

theorem InHand.ownWrite?_eq {l : Ledger} (h : i.InHand s id l)
    (hc : i.registry.current? s = some t) (key : Key) : t.ownWrite? key = l key := by
  obtain ⟨t', hc', -, -, hw⟩ := h
  cases hc.symm.trans hc'
  exact hw key

/-- How a store comes out of a commit of some writes, and with what answer. -/
inductive Committed (store : VersionStore Record) (l : Ledger) :
    Answer → VersionStore Record → Prop
  | idle : (∀ key, l key = none) → Committed store l (.ok .done) store
  | appended {key : Key} {value : Staged} {after : VersionStore Record} : l key = some value →
      store.Appends l after → Committed store l (.ok .done) after
  | refused {e : Error} : e.kind = .serializationFailure → (∃ key value, l key = some value) →
      Committed store l (.error e) store

variable {l : Ledger}

theorem committed_publish (hs : i.store.Sound) (hl : ∀ key, t.ownWrite? key = l key) :
    Committed i.store l (.ok .done) (i.publish t).store := by
  rw [publish_eq]
  cases hr : t.isReadOnly with
  | true => exact .idle fun key => (hl key).symm.trans (Dict.isEmpty_iff.1 hr key)
  | false =>
    obtain ⟨key, value, ho⟩ := Transaction.exists_write_of_not_readOnly hr
    refine .appended ((hl key).symm.trans ho) ?_
    refine hs.appends KeyOrder.nodup_keys_entries fun key value => ?_
    rw [KeyOrder.mem_entries, ← hl]
    rfl

/-- Who has written nothing cannot be refused. -/
theorem commit_of_isReadOnly (hr : t.isReadOnly = true) (i : SharedIndex) :
    i.commit t = (.ok (), (i.publish t).close t) := by
  unfold commit
  rw [hr, Bool.not_true, Bool.and_false]
  rfl

theorem InHand.commit (h : i.InHand s id l) (hs : i.store.Sound) :
    Committed i.store l (i.commitSession s).1 (i.commitSession s).2.store := by
  obtain ⟨t, hc, -, ha, hl⟩ := h
  have hpublish := committed_publish (i := i.left s) hs hl
  rw [commitSession_of_some hc ha]
  rcases commit_cases (i.left s) t with ⟨c, he⟩ | ⟨he, -⟩
  · cases hr : t.isReadOnly with
    | true =>
      rw [commit_of_isReadOnly hr] at he
      cases he
    | false =>
      obtain ⟨key, value, ho⟩ := Transaction.exists_write_of_not_readOnly hr
      rw [he]
      exact .refused rfl ⟨key, value, (hl key).symm.trans ho⟩
  · rw [he]
    exact hpublish

theorem InHand.rollback (h : i.InHand s id l) :
    (i.rollback s).1 = .ok .done ∧ (i.rollback s).2.store = i.store := by
  obtain ⟨t, hc, -, ha, -⟩ := h
  rw [rollback_of_some hc ha]
  exact ⟨rfl, rfl⟩

end Ending

end SharedIndex

namespace Scene

variable {x : Scene} {m : Move} {moves during : List Move} {l : Ledger}

/-- What a session stages in a move. -/
def staged? (x : Scene) (s : Session) (m : Move) : Option (Key × Staged) :=
  match x.turn? m with
  | some ((s', _), r) => if s' = s then x.index.staged? s (x.change? m) r.1 else none
  | none => none

/-- The writes of a session after some moves. -/
def ledger (s : Session) (x : Scene) (l : Ledger) : List Move → Ledger
  | [] => l
  | m :: rest => (x.take m).2.ledger s (l.enter (x.staged? s m)) rest

section InHand

theorem inHand_take (h : x.Tidy) (hi : x.index.InHand s id l) (hm : m.ends s = false) :
    (x.take m).2.index.InHand s id (l.enter (x.staged? s m)) := by
  obtain ⟨t, hc, rfl, ha, hl⟩ := hi
  unfold staged?
  cases ht : x.turn? m with
  | none =>
    rw [take_of_none ht]
    exact ⟨t, hc, rfl, ha, hl⟩
  | some p =>
    obtain ⟨⟨s', op⟩, r⟩ := p
    have hd := h.deed ht
    have htake := (h.take m).index.holdings
    rw [take_of_some ht, index_settle] at htake ⊢
    dsimp only
    split
    · next hs =>
      subst hs
      obtain ⟨u, hu, hid, hw⟩ := hd.goes hc (h.isEnd_of_ends ht hm)
      refine ⟨u, hu, hid, htake.active hu, fun key => (hw key).trans ?_⟩
      rw [funext hl]
    · next hs =>
      exact ⟨t, (hd.moved.others s fun e => hs e.symm).trans hc, rfl, ha, hl⟩

theorem inHand_after (h : x.Tidy) (hi : x.index.InHand s id l)
    (hm : ∀ m ∈ moves, m.ends s = false) :
    (x.after moves).index.InHand s id (x.ledger s l moves) := by
  induction moves generalizing x l with
  | nil => exact hi
  | cons m rest ih =>
    obtain ⟨hfirst, hrest⟩ := List.forall_mem_cons.1 hm
    exact ih (h.take m) (inHand_take h hi hfirst) hrest

theorem inHand_begin (hb : (x.take (.start s .begin)).1 = some ⟨s, .begin, .ok (.started id)⟩) :
    (x.take (.start s .begin)).2.index.InHand s id .empty := by
  obtain ⟨rfl, hi⟩ := index_of_begun hb
  rw [hi]
  exact ⟨_, Registry.current?_bind.trans (if_pos rfl), rfl, rfl, fun _ => rfl⟩

/-- An operation that fails leaves the transaction and its writes as they were. -/
theorem inHand_take_of_error (h : x.Tidy) (hi : x.index.InHand s id l) (hm : m.ends s = false)
    {e : Error} (he : (x.take m).1 = some ⟨s, op, .error e⟩) :
    (x.take m).2.index.InHand s id l := by
  have hs : x.staged? s m = none := by
    unfold staged?
    cases ht : x.turn? m with
    | none => rfl
    | some p =>
      obtain ⟨⟨s', op'⟩, r, j⟩ := p
      rw [take_of_some ht, event_settle] at he
      cases r with
      | waiting w => cases he
      | answered a =>
        cases he
        exact if_pos rfl
  have htake := inHand_take h hi hm
  rw [hs] at htake
  exact htake

/-- A session commits nothing before it ends its transaction. -/
theorem Tidy.batch_of_bound (h : x.Tidy) (hi : x.index.InHand s id l) (hs : m.session = s)
    (hm : m.ends s = false) : x.batch m = [] := by
  obtain ⟨t, hc, -⟩ := hi
  cases ht : x.turn? m with
  | none => exact batch_of_none ht
  | some p =>
    obtain ⟨⟨s', op⟩, r⟩ := p
    obtain rfl : s' = s := (session_of_turn? ht).trans hs
    rw [batch_of_some ht]
    exact SharedIndex.batch_of_bound hc (h.isEnd_of_ends ht hm) ..

/-- A transaction is kept with the last of its writes to each key, while nothing of it is committed;
an operation that fails adds nothing to it. A commit then publishes these writes, or is refused and
publishes none; a rollback publishes none. Either way the transaction is over. -/
theorem ending_publishes_ledger (o : KeyOrder) (p : Index) (mode : Isolation) {before : List Move}
    (hb : (((opening o p mode).after before).take (.start s .begin)).1 =
      some ⟨s, .begin, .ok (.started id)⟩)
    (hd : ∀ m ∈ during, m.ends s = false) :
    let y := (((opening o p mode).after before).take (.start s .begin)).2
    let z := y.after during
    (∀ past rest, during = past ++ rest →
      let x := y.after past
      x.index.InHand s id (y.ledger s .empty past) ∧
        ∀ m ∈ rest.head?, m.session = s → x.batch m = [] ∧
          ∀ op e, (x.take m).1 = some ⟨s, op, .error e⟩ →
            (x.take m).2.index.InHand s id (y.ledger s .empty past)) ∧
      (z.waiting.get? s = none →
        (∃ a, (z.take (.start s .commit)).1 = some ⟨s, .commit, a⟩ ∧
          SharedIndex.Committed z.index.store (y.ledger s .empty during) a
            (z.take (.start s .commit)).2.index.store ∧
          (z.take (.start s .commit)).2.index.registry.current? s = none) ∧
        (z.take (.start s .rollback)).1 = some ⟨s, .rollback, .ok .done⟩ ∧
          (z.take (.start s .rollback)).2.index.store = z.index.store ∧
          (z.take (.start s .rollback)).2.index.registry.current? s = none) := by
  intro y z
  have hy : y.Tidy := ((tidy_opening o p mode).after before).take _
  have hbegun : y.index.InHand s id .empty := inHand_begin hb
  refine ⟨?_, fun hw => ?_⟩
  · rintro past rest rfl
    have hx := hy.after past
    have hkept := inHand_after hy hbegun fun m hm => hd m (List.mem_append_left rest hm)
    refine ⟨hkept, fun m hm hs => ?_⟩
    have hend := hd m (List.mem_append_right past (List.mem_of_mem_head? hm))
    exact ⟨hx.batch_of_bound hkept hs hend, fun op e he => inHand_take_of_error hx hkept hend he⟩
  · have hz : z.Tidy := hy.after during
    have hkept : z.index.InHand s id (y.ledger s .empty during) := inHand_after hy hbegun hd
    obtain ⟨hanswer, hstore⟩ := hkept.rollback
    rw [take_of_some (turn?_start hw .commit), take_of_some (turn?_start hw .rollback),
      event_settle, event_settle, index_settle, index_settle]
    refine ⟨⟨(z.index.commitSession s).1, rfl, hkept.commit hz.sound,
      SharedIndex.current?_commitSession z.index s⟩, ?_, hstore,
      SharedIndex.current?_rollback z.index s⟩
    change some (Event.mk s .rollback (z.index.rollback s).1) = _
    rw [hanswer]

theorem ending_publishes_ledger_after_failures :
    let card : Card Record := ⟨⟨.empty, none⟩, ⟨"note", [], .empty⟩⟩
    let p := ((Index.ofIndexing .usual).store "k" card).store "l" card
    let during := [Move.start "a" (.updateEntry "k" card.entry), .start "a" (.remove "k"),
      .start "a" (.updateEntry "k" card.entry), .start "b" (.remove "k"),
      .start "a" (.get "l"), .start "c" (.remove "l")]
    let x := (opening .given p .repeatableRead).after []
    let y := (x.take (.start "a" .begin)).2
    let z := y.after during
    (x.take (.start "a" .begin)).1 = some ⟨"a", .begin, .ok (.started 1)⟩ ∧
      (∀ m ∈ during, m.ends "a" = false) ∧ z.waiting.get? "a" = none ∧
      (y.ledger "a" .empty during "k").map Option.isSome = some false ∧
      y.ledger "a" .empty during "l" = none ∧
      ∃ a, (z.take (.start "a" .commit)).1 = some ⟨"a", .commit, a⟩ ∧
        SharedIndex.Committed z.index.store (y.ledger "a" .empty during) a
          (z.take (.start "a" .commit)).2.index.store ∧
        (z.take (.start "a" .commit)).2.index.registry.current? "a" = none := by
  intro card p during
  have hw : (((((opening .given p .repeatableRead).after []).take (.start "a" .begin)).2).after
      during).waiting.get? "a" = none := Option.isNone_iff_eq_none.1 (by decide +kernel)
  have hb : (((opening .given p .repeatableRead).after []).take (.start "a" .begin)).1 =
      some ⟨"a", .begin, .ok (.started 1)⟩ := rfl
  have hends : ∀ m ∈ during, m.ends "a" = false := by decide
  refine ⟨rfl, hends, hw, by decide +kernel, Option.isNone_iff_eq_none.1 (by decide +kernel), ?_⟩
  have h := ending_publishes_ledger .given p .repeatableRead hb hends
  exact (h.2 hw).1

end InHand

end Scene

end Cardfile
