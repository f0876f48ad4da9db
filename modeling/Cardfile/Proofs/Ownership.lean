import Cardfile.Proofs.Scenes

/-! # Ownership

Between the moves of any sessions, locks and pending writes are those of the transactions that run.
Nothing is left of a transaction that has ended, nor of a step that was a transaction by itself.
-/

namespace Cardfile

variable {i j : SharedIndex} {s s' : Session} {op : Operation} {id : TxId} {key : Key}
  {t u : Transaction Record} {c? : Option (Key × Change)} {r : Progress × SharedIndex}

/-- Whose move it is. -/
def Move.session : Move → Session
  | .start s _ => s
  | .retry s => s
  | .giveUp s => s

namespace SharedIndex

/-- Locks and pending writes have owners that run, each of them with keys of its own. A session has
one transaction at most, and that one is active. -/
structure Owned (i : SharedIndex) : Prop where
  active : ∀ {s t}, i.registry.current? s = some t → t.state = .active
  numbered : ∀ {s t}, i.registry.current? s = some t → t.id < i.registry.nextId
  apart : ∀ {s s' t t'}, i.registry.current? s = some t → i.registry.current? s' = some t' →
    s ≠ s' → t.id ≠ t'.id ∧ t.locked.Disjoint t'.locked
  holder_iff : ∀ key id, i.locks.holder? key = some id ↔
    ∃ s t, i.registry.current? s = some t ∧ t.id = id ∧ key ∈ t.locked
  pending_iff : ∀ key id value, i.pending.get? key = some (id, value) ↔
    ∃ s t, i.registry.current? s = some t ∧ t.id = id ∧ t.ownWrite? key = some value
  covered : ∀ {s t key own}, i.registry.current? s = some t → t.ownWrite? key = some own →
    i.locks.holder? key = some t.id

/-- Two indexes in which the same keys are locked and the same writes pending. -/
structure SameTables (i j : SharedIndex) : Prop where
  locks : ∀ key, j.locks.holder? key = i.locks.holder? key
  pending : ∀ key, j.pending.get? key = i.pending.get? key

/-- No key is locked or has a write pending under a number. -/
structure Released (i : SharedIndex) (id : TxId) : Prop where
  locks : ∀ key, i.locks.holder? key ≠ some id
  pending : ∀ key value, i.pending.get? key ≠ some (id, value)

section Owned

theorem Tidy.owned (h : i.Tidy) : i.Owned where
  active hc := h.holdings.active hc
  numbered hc := h.numbered hc
  apart hc hc' hs := by
    have hid : _ ≠ _ := fun hid => hs (h.holdings.apart hc hc' hid)
    refine ⟨hid, fun key hk hk' => hid ?_⟩
    -- a key has one holder
    have hl := (h.holdings.mem_locked_iff hc).1 hk
    rw [(h.holdings.mem_locked_iff hc').1 hk'] at hl
    exact (Option.some.inj hl).symm
  holder_iff := h.holdings.holder_iff
  pending_iff := h.holdings.pending_iff
  covered hc ho := (h.holdings.mem_locked_iff hc).1 (h.holdings.covered hc ho)

/-- The tables are known from the transactions that run. -/
theorem Owned.sameTables (hi : i.Owned) (hj : j.Owned)
    (h : ∀ s, j.registry.current? s = i.registry.current? s) : i.SameTables j := by
  constructor
  · intro key
    ext id
    rw [hi.holder_iff, hj.holder_iff]
    simp only [h]
  · intro key
    ext ⟨id, value⟩
    rw [hi.pending_iff, hj.pending_iff]
    simp only [h]

theorem Owned.released (h : i.Owned)
    (hn : ∀ s t, i.registry.current? s = some t → t.id ≠ id) : i.Released id := by
  constructor
  · intro key hk
    obtain ⟨s, t, hc, hid, -⟩ := (h.holder_iff key id).1 hk
    exact hn s t hc hid
  · intro key value hk
    obtain ⟨s, t, hc, hid, -⟩ := (h.pending_iff key id value).1 hk
    exact hn s t hc hid

/-- A number that has been given out and that nobody has is nobody's from then on. -/
theorem Orderly.id_ne (h : i.Orderly j) (hid : id < i.registry.nextId)
    (hn : ∀ s t, i.registry.current? s = some t → t.id ≠ id) :
    ∀ s t, j.registry.current? s = some t → t.id ≠ id := by
  intro s u hc
  rcases h.known hc with hle | ⟨s', t, hc', he⟩
  · exact Nat.ne_of_gt (Nat.lt_of_lt_of_le hid hle)
  · exact he ▸ hn s' t hc'

end Owned

section Unbound

/-- Only who begins gets a transaction. -/
theorem current?_start_of_none (hop : op.change? i.indexing = none) (hb : op ≠ .begin)
    (hn : i.registry.current? s = none) : (i.start s op).2.registry.current? s = none := by
  have settings : ∀ change,
      (i.changed (i.changeSettings change)).2.registry.current? s = none := by
    intro change
    rw [registry_changeSettings]
    exact hn
  cases op with
  | begin => exact absurd rfl hb
  | commit => exact current?_commitSession i s
  | rollback => exact current?_rollback i s
  | get key =>
    have hread := current?_read i s fun i t => i.get t key
    rw [hn] at hread
    exact hread
  | search text =>
    change (i.searchText s text).2.registry.current? s = none
    unfold searchText
    split
    · exact hn
    · rw [current?_read, hn]
      rfl
  | clear =>
    change (i.changed i.clear).2.registry.current? s = none
    unfold clear
    split <;> exact hn
  | setStopWords words => exact settings _
  | setSynonyms table => exact settings _
  | add | update | updateEntry | remove => cases hop
  | _ => exact hn

theorem Deed.current?_of_none (h : i.Deed s op c? r) (hb : op ≠ .begin)
    (hn : i.registry.current? s = none) : r.2.registry.current? s = none := by
  cases h with
  | plain hop => exact current?_start_of_none hop hb hn
  | refused => exact hn
  | bound hop hc => cases hn.symm.trans hc
  | @alone x t j key c hop _ _ _ hj ht =>
    rcases writeSingle_cases ht j s key c with ⟨holder, hw⟩ | ⟨a, k, hw, ha⟩
    · rw [hw]
      exact hj
    · rw [hw]
      dsimp only
      rw [ha.registry]
      exact hj

end Unbound

end SharedIndex

namespace Scene

variable {x : Scene} {m : Move} {moves : List Move}

section Moves

theorem session_of_turn? {p : (Session × Operation) × Progress × SharedIndex}
    (h : x.turn? m = some p) : p.1.1 = m.session := by
  unfold turn? at h
  cases m with
  | start s op =>
    dsimp only at h
    split at h
    · cases h
    · cases h
      rfl
  | retry s =>
    obtain ⟨e, -, rfl⟩ := Option.map_eq_some_iff.1 h
    rfl
  | giveUp s =>
    obtain ⟨e, -, rfl⟩ := Option.map_eq_some_iff.1 h
    rfl

/-- Who waits did not ask to begin. -/
theorem Tidy.ne_begin_of_turn? (h : x.Tidy) (ht : x.turn? m = some ((s, op), r))
    (hm : m ≠ .start s .begin) : op ≠ .begin := by
  rintro rfl
  rcases h.start_or_write ht with hs | ⟨y, p, hop⟩
  · exact hm hs
  · cases hop

theorem Tidy.orderly (h : x.Tidy) (m : Move) : x.index.Orderly (x.take m).2.index := by
  rcases h.take_cases m with ⟨-, ht, -⟩ | ⟨s, op, r, -, hd, ht, -⟩
  · rw [ht]
    exact h.index.orderly
  · rw [ht, index_settle]
    exact hd.orderly h.index

theorem Tidy.orderly_after (h : x.Tidy) (moves : List Move) :
    x.index.Orderly (x.after moves).index := by
  induction moves generalizing x with
  | nil => exact h.index.orderly
  | cons m rest ih => exact (h.orderly m).trans (ih (h.take m))

/-- A move of a session without a transaction leaves everybody the transaction that he has, unless
it begins one. -/
theorem Tidy.current?_take_of_none (h : x.Tidy)
    (hn : x.index.registry.current? m.session = none) (hb : m ≠ .start m.session .begin)
    (s : Session) : (x.take m).2.index.registry.current? s = x.index.registry.current? s := by
  cases ht : x.turn? m with
  | none => rw [take_of_none ht]
  | some p =>
    obtain ⟨⟨s', op⟩, r⟩ := p
    obtain rfl : s' = m.session := session_of_turn? ht
    have hd := h.deed ht
    rw [take_of_some ht, index_settle]
    by_cases hs : s = m.session
    · subst hs
      rw [hn]
      exact hd.current?_of_none (h.ne_begin_of_turn? ht hb) hn
    · exact hd.moved.others s hs

end Moves

/-- After all moves locks and pending writes are owned by transactions that run; a number under
which nobody runs any more stays without locks and pending writes; and a session without a
transaction changes neither table by a move, whatever comes of it. -/
theorem tables_owned (o : KeyOrder) (p : Index) (mode : Isolation) (past rest : List Move) :
    let x := (opening o p mode).after past
    let y := (opening o p mode).after (past ++ rest)
    y.index.Owned ∧
      (∀ id < x.index.registry.nextId,
        (∀ s t, x.index.registry.current? s = some t → t.id ≠ id) → y.index.Released id) ∧
      ∀ m : Move, y.index.registry.current? m.session = none → m ≠ .start m.session .begin →
        y.index.SameTables (y.take m).2.index := by
  intro x y
  have hx : x.Tidy := (tidy_opening o p mode).after past
  have hy : y.Tidy := (tidy_opening o p mode).after (past ++ rest)
  have hxy : x.index.Orderly y.index := by
    have hafter : y = x.after rest := after_append _ past rest
    rw [hafter]
    exact hx.orderly_after rest
  refine ⟨hy.index.owned, fun id hid hn => ?_, fun m hn hb => ?_⟩
  · exact hy.index.owned.released (hxy.id_ne hid hn)
  · have hm := hy.current?_take_of_none hn hb
    exact hy.index.owned.sameTables (hy.take m).index.owned hm

theorem tables_owned_after_wait :
    let card : Card Record := ⟨⟨.empty, none⟩, ⟨"note", [], .empty⟩⟩
    let p := (Index.ofIndexing .usual).store "k" card
    let past := [Move.start "a" .begin, .start "a" (.remove "k"), .start "b" (.remove "k"),
      .start "a" .commit]
    let x := (opening .given p .readCommitted).after past
    let y := (opening .given p .readCommitted).after (past ++ [.start "c" (.remove "l")])
    1 < x.index.registry.nextId ∧ (∀ s t, x.index.registry.current? s = some t → t.id ≠ 1) ∧
      y.index.Released 1 ∧ y.index.registry.current? "b" = none ∧
      y.index.SameTables (y.take (.retry "b")).2.index := by
  intro card p past
  have hnone : ∀ s, ((opening .given p .readCommitted).after past).index.registry.current? s = none :=
    Dict.isEmpty_iff.1 (by decide +kernel)
  have hx : ∀ s t, ((opening .given p .readCommitted).after past).index.registry.current? s = some t →
      t.id ≠ 1 := by
    intro s t h
    rw [hnone] at h
    cases h
  have howned := tables_owned .given p .readCommitted past [.start "c" (.remove "l")]
  refine ⟨by decide +kernel, hx, howned.2.1 1 (by decide +kernel) hx,
    Option.isNone_iff_eq_none.1 (by decide +kernel), ?_⟩
  exact howned.2.2 (.retry "b") (Option.isNone_iff_eq_none.1 (by decide +kernel)) Move.noConfusion

end Scene

end Cardfile
