import Cardfile.Proofs.LostUpdates
import Cardfile.Proofs.Retention

/-! # Writes that build on a card

An update, a new entry and a removal build on a card that is there. When the write is made this is
the last commit of the key, and the lock keeps it so until the transaction ends. So what is replaced
by a commit is what the writes have built on, and renewing entries never brings back older terms.
-/

namespace Cardfile

variable {i j : SharedIndex} {s s' : Session} {op : Operation} {id : TxId} {key : Key}
  {t u : Transaction Record} {c : Change} {c? : Option (Key × Change)} {value : Staged}
  {r : Progress × SharedIndex} {reply : Reply} {a : Answer} {y : Indexing} {e : Event}

/-- Whether an operation gives a card a new entry and leaves its terms. -/
def Operation.renews : Operation → Bool
  | .updateEntry .. => true
  | _ => false

/-- Whether an event is a successful write of a session to a key. -/
def Event.writesTo (s : Session) (key : Key) (e : Event) : Bool :=
  e.session = s && e.operation.target? = some key && e.answer.isOk

theorem Event.writesTo_iff : e.writesTo s key = true ↔
    e.session = s ∧ e.operation.target? = some key ∧ e.answer.isOk = true := by
  simp [writesTo, and_assoc]

theorem Operation.exists_of_renews (hop : op.change? y = some (key, .ok c))
    (hr : op.renews = true) : ∃ entry, c = .updateEntry entry := by
  cases op with
  | updateEntry key entry =>
    cases hop
    exact ⟨entry, rfl⟩
  | _ => cases hr

/-- A change that builds on a card succeeds only if there is one. -/
theorem Change.exists_of_onto {old : Staged} (hb : ∀ card, c ≠ .add card)
    (h : c.onto key old = .ok value) : ∃ card, old = some card ∧ value = c.leaves old := by
  cases c with
  | add card => exact absurd rfl (hb card)
  | _ =>
    cases old with
    | none => cases h
    | some card =>
      cases h
      exact ⟨card, rfl, rfl⟩

namespace SharedIndex

section Base

/-- A write that builds on a card has found one. -/
theorem base_of_writeLocked (hb : ∀ card, c ≠ .add card)
    (hw : (i.writeLocked t key c).1 = .ok ()) : ∃ old, i.base t key = .ok (some old) := by
  unfold writeLocked at hw
  split at hw
  · cases hw
  · cases c with
    | add card => exact absurd rfl (hb card)
    | _ =>
      cases hbase : i.base t key with
      | error clash =>
        rw [hbase] at hw
        cases hw
      | ok old =>
        cases old with
        | none =>
          rw [hbase] at hw
          cases hw
        | some card => exact ⟨card, rfl⟩

theorem base_of_writeBound (hb : ∀ card, c ≠ .add card)
    (hw : (i.writeBound t s key c).1 = .answered (.ok reply)) :
    ∃ old, i.base t key = .ok (some old) := by
  obtain ⟨keys, j, hj, hok⟩ := writeLocked_of_writeBound hw
  rw [← base_congr hj]
  exact base_of_writeLocked hb hok

/-- The first write of a transaction to a key builds on the last commit: the snapshot and the pin,
where the card is taken from there, have been checked against it. -/
theorem Retains.base_eq (h : i.Retains t) (ho : t.ownWrite? key = none) {old : Staged}
    (hw : (i.writeBound t s key c).1 = .answered (.ok reply)) (hb : i.base t key = .ok old) :
    old = i.store.latest? key := by
  unfold base at hb
  rw [ho] at hb
  cases hl : t.level with
  | serializable =>
    obtain ⟨keys, j, hj, hok⟩ := writeLocked_of_writeBound hw
    have hlast := lastCommit_le_start (t := { t with locked := keys }) hl hok
    rw [hj.store] at hlast
    rw [hl] at hb
    exact (Except.ok.inj hb).symm.trans (VersionStore.at?_eq_latest? hlast)
  | repeatableRead =>
    rw [hl] at hb
    dsimp only at hb
    cases hp : t.pins.get? key with
    | none =>
      rw [hp] at hb
      exact (Except.ok.inj hb).symm
    | some pin =>
      rw [hp] at hb
      dsimp only at hb
      split at hb
      · cases hb
      · next hle =>
        exact (Except.ok.inj hb).symm.trans ((h.stands hp).value_eq (Nat.le_of_not_lt hle))
  | _ =>
    rw [hl] at hb
    exact (Except.ok.inj hb).symm

theorem base_of_ownWrite? (ho : t.ownWrite? key = some value) : i.base t key = .ok value := by
  unfold base
  rw [ho]

end Base

section Publish

/-- Others publish nothing under a key that is not in their batch. -/
theorem Publishes.latest?_eq {writes : List (Write Record)} {store : VersionStore Record}
    (h : i.Publishes writes store) (hc : i.registry.current? s = some t)
    (hk : key ∉ writes.map Prod.fst) : store.latest? key = i.store.latest? key := by
  cases h with
  | kept => rfl
  | applied => exact VersionStore.latest?_apply_of_notMem hk
  | pruned => exact VersionStore.latest?_pruned
  | cleared h0 => exact absurd h0 (Nat.ne_of_gt (Registry.activeCount_pos hc))

theorem latest?_commitSession (hc : i.registry.current? s = some t) (ht : t.state = .active)
    (ha : (i.commitSession s).1 = .ok reply) :
    (i.commitSession s).2.store.latest? = t.overlaid i.store.latest? := by
  rw [commitSession_of_some hc ht] at ha ⊢
  rcases commit_cases (i.left s) t with ⟨clash, he⟩ | ⟨he, -⟩
  · rw [he] at ha
    cases ha
  · rw [he]
    exact latest?_publish (i.left s) t

/-- A single write that builds on a card builds on the last commit and replaces it. -/
theorem Deed.replaces (h : i.Deed s op c? r) (hc : i.registry.current? s = none)
    (ha : r.1 = .answered (.ok reply)) (hk : op.target? = some key) (hb : op.builds = true) :
    ∃ y c old, op.change? y = some (key, .ok c) ∧ i.store.latest? key = some old ∧
      r.2.store.latest? key = c.leaves (some old) := by
  cases h with
  | plain hop =>
    rw [op.target?_eq i.indexing, hop] at hk
    cases hk
  | refused => cases ha
  | bound _ hc' => cases hc.symm.trans hc'
  | @alone y t j key' c hop hq hj hn hn' ht hu =>
    rw [op.target?_eq y, hop] at hk
    obtain rfl : key' = key := Option.some.inj hk
    rcases writeSingle_cases ht j s key' c with ⟨holder, hw⟩ | ⟨a, k, hw, halone⟩
    · rw [hw] at ha
      cases ha
    · rw [hw] at ha ⊢
      cases ha
      have hanswer := halone.answer
      have hstore := halone.store
      cases honto : c.onto key' (j.store.latest? key') with
      | error e =>
        rw [honto] at hanswer
        cases hanswer
      | ok value =>
        obtain ⟨old, hold, rfl⟩ := Change.exists_of_onto (op.ne_add_of_builds hop hb) honto
        rw [honto] at hstore
        refine ⟨y, c, old, hop, hq.store ▸ hold, ?_⟩
        rw [← hold]
        dsimp only at hstore ⊢
        rw [hstore]
        exact VersionStore.latest?_apply_of_mem (w := (key', _)) (List.nodup_singleton _)
          List.mem_cons_self

end Publish

end SharedIndex

namespace Scene

variable {x : Scene} {m : Move} {moves : List Move} {l : Ledger} {done : List Event}

/-- What the sessions are answered in some moves. -/
def events (x : Scene) : List Move → List Event
  | [] => []
  | m :: rest => (x.take m).1.toList ++ (x.take m).2.events rest

/-- The successful writes of a session to a key in some moves. -/
def writesTo (x : Scene) (s : Session) (key : Key) (moves : List Move) : List Event :=
  (x.events moves).filter (Event.writesTo s key)

theorem writesTo_cons (x : Scene) (s : Session) (key : Key) (m : Move) (rest : List Move) :
    x.writesTo s key (m :: rest) =
      (x.take m).1.toList.filter (Event.writesTo s key) ++ (x.take m).2.writesTo s key rest :=
  List.filter_append ..

section Rewriting

/-- A session with a transaction makes no successful write in a move, or it makes one and stages
what the change leaves of the card that it builds on. -/
theorem Tidy.staged?_cases (h : x.Tidy) (hc : x.index.registry.current? s = some t) (m : Move) :
    (x.staged? s m = none ∧ ∀ key, (x.take m).1.toList.filter (Event.writesTo s key) = []) ∨
      ∃ op y key c reply, (x.take m).1 = some ⟨s, op, .ok reply⟩ ∧ op.target? = some key ∧
        op.change? y = some (key, .ok c) ∧ x.change? m = some (key, c) ∧
        (x.index.writeBound t s key c).1 = .answered (.ok reply) ∧
        x.staged? s m = some (key, c.leaves (x.index.base t key).toOption.join) := by
  unfold staged?
  cases ht : x.turn? m with
  | none =>
    rw [take_of_none ht]
    exact .inl ⟨rfl, fun _ => rfl⟩
  | some p =>
    obtain ⟨⟨s', op⟩, r⟩ := p
    have hd := h.deed ht
    rw [take_of_some ht, event_settle]
    generalize hch : x.change? m = c? at hd
    dsimp only
    by_cases hs : s' = s
    · subst hs
      rw [if_pos rfl]
      have silent : ∀ {a : Answer}, (op.target? = none ∨ a.isOk = false) →
          ∀ key, [Event.mk s' op a].filter (Event.writesTo s' key) = [] := by
        rintro a hor key
        rcases hor with hn | hn <;> simp [Event.writesTo, hn]
      cases hd with
      | plain hop =>
        obtain ⟨a, ha⟩ := SharedIndex.start_of_change_none (s := s') hop
        have hn : op.target? = none := by rw [op.target?_eq x.index.indexing, hop]; rfl
        rw [SharedIndex.staged?_none, ha]
        exact .inl ⟨rfl, silent (.inl hn)⟩
      | refused e hop => exact .inl ⟨rfl, silent (.inr rfl)⟩
      | @bound y t' key c hop hc' =>
        cases hc.symm.trans hc'
        unfold SharedIndex.staged?
        rw [hc]
        generalize hw : x.index.writeBound t s' key c = r
        obtain ⟨(e | reply) | w, j⟩ := r
        · exact .inl ⟨rfl, silent (.inr rfl)⟩
        · refine .inr ⟨op, y, key, c, reply, rfl, ?_, hop, rfl, congrArg Prod.fst hw, rfl⟩
          rw [op.target?_eq y, hop]
          rfl
        · exact .inl ⟨rfl, fun _ => rfl⟩
      | alone _ _ _ hn => cases hc.symm.trans hn
    · rw [if_neg hs]
      refine .inl ⟨rfl, fun key => ?_⟩
      split <;> simp [Event.writesTo, hs]

/-- What a transaction has made of a key. If its first write there builds on a card, then on the
last commit; and if it has only renewed the entry, it has kept the terms of that card. -/
inductive Rests (store : VersionStore Record) (key : Key) : Option Staged → List Event → Prop
  | fresh : Rests store key none []
  | laid {own : Staged} {e : Event} {rest : List Event} :
      (e.operation.builds = true → ∃ old, store.latest? key = some old ∧
        ((∀ e' ∈ e :: rest, e'.operation.renews = true) →
          ∃ card, own = some card ∧ card.toExtract = old.toExtract)) →
      Rests store key (some own) (e :: rest)

theorem Rests.congr {store store' : VersionStore Record} {own? : Option Staged}
    (h : Rests store key own? done)
    (hl : own? ≠ none → store'.latest? key = store.latest? key) : Rests store' key own? done := by
  cases h with
  | fresh => exact .fresh
  | laid hold =>
    refine .laid fun hb => ?_
    rw [hl (Option.some_ne_none _)]
    exact hold hb

/-- A first write to a key. -/
theorem Rests.first (hb : op.builds = true → ∃ old, i.base t key = .ok (some old) ∧
      i.store.latest? key = some old) (hop : op.change? y = some (key, .ok c)) :
    Rests i.store key (some (c.leaves (i.base t key).toOption.join)) [⟨s, op, a⟩] := by
  refine .laid fun hbuild => ?_
  obtain ⟨old, hbase, hlatest⟩ := hb hbuild
  refine ⟨old, hlatest, fun hall => ?_⟩
  obtain ⟨entry, rfl⟩ := Operation.exists_of_renews hop (hall _ List.mem_cons_self)
  rw [hbase]
  exact ⟨_, rfl, rfl⟩

/-- A further write to a key builds on the own one. -/
theorem Rests.next {store : VersionStore Record} (h : Rests store key (some value) done)
    (hop : op.change? y = some (key, .ok c)) :
    Rests store key (some (c.leaves value)) (done ++ [⟨s, op, a⟩]) := by
  cases h with
  | @laid _ e rest hold =>
    refine .laid fun hbuild => ?_
    obtain ⟨old, hlatest, hkept⟩ := hold hbuild
    refine ⟨old, hlatest, fun hall => ?_⟩
    have hfirst : ∀ e' ∈ e :: rest, e'.operation.renews = true :=
      fun e' he => hall e' (List.mem_append_left _ he)
    have hlast : op.renews = true := hall ⟨s, op, a⟩ (List.mem_append_right (e :: rest) (by simp))
    obtain ⟨entry, rfl⟩ := Operation.exists_of_renews hop hlast
    obtain ⟨card, rfl, hcard⟩ := hkept hfirst
    exact ⟨_, rfl, hcard⟩

/-- The session has a transaction with the writes `done` to a key. -/
structure Rewriting (x : Scene) (s : Session) (key : Key) (done : List Event) : Prop where
  retentive : x.Retentive
  grouped : x.Grouped
  bound : ∃ t, x.index.registry.current? s = some t ∧
    Rests x.index.store key (t.ownWrite? key) done

theorem Rewriting.take (h : x.Rewriting s key done) (hm : m.ends s = false)
    (hg : m.ungroups = false) : (x.take m).2.Rewriting s key
      (done ++ (x.take m).1.toList.filter (Event.writesTo s key)) := by
  obtain ⟨t, hc, hrests⟩ := h.bound
  have hx := h.retentive.tidy
  have hpub := hx.publishes m
  -- while the transaction has written the key, it has the lock
  have hlatest : t.ownWrite? key ≠ none →
      (x.take m).2.index.store.latest? key = x.index.store.latest? key := by
    intro hne
    obtain ⟨own, ho⟩ := Option.ne_none_iff_exists'.1 hne
    exact hpub.latest?_eq hc
      (h.grouped.notMem_batch hx hc (hx.index.holdings.covered hc ho) hm)
  have hhand : x.index.InHand s t.id t.ownWrite? :=
    ⟨t, hc, rfl, hx.index.holdings.active hc, fun _ => rfl⟩
  obtain ⟨u, hu, -, -, hown⟩ := inHand_take hx hhand hm
  refine ⟨h.retentive.take m, h.grouped.take hx hg, u, hu, ?_⟩
  rw [hown]
  rcases hx.staged?_cases hc m with ⟨hs, he⟩ | ⟨op, y, key', c, reply, he, hk, hop, -, hok, hs⟩
  · rw [hs, he, List.append_nil]
    exact hrests.congr hlatest
  · rw [hs, he, Ledger.enter_some]
    by_cases hkey : key' = key
    · subst hkey
      have hwrites : Event.writesTo s key' ⟨s, op, .ok reply⟩ = true :=
        Event.writesTo_iff.2 ⟨rfl, hk, rfl⟩
      have hbatch : x.batch m = [] := hx.batch_of_bound hhand (session_of_take he) hm
      have hsame : (x.take m).2.index.store.latest? key' = x.index.store.latest? key' :=
        hpub.latest?_eq hc (by rw [hbatch]; exact List.not_mem_nil)
      rw [if_pos rfl, Option.toList_some, List.filter_singleton, hwrites, cond_true]
      suffices hfirst : Rests x.index.store key' (some (c.leaves (x.index.base t key').toOption.join))
          (done ++ [⟨s, op, .ok reply⟩]) from hfirst.congr fun _ => hsame
      cases ho : t.ownWrite? key' with
      | none =>
        rw [ho] at hrests
        cases hrests
        refine Rests.first (fun hb => ?_) hop
        obtain ⟨old, hbase⟩ := SharedIndex.base_of_writeBound (op.ne_add_of_builds hop hb) hok
        exact ⟨old, hbase, ((h.retentive.retains hc).base_eq ho hok hbase).symm⟩
      | some own =>
        rw [ho] at hrests
        rw [SharedIndex.base_of_ownWrite? ho]
        exact hrests.next hop
    · have hsilent : Event.writesTo s key ⟨s, op, .ok reply⟩ = false := by
        simp [Event.writesTo, hk, hkey]
      rw [if_neg hkey, Option.toList_some, List.filter_singleton, hsilent, cond_false,
        List.append_nil]
      exact hrests.congr hlatest

theorem Rewriting.after (h : x.Rewriting s key done)
    (hm : ∀ m ∈ moves, m.ends s = false ∧ m.ungroups = false) :
    (x.after moves).Rewriting s key (done ++ x.writesTo s key moves) := by
  induction moves generalizing x done with
  | nil =>
    have hn : x.writesTo s key [] = [] := rfl
    rw [hn, List.append_nil]
    exact h
  | cons m rest ih =>
    obtain ⟨⟨hend, hgroup⟩, hrest⟩ := List.forall_mem_cons.1 hm
    rw [writesTo_cons, ← List.append_assoc]
    exact ih (h.take hend hgroup) hrest

/-- A session that has just begun has written nothing. -/
theorem rewriting_begin (h : x.Retentive) (hg : x.Grouped) (key : Key)
    (hb : (x.take (.start s .begin)).1 = some ⟨s, .begin, .ok (.started id)⟩) :
    (x.take (.start s .begin)).2.Rewriting s key [] := by
  refine ⟨h.take _, hg.take h.tidy rfl, x.index.opened, ?_, .fresh⟩
  rw [(index_of_begun hb).2]
  exact Registry.current?_bind.trans (if_pos rfl)

/-- A scene in which a key is live, and a later one where it has a card with the same terms and the
same rating field, provided that only its entry was renewed. -/
def Replaces (x : Scene) (key : Key) (renewed : Prop) (y : Scene) : Prop :=
  ∃ old, x.index.store.latest? key = some old ∧
    (renewed → ∃ new, y.index.store.latest? key = some new ∧ new.toExtract = old.toExtract)

/-- As long as transactions are not turned off, updates, new entries and removals build on the last
commit, alone or in a transaction at any level. If the first that a transaction writes to a key is
one of these, then the key is live just before the commit; and if the transaction has only given
the card new entries, its commit keeps the terms and the rating field of the card it replaces. -/
theorem writes_build_on_last_commit (o : KeyOrder) (p : Index) (mode : Isolation)
    (before : List Move) (hmode : mode ≠ .none) (hgroup : ∀ m ∈ before, m.ungroups = false) :
    let x := (opening o p mode).after before
    (∀ m s op key reply, x.index.registry.current? s = none →
      (x.take m).1 = some ⟨s, op, .ok reply⟩ → op.target? = some key → op.builds = true →
        x.Replaces key (op.renews = true) (x.take m).2) ∧
      ∀ s id during reply key e rest,
        (x.take (.start s .begin)).1 = some ⟨s, .begin, .ok (.started id)⟩ →
          (∀ m ∈ during, m.ends s = false ∧ m.ungroups = false) →
            let y := (x.take (.start s .begin)).2
            let z := y.after during
            (z.take (.start s .commit)).1 = some ⟨s, .commit, .ok reply⟩ →
              y.writesTo s key during = e :: rest → e.operation.builds = true →
                z.Replaces key (∀ e' ∈ e :: rest, e'.operation.renews = true)
                  (z.take (.start s .commit)).2 := by
  intro x
  have hx : x.Retentive := (retentive_opening o p mode).after before
  have hg : x.Grouped := (grouped_opening o p hmode).after (tidy_opening o p mode) hgroup
  refine ⟨fun m s op key reply hc he hk hb => ?_,
    fun s id during reply key e rest hbegin hd => ?_⟩
  · rcases hx.tidy.take_cases m with ⟨-, ht, -⟩ | ⟨s', op', r, -, hdeed, ht, -⟩
    · rw [ht] at he
      cases he
    · rw [ht, event_settle] at he
      obtain ⟨a | w, j⟩ := r
      · cases he
        obtain ⟨y, c, old, hop, hold, hnew⟩ := hdeed.replaces hc rfl hk hb
        refine ⟨old, hold, fun hr => ?_⟩
        obtain ⟨entry, rfl⟩ := Operation.exists_of_renews hop hr
        rw [ht, index_settle]
        exact ⟨_, hnew, rfl⟩
      · cases he
  · intro y z hcommit hwrites hb
    have hz : z.Rewriting s key (y.writesTo s key during) :=
      (rewriting_begin hx hg key hbegin).after hd
    obtain ⟨t, hc, hrests⟩ := hz.bound
    have hwait := waiting_of_event hcommit
    rw [take_of_some (turn?_start hwait .commit), event_settle] at hcommit
    have hok : (z.index.commitSession s).1 = .ok reply :=
      congrArg Event.answer (Option.some.inj hcommit)
    have hpublished := congrFun (SharedIndex.latest?_commitSession hc (hz.retentive.tidy.index.holdings.active hc) hok) key
    rw [hwrites] at hrests
    generalize ho : t.ownWrite? key = own? at hrests
    cases hrests with
    | laid hold =>
      obtain ⟨old, hlatest, hkept⟩ := hold hb
      refine ⟨old, hlatest, fun hall => ?_⟩
      obtain ⟨new, rfl, hnew⟩ := hkept hall
      rw [take_of_some (turn?_start hwait .commit), index_settle]
      exact ⟨new, hpublished.trans (Transaction.overlaid_of_some ho _), hnew⟩

theorem writes_build_on_last_commit_of_renewed :
    let card : Card Record := ⟨⟨.empty, none⟩, ⟨"note", [], .empty⟩⟩
    let p := ((Index.ofIndexing .usual).store "k" card).store "l" card
    let renew : Operation := .updateEntry "k" ⟨"draft", [], .empty⟩
    let during := [Move.start "a" (.get "k"), .start "b" (.remove "l"), .start "a" renew]
    let x := (opening .given p .repeatableRead).after []
    let y := (x.take (.start "a" .begin)).2
    let z := y.after during
    (x.take (.start "a" .begin)).1 = some ⟨"a", .begin, .ok (.started 1)⟩ ∧
      (∀ m ∈ during, m.ends "a" = false ∧ m.ungroups = false) ∧
      (z.take (.start "a" .commit)).1 = some ⟨"a", .commit, .ok .done⟩ ∧
      y.writesTo "a" "k" during = [⟨"a", renew, .ok .done⟩] ∧
      z.Replaces "k" (∀ e ∈ [(⟨"a", renew, .ok .done⟩ : Event)], e.operation.renews = true)
        (z.take (.start "a" .commit)).2 ∧
      x.Replaces "l" (Operation.renews (.remove "l") = true) (x.take (.start "b" (.remove "l"))).2 := by
  refine ⟨rfl, by decide, rfl, rfl, ?_, ?_⟩
  · exact (writes_build_on_last_commit .given _ .repeatableRead [] (by decide) (by decide)).2
      "a" 1 [.start "a" (.get "k"), .start "b" (.remove "l"),
        .start "a" (.updateEntry "k" ⟨"draft", [], .empty⟩)]
      .done "k" _ [] rfl (by decide) rfl rfl rfl
  · exact (writes_build_on_last_commit .given _ .repeatableRead [] (by decide) (by decide)).1
      (.start "b" (.remove "l")) "b" (.remove "l") "l" .done rfl rfl rfl rfl

end Rewriting

end Scene

end Cardfile
