import Cardfile.Proofs.Overwriting

/-! # Own writes

From its first write to a key until it ends, a transaction reads there what it has written last,
builds on it, and is never refused another write: the lock keeps everybody else from the key.
-/

namespace Cardfile

variable {i j : SharedIndex} {s s' : Session} {op : Operation} {id : TxId} {key : Key}
  {t u : Transaction Record} {c : Change} {c? : Option (Key × Change)} {value : Staged}
  {r : Progress × SharedIndex} {reply : Reply} {a : Answer} {y : Indexing} {e : Event} {w : Waiting}

/-- The entry that a write leaves under its key. -/
def Operation.entry? : Operation → Option Record
  | .add _ _ entry | .update _ _ entry | .updateEntry _ entry => some entry
  | _ => none

theorem Indexing.entry_of_card {record entry : Record} {card : Card Record}
    (h : y.card record entry = .ok card) : card.entry = entry := by
  unfold Indexing.card at h
  cases hx : y.mappings.extract y.analyzer record with
  | error e =>
    rw [hx] at h
    cases h
  | ok extract =>
    rw [hx] at h
    cases h
    rfl

/-- What a write leaves has the entry that the operation came with. -/
theorem Operation.entry?_eq {old : Staged} (hop : op.change? y = some (key, .ok c))
    (hold : (∃ card, c = .add card) ∨ ∃ card, old = some card) :
    (c.leaves old).map Card.entry = op.entry? := by
  have made : ∀ {record entry : Record} {make : Card Record → Change},
      (y.card record entry).map make = .ok c → ∃ card, card.entry = entry ∧ c = make card := by
    intro record entry make h
    cases hcard : y.card record entry with
    | error e =>
      rw [hcard] at h
      cases h
    | ok card =>
      rw [hcard] at h
      cases h
      exact ⟨card, Indexing.entry_of_card hcard, rfl⟩
  cases op with
  | add key record entry =>
    obtain ⟨card, rfl, rfl⟩ := made (Prod.ext_iff.1 (Option.some.inj hop)).2
    rfl
  | update key record entry =>
    obtain ⟨card, rfl, rfl⟩ := made (Prod.ext_iff.1 (Option.some.inj hop)).2
    rfl
  | updateEntry key entry =>
    cases hop
    rcases hold with ⟨card, hc⟩ | ⟨card, rfl⟩
    · cases hc
    · rfl
  | remove key =>
    cases hop
    rfl
  | _ => cases hop

/-- Only a new entry depends on what was there. -/
theorem Change.leaves_eq (hc : ∀ entry, c ≠ .updateEntry entry) (old old' : Staged) :
    c.leaves old = c.leaves old' := by
  cases c with
  | updateEntry entry => exact absurd rfl (hc entry)
  | _ => rfl

namespace SharedIndex

section Own

/-- A transaction has the lock on a key that it has written. -/
theorem Tidy.lock_of_ownWrite? (h : i.Tidy) (hc : i.registry.current? s = some t)
    (ho : t.ownWrite? key = some value) : ∃ r, i.lock t key = .ok r := by
  have hheld := (h.holdings.mem_locked_iff hc).1 (h.holdings.covered hc ho)
  exact lock_of_holder fun id hid => (Option.some.inj (hheld.symm.trans hid)).symm

theorem seen_of_ownWrite? (ho : t.ownWrite? key = some value) : i.seen t key = value := by
  unfold seen
  rw [ho]
  rfl

/-- A further write to a key does to the own value what the change says. -/
theorem Tidy.writeBound_of_ownWrite? (h : i.Tidy) (hc : i.registry.current? s = some t)
    (ho : t.ownWrite? key = some value)
    (hs : t.level = .serializable → i.store.lastCommit key ≤ t.start) (c : Change) :
    (i.writeBound t s key c).1 = .answered ((c.onto key value).map fun _ => .done) := by
  obtain ⟨keys, j, hj, hw⟩ := write_of_lock (h.lock_of_ownWrite? hc ho) c
  have hbase : j.base { t with locked := keys } key = .ok value :=
    (base_congr hj t keys key).trans (base_of_ownWrite? ho)
  unfold SharedIndex.writeBound
  rw [hw, writeLocked_of_base hbase fun hl => hj.store ▸ hs hl]
  cases c.onto key value <;> rfl

/-- Nothing new is under a key that nobody commits. -/
theorem Publishes.lastCommit_le {writes : List (Write Record)} {store : VersionStore Record}
    (h : i.Publishes writes store) (hk : key ∉ writes.map Prod.fst) :
    store.lastCommit key ≤ i.store.lastCommit key := by
  cases h with
  | kept => exact Nat.le_refl _
  | applied => exact Nat.le_of_eq (VersionStore.lastCommit_apply_of_notMem hk)
  | pruned => exact VersionStore.lastCommit_pruned_le ..
  | cleared => exact Nat.zero_le _

theorem waits_of_writeBound (hw : (i.writeBound t s key c).1 = .waiting w) :
    w.key = key ∧ ∃ holder, i.lock t key = .error holder := by
  unfold writeBound write at hw
  cases hl : i.lock t key with
  | error holder =>
    rw [hl] at hw
    cases hw
    exact ⟨rfl, holder, rfl⟩
  | ok p =>
    rw [hl] at hw
    cases hw

end Own

end SharedIndex

namespace Scene

variable {x : Scene} {m : Move} {moves : List Move} {own? : Option Staged} {done : List Event}

/-- What a session has written to a key after a move, if it had written `own?` before: a change
applies to that, or else to the last commit. -/
def rewrite? (x : Scene) (s : Session) (key : Key) (own? : Option Staged) (m : Move) :
    Option Staged :=
  match x.change? m, (x.take m).1 with
  | some (_, c), some e =>
    if e.writesTo s key then some (c.leaves (own?.getD (x.index.store.latest? key))) else own?
  | _, _ => own?

/-- What a session has written to a key after some moves. -/
def draft (s : Session) (key : Key) (x : Scene) (own? : Option Staged) : List Move → Option Staged
  | [] => own?
  | m :: rest => (x.take m).2.draft s key (x.rewrite? s key own? m) rest

/-- The session has a transaction that has written `own?` to a key, the last time in the last event
of `done`. It does not wait for a key that it has written. -/
structure Drafting (x : Scene) (s : Session) (key : Key) (own? : Option Staged)
    (done : List Event) : Prop where
  retentive : x.Retentive
  grouped : x.Grouped
  bound : ∃ t, x.index.registry.current? s = some t ∧ t.ownWrite? key = own? ∧
    (own? ≠ none → t.level = .serializable → x.index.store.lastCommit key ≤ t.start)
  entry : own?.map (Option.map Card.entry) = done.getLast?.map fun e => e.operation.entry?
  free : own? ≠ none → ∀ op w, x.waiting.get? s = some (op, w) → w.key ≠ key

section Drafting

theorem rewrite?_of_silent (h : (x.take m).1.toList.filter (Event.writesTo s key) = []) :
    x.rewrite? s key own? m = own? := by
  unfold rewrite?
  split
  · next c e _ he =>
    have hsilent : e.writesTo s key = false := by simpa [he] using h
    rw [hsilent]
    rfl
  · rfl

/-- A session that has written a key does not begin to wait for it. -/
theorem Tidy.free_take (h : x.Tidy) (hc : x.index.registry.current? s = some t)
    (ho : t.ownWrite? key ≠ none)
    (hfree : ∀ op w, x.waiting.get? s = some (op, w) → w.key ≠ key)
    (hw : (x.take m).2.waiting.get? s = some (op, w)) : w.key ≠ key := by
  cases ht : x.turn? m with
  | none =>
    rw [take_of_none ht] at hw
    exact hfree op w hw
  | some p =>
    obtain ⟨⟨s', op'⟩, r⟩ := p
    have hd := h.deed ht
    rw [take_of_some ht] at hw
    rcases waits_settle x s' op' r hw with ⟨rfl, rfl, hr⟩ | ⟨-, hold⟩
    · generalize x.change? m = c? at hd
      cases hd with
      | plain hop =>
        obtain ⟨a, ha⟩ := SharedIndex.start_of_change_none (s := s) hop
        rw [ha] at hr
        cases hr
      | refused => cases hr
      | bound _ hc' =>
        cases hc.symm.trans hc'
        obtain ⟨rfl, holder, hlock⟩ := SharedIndex.waits_of_writeBound hr
        rintro rfl
        obtain ⟨own, hown⟩ := Option.ne_none_iff_exists'.1 ho
        obtain ⟨r, hr⟩ := h.index.lock_of_ownWrite? hc hown
        cases hlock.symm.trans hr
      | alone _ _ _ hn => cases hc.symm.trans hn
    · exact hfree op w hold

/-- What is staged is what the change makes of the own value, or else of the last commit. -/
theorem Retentive.staged_eq (h : x.Retentive) (hc : x.index.registry.current? s = some t)
    (hok : (x.index.writeBound t s key c).1 = .answered (.ok reply)) :
    c.leaves (x.index.base t key).toOption.join =
      c.leaves ((t.ownWrite? key).getD (x.index.store.latest? key)) := by
  cases ho : t.ownWrite? key with
  | some own =>
    rw [SharedIndex.base_of_ownWrite? ho]
    rfl
  | none =>
    by_cases hentry : ∃ entry, c = .updateEntry entry
    · obtain ⟨entry, rfl⟩ := hentry
      obtain ⟨old, hbase⟩ := SharedIndex.base_of_writeBound (by simp) hok
      have hlatest := (h.retains hc).base_eq ho hok hbase
      rw [hbase, Option.getD_none, ← hlatest]
      rfl
    · exact Change.leaves_eq (fun entry he => hentry ⟨entry, he⟩) _ _

/-- What a successful write stages has the entry that the operation came with. -/
theorem entry_of_writeBound (hop : op.change? y = some (key, .ok c))
    (hok : (x.index.writeBound t s key c).1 = .answered (.ok reply)) :
    (c.leaves (x.index.base t key).toOption.join).map Card.entry = op.entry? := by
  refine Operation.entry?_eq hop ?_
  by_cases hadd : ∃ card, c = .add card
  · exact .inl hadd
  · obtain ⟨old, hbase⟩ := SharedIndex.base_of_writeBound (fun card hc => hadd ⟨card, hc⟩) hok
    exact .inr ⟨old, by rw [hbase]; rfl⟩

/-- Who has just been answered does not wait. -/
theorem waiting_of_answer (he : (x.take m).1 = some e) :
    (x.take m).2.waiting.get? e.session = none := by
  cases ht : x.turn? m with
  | none =>
    rw [take_of_none ht] at he
    cases he
  | some p =>
    obtain ⟨⟨s, op⟩, ⟨a | w, i⟩⟩ := p
    · rw [take_of_some ht] at he ⊢
      cases he
      exact (Dict.get?_erase ..).trans (if_pos rfl)
    · rw [take_of_some ht] at he
      cases he

/-- A write that succeeds in a serializable transaction finds the key as it was at the start. -/
theorem lastCommit_le_of_writeBound (hl : t.level = .serializable)
    (hok : (x.index.writeBound t s key c).1 = .answered (.ok reply)) :
    x.index.store.lastCommit key ≤ t.start := by
  obtain ⟨keys, j, hj, hw⟩ := SharedIndex.writeLocked_of_writeBound hok
  exact hj.store ▸ SharedIndex.lastCommit_le_start (t := { t with locked := keys }) hl hw

theorem Drafting.take (h : x.Drafting s key own? done) (hm : m.ends s = false)
    (hg : m.ungroups = false) : (x.take m).2.Drafting s key (x.rewrite? s key own? m)
      (done ++ (x.take m).1.toList.filter (Event.writesTo s key)) := by
  obtain ⟨t, hc, rfl, hstart⟩ := h.bound
  have hx := h.retentive.tidy
  have hhand : x.index.InHand s t.id t.ownWrite? :=
    ⟨t, hc, rfl, hx.index.holdings.active hc, fun _ => rfl⟩
  obtain ⟨u, hu, -, -, hown⟩ := inHand_take hx hhand hm
  obtain ⟨u', hu', hgoes, -⟩ := hx.clings hc hm
  cases hu.symm.trans hu'
  have hpub := hx.publishes m
  -- while the transaction has written the key, nobody commits it
  have hlast : t.ownWrite? key ≠ none → u.level = .serializable →
      (x.take m).2.index.store.lastCommit key ≤ u.start := by
    intro hne hl
    obtain ⟨own, ho⟩ := Option.ne_none_iff_exists'.1 hne
    have hk := h.grouped.notMem_batch hx hc (hx.index.holdings.covered hc ho) hm
    rw [hgoes.start]
    exact Nat.le_trans (hpub.lastCommit_le hk) (hstart hne (hgoes.level.symm.trans hl))
  have hkept := h.retentive.take m
  have hgrouped := h.grouped.take hx hg
  rcases hx.staged?_cases hc m with ⟨hs, he⟩ | ⟨op, y, key', c, reply, he, hk, hop, hch, hok, hs⟩
  · rw [rewrite?_of_silent (he key), he, List.append_nil]
    refine ⟨hkept, hgrouped, ⟨u, hu, ?_, hlast⟩, h.entry, fun hne op w hw => ?_⟩
    · rw [hown, hs]
      rfl
    · exact hx.free_take hc hne (h.free hne) hw
  · by_cases hkey : key' = key
    · subst hkey
      have hwrites : Event.writesTo s key' ⟨s, op, .ok reply⟩ = true :=
        Event.writesTo_iff.2 ⟨rfl, hk, rfl⟩
      have hrewrite : x.rewrite? s key' (t.ownWrite? key') m =
          some (c.leaves ((t.ownWrite? key').getD (x.index.store.latest? key'))) := by
        unfold rewrite?
        rw [hch, he]
        exact if_pos hwrites
      have hbatch : x.batch m = [] := hx.batch_of_bound hhand (session_of_take he) hm
      rw [hrewrite, he, Option.toList_some, List.filter_singleton, hwrites, cond_true]
      refine ⟨hkept, hgrouped, ⟨u, hu, ?_, fun _ hl => ?_⟩, ?_, fun _ op' w hw => ?_⟩
      · rw [hown, hs, Ledger.enter_some, if_pos rfl, h.retentive.staged_eq hc hok]
      · have hle := lastCommit_le_of_writeBound (hgoes.level.symm.trans hl) hok
        rw [hgoes.start]
        exact Nat.le_trans (hpub.lastCommit_le (by simp [hbatch])) hle
      · rw [List.getLast?_concat, Option.map_some, Option.map_some]
        refine congrArg some ?_
        rw [← h.retentive.staged_eq hc hok]
        exact entry_of_writeBound hop hok
      · have hanswered := waiting_of_answer he
        rw [hanswered] at hw
        cases hw
    · have hsilent : (x.take m).1.toList.filter (Event.writesTo s key) = [] := by
        simp [he, Event.writesTo, hk, hkey]
      rw [rewrite?_of_silent hsilent, hsilent, List.append_nil]
      refine ⟨hkept, hgrouped, ⟨u, hu, ?_, hlast⟩, h.entry, fun hne op w hw => ?_⟩
      · rw [hown, hs, Ledger.enter_some, if_neg hkey]
      · exact hx.free_take hc hne (h.free hne) hw

theorem Drafting.after (h : x.Drafting s key own? done)
    (hm : ∀ m ∈ moves, m.ends s = false ∧ m.ungroups = false) :
    (x.after moves).Drafting s key (x.draft s key own? moves)
      (done ++ x.writesTo s key moves) := by
  induction moves generalizing x own? done with
  | nil =>
    have hn : x.writesTo s key [] = [] := rfl
    rw [hn, List.append_nil]
    exact h
  | cons m rest ih =>
    obtain ⟨⟨hend, hgroup⟩, hrest⟩ := List.forall_mem_cons.1 hm
    rw [writesTo_cons, ← List.append_assoc]
    exact ih (h.take hend hgroup) hrest

theorem drafting_begin (h : x.Retentive) (hg : x.Grouped) (key : Key)
    (hb : (x.take (.start s .begin)).1 = some ⟨s, .begin, .ok (.started id)⟩) :
    (x.take (.start s .begin)).2.Drafting s key none [] := by
  refine ⟨h.take _, hg.take h.tidy rfl, ⟨x.index.opened, ?_, rfl, fun hn => absurd rfl hn⟩, rfl,
    fun hn => absurd rfl hn⟩
  rw [(index_of_begun hb).2]
  exact Registry.current?_bind.trans (if_pos rfl)

/-- Who does not wait can read at once, and is answered by what the transaction sees. -/
theorem Tidy.answers_start (h : x.Tidy) (hw : x.waiting.get? s = none) (hr : op.isRead = true) :
    ∃ a, (x.take (.start s op)).1 = some ⟨s, op, a⟩ ∧
      View.Answers x.index.indexing (x.index.seen (x.index.acting s)) op a := by
  have hplain : op.change? x.index.indexing = none := by cases op <;> first | rfl | cases hr
  obtain ⟨a, ha⟩ := SharedIndex.start_of_change_none (s := s) hplain
  have hans := SharedIndex.answers_read h.sound hr s
  rw [SharedIndex.step_of_answered (Prod.ext ha rfl)] at hans
  rw [take_of_some (turn?_start hw op), event_settle, ha]
  exact ⟨a, rfl, hans⟩

/-- Who has written a key reads there what was written last. -/
theorem Drafting.read (h : x.Drafting s key (some value) done) (hw : x.waiting.get? s = none)
    (hk : op.looksAt key = true) : ∃ a, (x.take (.start s op)).1 = some ⟨s, op, a⟩ ∧
      Tells x.index.indexing key value op a := by
  obtain ⟨t, hc, ho, -⟩ := h.bound
  obtain ⟨a, ha, hans⟩ :=
    h.retentive.tidy.answers_start hw (Operation.isRead_of_looksAt hk)
  have htells := tells_of_answers hans hk
  rw [SharedIndex.acting_of_some hc, SharedIndex.seen_of_ownWrite? ho] at htells
  exact ⟨a, ha, htells⟩

/-- Who has written a key is answered to a further write what the change makes of the own value. -/
theorem Drafting.write (h : x.Drafting s key (some value) done) (hw : x.waiting.get? s = none)
    {c : Except Error Change} (hop : op.change? x.index.indexing = some (key, c)) :
    (x.take (.start s op)).1 =
      some ⟨s, op, (c.bind fun c => c.onto key value).map fun _ => .done⟩ := by
  obtain ⟨t, hc, ho, hstart⟩ := h.bound
  rw [take_of_some (turn?_start hw op), event_settle]
  cases c with
  | error e =>
    rw [SharedIndex.start_of_change_error hop]
    rfl
  | ok c =>
    rw [SharedIndex.start_of_change_ok hop]
    unfold SharedIndex.startWrite
    rw [hc]
    dsimp only
    rw [h.retentive.tidy.index.writeBound_of_ownWrite? hc ho (hstart (Option.some_ne_none _))]
    rfl

theorem isConflict_of_bind {c : Except Error Change}
    (hop : op.change? y = some (key, c)) (value : Staged) :
    Answer.isConflict ((c.bind fun c => c.onto key value).map fun _ => .done) = false := by
  cases c with
  | error e =>
    have hkind := Operation.kind_of_change? hop
    simp [Except.bind, Except.map, Answer.isConflict, hkind]
  | ok c =>
    dsimp only [Except.bind]
    cases honto : c.onto key value with
    | error e =>
      have hkind := (Change.kind_of_onto honto).1
      simp [Except.map, Answer.isConflict, hkind]
    | ok new => rfl

/-- As long as transactions are not turned off, a transaction that has written a key does not wait
for it again, and whatever the others do it goes by the last of its own writes: this gives the entry
that a read shows, and what a search looks at; another write is done on it, and fails only if it
builds on a card and the last write was a removal, or if its record cannot be read. -/
theorem own_writes_count (o : KeyOrder) (p : Index) (mode : Isolation) (before during : List Move)
    (hmode : mode ≠ .none) (hgroup : ∀ m ∈ before, m.ungroups = false)
    (hb : (((opening o p mode).after before).take (.start s .begin)).1 =
      some ⟨s, .begin, .ok (.started id)⟩)
    (hd : ∀ m ∈ during, m.ends s = false ∧ m.ungroups = false) :
    let y := (((opening o p mode).after before).take (.start s .begin)).2
    let z := y.after during
    ∀ key past e, y.writesTo s key during = past ++ [e] →
      ∃ own, y.draft s key none during = some own ∧ own.map Card.entry = e.operation.entry? ∧
        (∀ op w, z.waiting.get? s = some (op, w) → op.target? ≠ some key) ∧
        (z.waiting.get? s = none → ∀ op,
          (op.looksAt key = true → ∃ a, (z.take (.start s op)).1 = some ⟨s, op, a⟩ ∧
            Tells z.index.indexing key own op a) ∧
          ∀ c, op.change? z.index.indexing = some (key, c) →
            ∃ a, (z.take (.start s op)).1 = some ⟨s, op, a⟩ ∧ a.isConflict = false ∧
              a = (c.bind fun c => c.onto key own).map fun _ => .done) := by
  intro y z key past e hwrites
  have hx := (retentive_opening o p mode).after before
  have hg := (grouped_opening o p hmode).after (tidy_opening o p mode) hgroup
  have hz : z.Drafting s key (y.draft s key none during) (y.writesTo s key during) :=
    (drafting_begin hx hg key hb).after hd
  have hentry := hz.entry
  rw [hwrites, List.getLast?_concat] at hentry
  obtain ⟨own, hown, hlast⟩ := Option.map_eq_some_iff.1 hentry
  rw [hown] at hz
  refine ⟨own, hown, hlast, fun op w hw hk => ?_, fun hw op => ⟨hz.read hw, fun c hop => ?_⟩⟩
  · obtain ⟨y', hop⟩ := (hz.retentive.tidy.waits hw).change
    rw [op.target?_eq y', hop] at hk
    exact hz.free (Option.some_ne_none _) op w hw (Option.some.inj hk)
  · exact ⟨_, hz.write hw hop, isConflict_of_bind hop own, rfl⟩

theorem own_writes_count_after_removal :
    let card : Card Record := ⟨⟨.empty, none⟩, ⟨"note", [], .empty⟩⟩
    let p := (Index.ofIndexing .usual).store "k" card
    let during := [Move.start "a" (.updateEntry "k" ⟨"draft", [], .empty⟩),
      .start "b" (.remove "k"), .start "a" (.remove "k"), .giveUp "b"]
    let x := (opening .given p .serializable).after []
    let y := (x.take (.start "a" .begin)).2
    let z := y.after during
    (x.take (.start "a" .begin)).1 = some ⟨"a", .begin, .ok (.started 1)⟩ ∧
      (∀ m ∈ during, m.ends "a" = false ∧ m.ungroups = false) ∧
      y.writesTo "a" "k" during =
        [⟨"a", .updateEntry "k" ⟨"draft", [], .empty⟩, .ok .done⟩] ++ [⟨"a", .remove "k", .ok .done⟩] ∧
      z.waiting.get? "a" = none ∧ ∃ own, y.draft "a" "k" none during = some own ∧
        own.map Card.entry = none ∧
        (∃ a, (z.take (.start "a" (.get "k"))).1 = some ⟨"a", .get "k", a⟩ ∧
          Tells z.index.indexing "k" own (.get "k") a) ∧
        ∃ a, (z.take (.start "a" (.remove "k"))).1 = some ⟨"a", .remove "k", a⟩ ∧
          a.isConflict = false ∧ a = (Change.remove.onto "k" own).map fun _ => .done := by
  refine ⟨rfl, by decide, rfl, rfl, ?_⟩
  obtain ⟨own, hown, hentry, -, h⟩ := own_writes_count (s := "a") .given
    ((Index.ofIndexing .usual).store "k" ⟨⟨.empty, none⟩, ⟨"note", [], .empty⟩⟩) .serializable []
    [.start "a" (.updateEntry "k" ⟨"draft", [], .empty⟩), .start "b" (.remove "k"),
      .start "a" (.remove "k"), .giveUp "b"] (by decide) (by decide) rfl (by decide) "k"
    [⟨"a", .updateEntry "k" ⟨"draft", [], .empty⟩, .ok .done⟩] ⟨"a", .remove "k", .ok .done⟩ rfl
  exact ⟨own, hown, hentry, (h rfl (.get "k")).1 rfl, (h rfl (.remove "k")).2 _ rfl⟩

end Drafting

end Scene

end Cardfile
