import Cardfile.Proofs.Bookkeeping
import Cardfile.Proofs.Chronicle

/-! # Scenes

A scene is an index with the writes that wait for it. Sessions make moves in any order: one starts
a step, one that waits tries again or gives up. Each move commits a batch of writes, which is empty
unless a transaction is committed or a single write is done.
-/

namespace Cardfile

inductive Move
  | start (s : Session) (op : Operation)
  | retry (s : Session)
  | giveUp (s : Session)

structure Scene where
  index : SharedIndex
  waiting : Dict Session (Operation × Waiting)

/-- The writes that a session commits when an operation is answered. -/
def SharedIndex.batch (i : SharedIndex) (c? : Option (Key × Change)) (s : Session)
    (op : Operation) : Progress → List (Write Record)
  | .answered (.ok _) =>
    match i.registry.current? s, op, c? with
    | some t, .commit, _ => i.order.entries i.store.clock t.writes
    | none, _, some (key, c) =>
      match c.onto key (i.store.latest? key) with
      | .ok value => [(key, value)]
      | .error _ => []
    | _, _, _ => []
  | _ => []

/-- The write that an operation asks for, if it can be made out. -/
def SharedIndex.asked (i : SharedIndex) (op : Operation) : Option (Key × Change) :=
  match op.change? i.indexing with
  | some (key, .ok c) => some (key, c)
  | _ => none

namespace Scene

def opening (o : KeyOrder) (p : Index) (mode : Isolation) : Scene :=
  ⟨{ SharedIndex.ofIndex o p with mode := mode }, .empty⟩

/-- Whose turn it is in a move and what the index makes of it. Who waits cannot start a step, and
who does not wait can only do that. -/
def turn? (x : Scene) : Move → Option ((Session × Operation) × Progress × SharedIndex)
  | .start s op => if x.waiting.contains s then none else some ((s, op), x.index.start s op)
  | .retry s => (x.waiting.get? s).map fun e => ((s, e.1), x.index.resume e.2)
  | .giveUp s =>
    (x.waiting.get? s).map fun e => ((s, e.1), SharedIndex.answered (x.index.expire e.2))

/-- The change to a key that is tried in a move. -/
def change? (x : Scene) : Move → Option (Key × Change)
  | .start _ op => x.index.asked op
  | .retry s => (x.waiting.get? s).map fun e => (e.2.key, e.2.change)
  | .giveUp _ => none

def settle (x : Scene) (s : Session) (op : Operation) :
    Progress × SharedIndex → Option Event × Scene
  | (.answered a, i) => (some ⟨s, op, a⟩, ⟨i, x.waiting.erase s⟩)
  | (.waiting w, i) => (none, ⟨i, x.waiting.insert s (op, w)⟩)

/-- A move, with the event if it brings an answer. -/
def take (x : Scene) (m : Move) : Option Event × Scene :=
  match x.turn? m with
  | some ((s, op), r) => x.settle s op r
  | none => (none, x)

def after (x : Scene) (moves : List Move) : Scene := moves.foldl (fun x m => (x.take m).2) x

/-- The writes that a move commits, which may be none. -/
def batch (x : Scene) (m : Move) : List (Write Record) :=
  match x.turn? m with
  | some ((s, op), r) => x.index.batch (x.change? m) s op r.1
  | none => []

/-- All writes that are committed on the way through some moves. -/
def written (x : Scene) : List Move → List (Write Record)
  | [] => []
  | m :: rest => x.batch m ++ (x.take m).2.written rest

end Scene

/-- Whether a session asks in a move for the end of its transaction. -/
def Move.ends (s : Session) : Move → Bool
  | .start s' op => s' = s && op.isEnd
  | _ => false

variable {i j k : SharedIndex} {s s' : Session} {t u : Transaction Record} {key : Key}
  {c : Change} {c? : Option (Key × Change)} {op : Operation} {w : Waiting} {x : Scene} {m : Move}
  {r : Progress × SharedIndex} {moves : List Move}

namespace SharedIndex

/-- What the index may do for a session in a move. -/
inductive Deed (i : SharedIndex) (s : Session) (op : Operation) :
    Option (Key × Change) → Progress × SharedIndex → Prop
  /-- An operation that is not a write is done at once. -/
  | plain : op.change? i.indexing = none → Deed i s op none (i.start s op)
  /-- A write is refused or given up. -/
  | refused {c? : Option (Key × Change)} {x : Indexing} {p : Key × Except Error Change}
      (e : Error) : op.change? x = some p → e.kind ≠ .unknownKey →
      Deed i s op c? (.answered (.error e), i)
  /-- A write is tried in the transaction of the session. -/
  | bound {x : Indexing} {t : Transaction Record} {key : Key} {c : Change} :
      op.change? x = some (key, .ok c) → i.registry.current? s = some t →
      Deed i s op (some (key, c)) (i.writeBound t s key c)
  /-- A write is tried in a transaction of its own. -/
  | alone {x : Indexing} {t : Transaction Record} {j : SharedIndex} {key : Key} {c : Change} :
      op.change? x = some (key, .ok c) → i.Quiet s j → i.Orderly j →
      i.registry.current? s = none → j.registry.current? s = none → t.IsSingle → j.Apart t →
      Deed i s op (some (key, c)) (j.writeSingle t s key c)

section Deed

theorem deed_startWrite (h : i.Tidy) {x : Indexing} (hop : op.change? x = some (key, .ok c)) :
    i.Deed s op (some (key, c)) (i.startWrite s key c) := by
  unfold startWrite
  cases hc : i.registry.current? s with
  | some t => exact .bound hop hc
  | none =>
    exact .alone hop (quiet_single i s) h.single hc hc (isSingle_single i) h.apart_single

theorem deed_start (h : i.Tidy) (s : Session) (op : Operation) :
    i.Deed s op (i.asked op) (i.start s op) := by
  unfold asked
  cases hop : op.change? i.indexing with
  | none => exact .plain hop
  | some p =>
    obtain ⟨key, e | c⟩ := p
    · rw [start_of_change_error hop]
      refine .refused e hop ?_
      rw [Operation.kind_of_change? hop]
      decide
    · rw [start_of_change_ok hop]
      exact deed_startWrite h hop

theorem deed_resume (h : i.Tidy) (hw : i.Waits s op w) :
    i.Deed s op (some (w.key, w.change)) (i.resume w) := by
  obtain ⟨x, hop⟩ := hw.change
  have hs := hw.session
  unfold resume
  split
  · next t ht =>
    obtain ⟨hsingle, hn, hu⟩ := hw.single ht
    rw [hs]
    exact .alone hop (.refl i s) h.orderly hn hn hsingle hu
  · next t ht hc =>
    rw [hs] at hc ⊢
    exact .bound hop hc
  · exact .refused .noTransaction hop (by decide)

theorem deed_expire (hw : i.Waits s op w) :
    i.Deed s op c? (answered (i.expire w)) := by
  have hr : i.expire w = (.error (.lockTimeout (i.waiter w) w.key w.holder), i) := by
    refine Prod.ext ?_ hw.expire
    unfold expire
    cases w.single <;> rfl
  obtain ⟨x, hop⟩ := hw.change
  rw [hr]
  exact .refused _ hop fun h => by cases h

theorem Deed.orderly (h : i.Deed s op c? r) (hi : i.Tidy) : i.Orderly r.2 := by
  cases h with
  | plain => exact hi.start s op
  | refused => exact hi.orderly
  | bound _ hc => exact hi.writeBound hc _ _
  | alone _ _ hj _ hn ht hu => exact hj.trans (hj.tidy.writeSingle ht hn hu _ _)

theorem Deed.moved (h : i.Deed s op c? r) : i.Moved s op r.2 := by
  cases h with
  | plain => exact moved_start i s op
  | refused => exact (Quiet.refl i s).moved
  | bound => exact ((Quiet.refl i s).writeBound ..).moved
  | alone _ hq => exact hq.writeSingle ..

theorem Deed.waits (h : i.Deed s op c? r) (hr : r.1 = .waiting w) : r.2.Waits s op w := by
  cases h with
  | plain hop =>
    obtain ⟨a, ha⟩ := start_of_change_none (s := s) hop
    rw [ha] at hr
    cases hr
  | refused => cases hr
  | bound hop hc =>
    unfold writeBound at hr ⊢
    split at hr
    · cases hr
      exact ⟨rfl, ⟨_, hop⟩, fun ht => by cases ht⟩
    · cases hr
  | @alone x t j key c hop _ _ _ hn ht hu =>
    rcases writeSingle_cases ht j s key c with ⟨holder, hw⟩ | ⟨a, k, hw, -⟩
    · rw [hw] at hr ⊢
      cases hr
      refine ⟨rfl, ⟨x, hop⟩, fun he => ?_⟩
      cases he
      exact ⟨ht, hn, hu⟩
    · rw [hw] at hr
      cases hr

/-- A write that is given up at once leaves nothing behind. -/
theorem Tidy.step (h : i.Tidy) (s : Session) (op : Operation) : i.Orderly (i.step s op).2 := by
  have hd := deed_start h s op
  rw [step_eq]
  generalize i.start s op = r at hd
  obtain ⟨a | w, j⟩ := r
  · exact hd.orderly h
  · have hj : (j.expire w).2 = j := (hd.waits rfl).expire
    exact hj.symm ▸ hd.orderly h

/-- How a commit of some writes, or of none, changes the store. -/
inductive Publishes (i : SharedIndex) : List (Write Record) → VersionStore Record → Prop
  | kept : Publishes i [] i.store
  | applied {writes : List (Write Record)} : writes ≠ [] → (writes.map Prod.fst).Nodup →
      Publishes i writes (i.store.apply writes)
  | pruned : Publishes i [] (i.store.pruned (i.registry.oldestStart i.store.clock))
  | cleared : i.registry.activeCount = 0 → Publishes i [] i.store.clear

theorem StoreMove.dated {store : VersionStore Record} (h : i.StoreMove store)
    (hs : i.store.Sound) (hd : i.store.Dated) : store.Dated := by
  cases h with
  | kept => exact hd
  | applied writes hn => exact hd.apply hs hn
  | pruned => exact hd.pruned _
  | cleared => exact hd.clear

section Publishes

variable {writes later : List (Write Record)} {store : VersionStore Record} {v : Version Record}
  {time : Stamp}

theorem Publishes.move (h : i.Publishes writes store) : i.StoreMove store := by
  cases h with
  | kept => exact .kept
  | applied _ hn => exact .applied writes hn
  | pruned => exact .pruned
  | cleared h0 => exact .cleared h0

/-- A version is new only if it is part of the batch. -/
theorem Publishes.mem_versions (h : i.Publishes writes store) (hv : v ∈ store.versions key) :
    v.stamp = i.store.clock + 1 ∧ (key, v.value) ∈ writes ∨ v ∈ i.store.versions key := by
  cases h with
  | kept => exact .inr hv
  | applied _ hn => exact (VersionStore.mem_versions_apply hn).1 hv
  | pruned => exact .inr (VersionStore.versions_pruned_sublist.subset hv)
  | cleared => cases hv

/-- Whatever is published, the store still tells of all commits since a time at which a transaction
ran that runs still. -/
theorem Publishes.chronicle (h : i.Publishes writes store) (hd : i.store.Dated)
    (hc : i.registry.current? s = some t) (hs : t.start ≤ time) (hle : time ≤ i.store.clock)
    (hl : i.store.Chronicle time later) : store.Chronicle time (later ++ writes) := by
  cases h with
  | kept => exact (List.append_nil later).symm ▸ hl
  | applied _ hn => exact hl.apply hle hn
  | pruned =>
    have hold := Registry.oldestStart_le hc i.store.clock
    exact (List.append_nil later).symm ▸ hl.pruned hd (Nat.le_trans hold hs)
  | cleared h0 => exact absurd h0 (Nat.ne_of_gt (Registry.activeCount_pos hc))

theorem Publishes.clock_le (h : i.Publishes writes store) : i.store.clock ≤ store.clock := by
  cases h with
  | kept => exact Nat.le_refl _
  | applied =>
    rw [VersionStore.clock_apply]
    exact Nat.le_succ _
  | pruned => exact Nat.le_refl _
  | cleared => exact Nat.le_succ _

end Publishes

theorem batch_of_ne_commit (h : op ≠ .commit) (p : Progress) : i.batch none s op p = [] := by
  unfold batch
  split
  · split
    · exact absurd rfl h
    · next hc => cases hc
    · rfl
  · rfl

theorem publishes_commit (i : SharedIndex) (s : Session) :
    i.Publishes (i.batch none s .commit (.answered (i.commitSession s).1))
      (i.commitSession s).2.store := by
  cases hc : i.registry.current? s with
  | none =>
    rw [commitSession_of_none hc]
    exact .kept
  | some t =>
    by_cases hactive : t.state = .active
    case neg =>
      rw [commitSession_of_ended hc hactive]
      exact .kept
    rw [commitSession_of_some hc hactive]
    rcases commit_cases (i.left s) t with ⟨c, hcommit⟩ | ⟨hcommit, -⟩
    · rw [hcommit]
      exact .kept
    · have hb : i.batch none s .commit (.answered (.ok .done)) = i.order.entries i.store.clock t.writes := by
        unfold batch
        rw [hc]
      rw [hcommit, publish_eq]
      dsimp only [done, Except.map]
      rw [hb]
      cases hr : t.isReadOnly with
      | true =>
        have he : i.order.entries i.store.clock t.writes = [] := by
          refine List.eq_nil_iff_forall_not_mem.2 fun ⟨key, value⟩ hm => ?_
          have hn := Dict.isEmpty_iff.1 hr key
          rw [KeyOrder.mem_entries.1 hm] at hn
          cases hn
        rw [he]
        exact .kept
      | false =>
        refine .applied (fun he => ?_) KeyOrder.nodup_keys_entries
        obtain ⟨key, value, ho⟩ := Transaction.exists_write_of_not_readOnly hr
        have hm : (key, value) ∈ i.order.entries i.store.clock t.writes :=
          KeyOrder.mem_entries.2 ho
        rw [he] at hm
        cases hm

theorem publishes_start (hop : op.change? i.indexing = none) (s : Session) :
    i.Publishes (i.batch none s op (i.start s op).1) (i.start s op).2.store := by
  by_cases hc : op = .commit
  · subst hc
    exact publishes_commit i s
  · rw [batch_of_ne_commit hc]
    have kept : ∀ {store}, store = i.store → i.Publishes [] store := fun h => h ▸ .kept
    have settings : ∀ change, i.Publishes [] (i.changed (i.changeSettings change)).2.store := by
      intro change
      cases hr : i.changeSettings change with
      | error e => exact .kept
      | ok j =>
        obtain ⟨x, rfl⟩ := changeSettings_ok hr
        exact .kept
    cases op with
    | begin => exact kept (quiet_begin i s).store
    | commit => exact absurd rfl hc
    | rollback => exact kept (quiet_rollback i s).store
    | get key => exact kept (quiet_read i s fun i t => i.get t key).store
    | search query => exact kept (quiet_searchText i s query).store
    | clear =>
      change i.Publishes [] (i.changed i.clear).2.store
      unfold clear
      split
      · exact .kept
      · next h => exact .cleared (Nat.eq_zero_of_not_pos h)
    | cleanup => exact .pruned
    | setStopWords words => exact settings _
    | setSynonyms table => exact settings _
    | add => cases hop
    | update => cases hop
    | updateEntry => cases hop
    | remove => cases hop
    | _ => exact .kept

theorem ne_commit_of_change? {x : Indexing} {p : Key × Except Error Change}
    (h : op.change? x = some p) : op ≠ .commit := by
  rintro rfl
  cases h

/-- What is published in a move is the batch that it commits. -/
theorem Deed.publishes (h : i.Deed s op c? r) :
    i.Publishes (i.batch c? s op r.1) r.2.store := by
  cases h with
  | plain hop => exact publishes_start hop s
  | refused e => exact .kept
  | @bound x t key c hop hc =>
    have hb : ∀ p, i.batch (some (key, c)) s op p = [] := by
      intro p
      unfold batch
      rw [hc]
      split
      · split
        · exact absurd rfl (ne_commit_of_change? hop)
        · next hn _ => cases hn
        · rfl
      · rfl
    rw [hb, ((Quiet.refl i s).writeBound t key c).store]
    exact .kept
  | @alone x t j key c hop hq hj hn _ ht hu =>
    rcases writeSingle_cases ht j s key c with ⟨holder, hw⟩ | ⟨a, k, hw, ha⟩
    · rw [hw]
      dsimp only
      rw [hq.store]
      exact .kept
    · rw [hw]
      dsimp only
      rw [ha.answer, ha.store, hq.store]
      cases hc : c.onto key (i.store.latest? key) with
      | error e => exact .kept
      | ok value =>
        have hb : i.batch (some (key, c)) s op (.answered (.ok .done)) = [(key, value)] := by
          unfold batch
          rw [hn]
          dsimp only
          rw [hc]
        dsimp only [Except.map]
        rw [hb]
        exact .applied (List.cons_ne_nil _ _) (List.nodup_singleton _)

/-- Only a clear moves the clock without a batch. -/
theorem clock_start (hop : op.change? i.indexing = none) (hcommit : op ≠ .commit)
    (hclear : op ≠ .clear) (s : Session) : (i.start s op).2.store.clock = i.store.clock := by
  have settings : ∀ change,
      (i.changed (i.changeSettings change)).2.store.clock = i.store.clock := by
    intro change
    cases hr : i.changeSettings change with
    | error e => rfl
    | ok j =>
      obtain ⟨x, rfl⟩ := changeSettings_ok hr
      rfl
  cases op with
  | begin => exact congrArg _ (quiet_begin i s).store
  | commit => exact absurd rfl hcommit
  | rollback => exact congrArg _ (quiet_rollback i s).store
  | get key => exact congrArg _ (quiet_read i s fun i t => i.get t key).store
  | search query => exact congrArg _ (quiet_searchText i s query).store
  | clear => exact absurd rfl hclear
  | setStopWords words => exact settings _
  | setSynonyms table => exact settings _
  | add | update | updateEntry | remove => cases hop
  | _ => rfl

theorem Deed.clock_eq (h : i.Deed s op c? r) (hclear : op ≠ .clear)
    (hb : i.batch c? s op r.1 = []) : r.2.store.clock = i.store.clock := by
  cases h with
  | plain hop =>
    by_cases hcommit : op = .commit
    · subst hcommit
      have hp := publishes_commit i s
      change (i.commitSession s).2.store.clock = i.store.clock
      cases hc : i.registry.current? s with
      | none => rw [commitSession_of_none hc]
      | some t =>
        change i.batch none s .commit (.answered (i.commitSession s).1) = [] at hb
        generalize (i.commitSession s).2.store = store at hp ⊢
        generalize i.batch none s .commit (.answered (i.commitSession s).1) = writes at hp hb
        cases hp with
        | kept => rfl
        | applied hne => exact absurd hb hne
        | pruned => rfl
        | cleared h0 => exact absurd h0 (Nat.ne_of_gt (Registry.activeCount_pos hc))
    · exact clock_start hop hcommit hclear s
  | refused => rfl
  | bound _ hc => rw [((Quiet.refl i s).writeBound _ _ _).store]
  | @alone x t j key c hop hq hj hn _ ht hu =>
    rcases writeSingle_cases ht j s key c with ⟨holder, hw⟩ | ⟨a, k, hw, ha⟩
    · rw [hw, hq.store]
    · rw [hw] at hb ⊢
      dsimp only at hb ⊢
      rw [ha.store, hq.store]
      cases hc : c.onto key (i.store.latest? key) with
      | error e => rfl
      | ok value =>
        rw [ha.answer, hq.store, hc] at hb
        unfold batch at hb
        rw [hn] at hb
        simp [Except.map, hc] at hb

theorem dated_ofIndex (o : KeyOrder) (p : Index) : (ofIndex o p).store.Dated := by
  unfold ofIndex
  dsimp only
  split
  · exact VersionStore.dated_empty
  · refine VersionStore.dated_empty.apply VersionStore.sound_empty ?_
    rw [List.map_map]
    exact p.cards.nodup

end Deed

end SharedIndex

namespace Scene

/-- A scene in order: the versions are in place, and nothing is left of who has ended. -/
structure Tidy (x : Scene) : Prop where
  sound : x.index.store.Sound
  dated : x.index.store.Dated
  index : x.index.Tidy
  waits : ∀ {s op w}, x.waiting.get? s = some (op, w) → x.index.Waits s op w

section Moves

theorem take_of_none (h : x.turn? m = none) : x.take m = (none, x) := by
  unfold take
  rw [h]

theorem take_of_some (h : x.turn? m = some ((s, op), r)) : x.take m = x.settle s op r := by
  unfold take
  rw [h]

theorem batch_of_none (h : x.turn? m = none) : x.batch m = [] := by
  unfold batch
  rw [h]

theorem batch_of_some (h : x.turn? m = some ((s, op), r)) :
    x.batch m = x.index.batch (x.change? m) s op r.1 := by
  unfold batch
  rw [h]

theorem index_settle (x : Scene) (s : Session) (op : Operation) (r : Progress × SharedIndex) :
    (x.settle s op r).2.index = r.2 := by
  obtain ⟨a | w, i⟩ := r <;> rfl

theorem Tidy.deed (h : x.Tidy) (ht : x.turn? m = some ((s, op), r)) :
    x.index.Deed s op (x.change? m) r := by
  cases m with
  | start s' op' =>
    unfold turn? at ht
    dsimp only at ht
    split at ht
    · cases ht
    · cases ht
      exact SharedIndex.deed_start h.index s op
  | retry s' =>
    unfold turn? at ht
    obtain ⟨⟨op', w⟩, hw, he⟩ := Option.map_eq_some_iff.1 ht
    cases he
    simp only [change?, hw, Option.map_some]
    exact SharedIndex.deed_resume h.index (h.waits hw)
  | giveUp s' =>
    unfold turn? at ht
    obtain ⟨⟨op', w⟩, hw, he⟩ := Option.map_eq_some_iff.1 ht
    cases he
    exact SharedIndex.deed_expire (h.waits hw)

/-- Only who does not wait can start an operation that is not a write. -/
theorem Tidy.start_or_write (h : x.Tidy) (ht : x.turn? m = some ((s, op), r)) :
    m = .start s op ∨ ∃ y p, op.change? y = some p := by
  have waits : ∀ {w}, x.waiting.get? s = some (op, w) → ∃ y p, op.change? y = some p := by
    intro w hw
    obtain ⟨y, hop⟩ := (h.waits hw).change
    exact ⟨y, _, hop⟩
  unfold turn? at ht
  cases m with
  | start s' op' =>
    dsimp only at ht
    split at ht
    · cases ht
    · cases ht
      exact .inl rfl
  | retry s' =>
    obtain ⟨⟨op', w⟩, hw, he⟩ := Option.map_eq_some_iff.1 ht
    cases he
    exact .inr (waits hw)
  | giveUp s' =>
    obtain ⟨⟨op', w⟩, hw, he⟩ := Option.map_eq_some_iff.1 ht
    cases he
    exact .inr (waits hw)

theorem Tidy.isEnd_of_ends (h : x.Tidy) (ht : x.turn? m = some ((s, op), r))
    (hm : m.ends s = false) : op.isEnd = false := by
  rcases h.start_or_write ht with rfl | ⟨y, p, hop⟩
  · simpa [Move.ends] using hm
  · cases op <;> first | rfl | cases hop

theorem event_settle (x : Scene) (s : Session) (op : Operation) (r : Progress × SharedIndex) :
    (x.settle s op r).1 =
      match r.1 with
      | .answered a => some ⟨s, op, a⟩
      | .waiting _ => none := by
  obtain ⟨a | w, i⟩ := r <;> rfl

/-- A move is a deed of the index, or nothing comes of it. -/
theorem Tidy.take_cases (h : x.Tidy) (m : Move) :
    (x.turn? m = none ∧ x.take m = (none, x) ∧ x.batch m = []) ∨
      ∃ s op r, (m.ends s = false → op.isEnd = false) ∧ x.index.Deed s op (x.change? m) r ∧
        x.take m = x.settle s op r ∧ x.batch m = x.index.batch (x.change? m) s op r.1 := by
  cases ht : x.turn? m with
  | none => exact .inl ⟨rfl, take_of_none ht, batch_of_none ht⟩
  | some p =>
    obtain ⟨⟨s, op⟩, r⟩ := p
    exact .inr ⟨s, op, r, h.isEnd_of_ends ht, h.deed ht, take_of_some ht, batch_of_some ht⟩

theorem waits_settle (x : Scene) (s : Session) (op : Operation) (r : Progress × SharedIndex)
    {s' : Session} {op' : Operation} {w : Waiting}
    (h : (x.settle s op r).2.waiting.get? s' = some (op', w)) :
    (s' = s ∧ op' = op ∧ r.1 = .waiting w) ∨ (s' ≠ s ∧ x.waiting.get? s' = some (op', w)) := by
  obtain ⟨a | v, i⟩ := r
  · have he : (x.waiting.erase s).get? s' = some (op', w) := h
    rw [Dict.get?_erase] at he
    split at he
    · cases he
    · next hs => exact .inr ⟨fun e => hs e.symm, he⟩
  · have he : (x.waiting.insert s (op, v)).get? s' = some (op', w) := h
    rw [Dict.get?_insert] at he
    split at he
    · next hs =>
      cases he
      exact .inl ⟨hs.symm, rfl, rfl⟩
    · next hs => exact .inr ⟨fun e => hs e.symm, he⟩

/-- A move changes the store by the batch that it commits. -/
theorem Tidy.publishes (h : x.Tidy) (m : Move) :
    x.index.Publishes (x.batch m) (x.take m).2.index.store := by
  rcases h.take_cases m with ⟨-, ht, hb⟩ | ⟨s, op, r, -, hd, ht, hb⟩
  · rw [ht, hb]
    exact .kept
  · rw [ht, hb, index_settle]
    exact hd.publishes

theorem Tidy.take (h : x.Tidy) (m : Move) : (x.take m).2.Tidy := by
  have hp := h.publishes m
  refine ⟨hp.move.sound h.sound, hp.move.dated h.sound h.dated, ?_, ?_⟩
  all_goals rcases h.take_cases m with ⟨-, ht, -⟩ | ⟨s, op, r, -, hd, ht, -⟩ <;> rw [ht]
  · exact h.index
  · rw [index_settle]
    exact (hd.orderly h.index).tidy
  · exact h.waits
  · intro s' op' w hw
    rw [index_settle]
    rcases waits_settle x s op r hw with ⟨rfl, rfl, hr⟩ | ⟨hs, hw'⟩
    · exact hd.waits hr
    · exact (h.waits hw').moved (hd.orderly h.index) (hd.moved.others s' hs)

theorem after_append (x : Scene) (past rest : List Move) :
    x.after (past ++ rest) = (x.after past).after rest :=
  List.foldl_append

theorem Tidy.after (h : x.Tidy) (moves : List Move) : (x.after moves).Tidy := by
  induction moves generalizing x with
  | nil => exact h
  | cons m rest ih => exact ih (h.take m)

theorem tidy_opening (o : KeyOrder) (p : Index) (mode : Isolation) : (opening o p mode).Tidy := by
  refine ⟨SharedIndex.sound_ofIndex o p, SharedIndex.dated_ofIndex o p, ?_, fun hw => by cases hw⟩
  obtain ⟨store, hp⟩ := SharedIndex.ofIndex_cases o p
  unfold opening
  rw [hp]
  exact ⟨fun hc => (by cases hc), holdings_empty⟩

end Moves

end Scene

end Cardfile
