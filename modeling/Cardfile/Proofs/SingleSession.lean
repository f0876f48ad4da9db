import Cardfile.Proofs.DirtyReads
import Cardfile.Proofs.Serializability
import Cardfile.Proofs.Undo

/-! # A single session

A session that has a shared index to itself cannot tell it from an index that nobody shares, on
which the begin of a transaction keeps a copy and a rollback puts the copy back.
-/

namespace Cardfile

variable {i j : SharedIndex} {s s' : Session} {t u : Transaction Record} {key : Key} {c : Change}
  {op : Operation} {q : Undo} {store : VersionStore Record}

/-- Nothing was committed since a transaction began or since it pinned a value. -/
structure Transaction.Settled (t : Transaction Record) (store : VersionStore Record) : Prop where
  start : t.start = store.clock
  pins : ∀ {key pin}, t.pins.get? key = some pin →
    pin.value = store.latest? key ∧ store.lastCommit key ≤ pin.stamp

namespace SharedIndex

section Settled

theorem settled_begun (id : TxId) (level : Isolation) (store : VersionStore Record) :
    Transaction.Settled (.begun id level store.clock) store :=
  ⟨rfl, fun hp => by cases hp⟩

theorem settled_pruned (h : t.Settled store) (time : Stamp) : t.Settled (store.pruned time) := by
  refine ⟨h.start, fun {key pin} hp => ?_⟩
  rw [VersionStore.latest?_pruned]
  exact ⟨(h.pins hp).1, Nat.le_trans (store.lastCommit_pruned_le time key) (h.pins hp).2⟩

theorem settled_of_pinnedFrom (h : t.Settled i.store) (hs : u.start = t.start)
    (hp : i.PinnedFrom t u) : u.Settled i.store := by
  refine ⟨hs.trans h.start, fun hpin => ?_⟩
  rcases hp hpin with hold | rfl
  · exact h.pins hold
  · exact ⟨rfl, Nat.le_refl _⟩

/-- A settled transaction sees the last commit with its own writes, at every level. -/
theorem seen_of_settled (h : t.Settled i.store) (hs : i.store.Sound)
    (hd : ∀ key, i.dirty? t key = none) : i.seen t = t.overlaid i.store.latest? := by
  funext key
  rw [seen_eq, get?_overrides, hd, ite_self, Option.or_none]
  unfold Transaction.overlaid
  cases t.ownWrite? key with
  | some own => rfl
  | none =>
    rw [Option.none_or]
    cases hpin : pinned? t key with
    | some value =>
      unfold pinned? at hpin
      split at hpin
      · obtain ⟨pin, hp, rfl⟩ := Option.map_eq_some_iff.1 hpin
        exact (h.pins hp).1
      · cases hpin
    | none =>
      unfold stored
      split
      · exact VersionStore.at?_eq_latest? (h.start ▸ hs.lastCommit_le)
      · rfl

/-- A settled transaction builds on the last commit with its own writes. -/
theorem base_of_settled (h : t.Settled i.store) (hs : i.store.Sound) (key : Key) :
    i.base t key = .ok (t.overlaid i.store.latest? key) := by
  unfold base Transaction.overlaid
  cases t.ownWrite? key with
  | some own => rfl
  | none =>
    cases hl : t.level with
    | serializable =>
      exact congrArg Except.ok (VersionStore.at?_eq_latest? (h.start ▸ hs.lastCommit_le))
    | repeatableRead =>
      cases hp : t.pins.get? key with
      | none => rfl
      | some pin =>
        obtain ⟨hval, hle⟩ := h.pins hp
        dsimp only
        rw [if_neg (Nat.not_lt_of_le hle), hval]
        rfl
    | _ => rfl

/-- Nothing clashes with a settled transaction. -/
theorem clash?_of_settled (h : t.Settled i.store) (hs : i.store.Sound) (hd : i.store.Dated) :
    i.clash? t = none := by
  have hkeys : ∀ key, i.isChanged t key = false := by
    intro key
    refine decide_eq_false (Nat.not_lt_of_le ?_)
    exact h.start ▸ hs.lastCommit_le
  have hslots : (i.store.committedAfter t.start).toList = [] := by
    refine List.eq_nil_iff_forall_not_mem.2 fun slot hm => ?_
    obtain ⟨e, he, hlt, -⟩ := VersionStore.mem_committedAfter.1 hm
    exact Nat.not_lt_of_le (hd.log_le e he) (h.start ▸ hlt)
  have hfind : (i.checkedKeys t).find? (i.isChanged t) = none :=
    List.find?_eq_none.2 fun key _ => by simp [hkeys key]
  unfold clash?
  rw [hfind, hslots]
  dsimp only
  split <;> rfl

end Settled

section Alone

/-- The session alone has a transaction. -/
def OnlyOne (i : SharedIndex) (s : Session) : Prop :=
  ∀ s', s' ≠ s → i.registry.current? s' = none

theorem OnlyOne.dirty?_eq_none (h : i.OnlyOne s) (ht : i.Tidy) (key : Key) :
    i.dirty? (i.acting s) key = none := by
  cases hd : i.dirty? (i.acting s) key with
  | none => rfl
  | some value =>
    obtain ⟨s', u, hc, hne, -⟩ := ht.staged_of_dirty? hd
    by_cases hs : s' = s
    · subst hs
      exact absurd (congrArg Transaction.id (acting_of_some hc).symm) hne
    · rw [h s' hs] at hc
      cases hc

theorem OnlyOne.holder (h : i.OnlyOne s) (ht : i.Tidy) {id : TxId}
    (hh : i.locks.holder? key = some id) : ∃ t, i.registry.current? s = some t ∧ t.id = id := by
  obtain ⟨s', t, hc, hid, -⟩ := (ht.holdings.holder_iff key id).1 hh
  by_cases hs : s' = s
  · exact ⟨t, hs ▸ hc, hid⟩
  · rw [h s' hs] at hc
    cases hc

/-- A write in a settled transaction does what the change says to the last commit with the own
writes. -/
theorem writeLocked_of_settled (h : t.Settled i.store) (hs : i.store.Sound) (key : Key)
    (c : Change) : ∃ u j, i.Alike j ∧ u.Settled i.store ∧
      i.writeLocked t key c =
        ((c.onto key (t.overlaid i.store.latest? key)).map fun _ => (), u, j) ∧
      ∀ v, u.overlaid v =
        match c.onto key (t.overlaid i.store.latest? key) with
        | .ok value => Function.update (t.overlaid v) key value
        | .error _ => t.overlaid v := by
  have hnote := reads_noted i t key c
  have hpins : (i.noted t key c).pins = t.pins := by
    rcases noted_cases i t key c with he | he <;> rw [he]
  have hnoted : (i.noted t key c).Settled i.store :=
    settled_of_pinnedFrom h hnote.start (pinnedFrom_of_eq hpins)
  have hover : ∀ v, (i.noted t key c).overlaid v = t.overlaid v :=
    Transaction.overlaid_congr fun key => congrArg (Dict.get? · key) hnote.writes
  rw [writeLocked_of_base (base_of_settled h hs key) fun _ => h.start ▸ hs.lastCommit_le]
  cases c.onto key (t.overlaid i.store.latest? key) with
  | error e => exact ⟨_, i, .refl i, hnoted, rfl, hover⟩
  | ok value =>
    have hwritten : ((i.noted t key c).write key value).Settled i.store :=
      ⟨hnoted.start, hnoted.pins⟩
    refine ⟨_, _, alike_stage i _ key value, hwritten, rfl, fun v => ?_⟩
    rw [← hover v]
    exact Transaction.overlaid_write v

/-- In a transaction of a session that is alone, a write does what the change says. -/
theorem OnlyOne.tried_bound (h : i.OnlyOne s) (ht : i.Tidy) (hs : i.store.Sound)
    (hc : i.registry.current? s = some t) (hset : t.Settled i.store) (key : Key) (c : Change) :
    ∃ u j, i.Alike j ∧ u.Settled i.store ∧
      i.tried s key c = ((c.onto key (t.overlaid i.store.latest? key)).map fun _ => .done,
        j.bind s u) ∧
      ∀ v, u.overlaid v =
        match c.onto key (t.overlaid i.store.latest? key) with
        | .ok value => Function.update (t.overlaid v) key value
        | .error _ => t.overlaid v := by
  have hlock : ∃ r, i.lock t key = .ok r := by
    refine lock_of_holder fun id hh => ?_
    obtain ⟨t', hc', rfl⟩ := h.holder ht hh
    cases hc.symm.trans hc'
    rfl
  obtain ⟨keys, j, hj, hw⟩ := write_of_lock hlock c
  have hset' : Transaction.Settled { t with locked := keys } j.store :=
    ⟨hj.store ▸ hset.start, hj.store ▸ hset.pins⟩
  obtain ⟨u, k, hk, hu, hwrite, hover⟩ := writeLocked_of_settled hset' (hj.store ▸ hs) key c
  have hsame : ∀ v, Transaction.overlaid { t with locked := keys } v = t.overlaid v := fun _ => rfl
  rw [hj.store] at hu hwrite hover
  rw [hsame] at hwrite
  have hbound : i.writeBound t s key c =
      (.answered ((c.onto key (t.overlaid i.store.latest? key)).map fun _ => .done), k.bind s u) := by
    unfold writeBound
    rw [hw, hwrite]
    cases c.onto key (t.overlaid i.store.latest? key) <;> rfl
  have htried : i.tried s key c = ended (i.writeBound t s key c) := by
    unfold tried startWrite
    rw [hc]
  exact ⟨u, k, hj.trans hk, hu, htried.trans (congrArg ended hbound), hover⟩

/-- Outside transactions, a write of a session that is alone does what the change says. -/
theorem OnlyOne.tried_single (h : i.OnlyOne s) (ht : i.Tidy)
    (hn : i.registry.current? s = none) (key : Key) (c : Change) :
    ∃ a j, i.tried s key c = (a, j) ∧ i.single.2.Alone key c a j := by
  have hlock : ∃ r, i.single.2.lock i.single.1 key = .ok r := by
    refine lock_of_holder fun id hh => ?_
    obtain ⟨t, hc, -⟩ := h.holder ht hh
    rw [hn] at hc
    cases hc
  obtain ⟨keys, j, hj, hw⟩ := write_of_lock hlock c
  have htried : i.tried s key c = ended (i.single.2.writeSingle i.single.1 s key c) := by
    unfold tried startWrite
    rw [hn]
  rw [writeSingle_eq, hw] at htried
  exact ⟨_, _, htried, alone_finished (isSingle_single i) hj keys key c⟩

end Alone

section Size

/-- A shared index is as large as an index with the same cards. -/
theorem size_eq {p : Index} (h : i.store.latest? = p.view) : i.size = p.size := by
  have hsize : p.cards.keys.length = p.size := List.length_map ..
  refine (VersionStore.liveCount_eq_length p.cards.nodup_keys fun key => ?_).trans hsize
  rw [Dict.mem_keys_iff, h]
  simp only [Index.view, Option.map_eq_some_iff]
  constructor
  · rintro ⟨placed, hp⟩
    exact ⟨placed.card, placed, hp, rfl⟩
  · rintro ⟨_, placed, hp, -⟩
    exact ⟨placed, hp⟩

end Size

section Mirrors

/-- The session is outside transactions, or in one, and nothing has been committed since that
began. -/
inductive Phase (i : SharedIndex) (s : Session) (q : Undo) : Prop
  | outside : i.registry.current? s = none → q.saved = none →
      i.store.latest? = q.index.view → Phase i s q
  | inside (t : Transaction Record) (p : Index) : i.registry.current? s = some t →
      t.Settled i.store → q.saved = some p → i.store.latest? = p.view →
      t.overlaid i.store.latest? = q.index.view → Phase i s q

/-- A shared index that one session has to itself, and an index with undo that shows the same. -/
structure Mirrors (i : SharedIndex) (s : Session) (q : Undo) : Prop where
  tidy : i.Tidy
  sound : i.store.Sound
  dated : i.store.Dated
  only : i.OnlyOne s
  undo : q.Sound i.indexing
  phase : i.Phase s q

/-- What a step leads to, compared with what an index with undo does. -/
structure Echoes (r : Answer × SharedIndex) (s : Session) (b : Answer × Undo) : Prop where
  answer : r.1.Resembles b.1
  phase : r.2.Phase s b.2

theorem overlaid_begun (id : TxId) (level : Isolation) (start : Stamp) (v : View) :
    (Transaction.begun id level start).overlaid v = v :=
  overlaid_of_isReadOnly rfl v

theorem Phase.acting (h : i.Phase s q) : (i.acting s).Settled i.store ∧
    (i.acting s).overlaid i.store.latest? = q.index.view := by
  cases h with
  | outside hn _ hv =>
    rw [acting_of_none hn]
    exact ⟨settled_begun .., (overlaid_begun ..).trans hv⟩
  | inside t p hc ht _ _ hv =>
    rw [acting_of_some hc]
    exact ⟨ht, hv⟩

theorem Mirrors.seen_eq (h : i.Mirrors s q) : i.seen (i.acting s) = q.index.view := by
  obtain ⟨hset, hview⟩ := h.phase.acting
  exact (seen_of_settled hset h.sound (h.only.dirty?_eq_none h.tidy)).trans hview

theorem Phase.congr {p : Index} (h : i.Phase s q) (hv : p.view = q.index.view) :
    i.Phase s { q with index := p } := by
  cases h with
  | outside hn hs hl => exact .outside hn hs (hl.trans hv.symm)
  | inside t p' hc ht hs hp hl => exact .inside t p' hc ht hs hp (hl.trans hv.symm)

section Read

theorem Phase.read {α : Type} (h : i.Phase s q)
    (look : SharedIndex → Transaction Record → α × Transaction Record)
    (hr : ∀ t, Transaction.Reads t (look i t).2) (hp : ∀ t, i.PinnedFrom t (look i t).2) :
    (i.read s look).2.Phase s q := by
  cases h with
  | outside hn hs hv =>
    rw [read_single hn]
    exact .outside hn hs hv
  | inside t p hc ht hs hl hv =>
    rw [read_bound hc]
    have hover := Transaction.overlaid_congr fun key => congrArg (Dict.get? · key) (hr t).writes
    exact .inside _ p (current?_bind_self ..) (settled_of_pinnedFrom ht (hr t).start (hp t)) hs hl
      ((hover _).trans hv)

theorem Mirrors.get (h : i.Mirrors s q) (level : Isolation) (key : Key) :
    Echoes (i.step s (.get key)) s (q.act level (.get key)) := by
  have hd := Index.does_perform h.undo.index (.get key)
  have hans : (q.index.perform (.get key)).1 = _ := hd.answers
  constructor
  · rw [step_get, h.seen_eq, Undo.act_of_isData rfl, hans]
    rfl
  · exact h.phase.read (fun i t => i.get t key) (fun t => reads_remember i t key)
      fun t => pinnedFrom_remember i t key

theorem Mirrors.search (h : i.Mirrors s q) (level : Isolation) (text : String) :
    Echoes (i.step s (.search text)) s (q.act level (.search text)) := by
  obtain ⟨hits, hans, hin, hdesc⟩ := step_search_ok h.sound s text
  rw [h.seen_eq] at hin
  have hfound := Index.hitsIn_search h.undo.index text
  rw [h.undo.indexing] at hfound
  constructor
  · rw [hans]
    exact hin.resemble hfound hdesc (Hit.pairwise_ranked _)
  · rw [step_search]
    split
    · exact h.phase
    · exact h.phase.read _ (fun t => reads_search i t _) fun t => pinnedFrom_search i t _

end Read

section Write

theorem resembles_done {r : Except Error Staged} :
    Answer.Resembles (r.map fun _ => .done) (r.map fun _ => .done) := by
  cases r <;> rfl

/-- A write whose change can be made. -/
theorem Mirrors.tried (h : i.Mirrors s q) (key : Key) (c : Change) {p : Index}
    (hp : p.view =
      match c.onto key (q.index.view key) with
      | .ok value => Function.update q.index.view key value
      | .error _ => q.index.view) :
    Echoes (i.tried s key c) s
      ((c.onto key (q.index.view key)).map fun _ => .done, { q with index := p }) := by
  cases h.phase with
  | outside hn hs hv =>
    obtain ⟨a, j, ht, ha⟩ := h.only.tried_single h.tidy hn key c
    have hold : i.single.2.store.latest? = q.index.view := hv
    have hans := ha.answer
    have hstore := ha.store
    rw [hold] at hans hstore
    rw [ht, hans]
    refine ⟨resembles_done, .outside (ha.registry ▸ hn) hs ?_⟩
    rw [hp, hstore]
    cases c.onto key (q.index.view key) with
    | error e => exact hold
    | ok value => exact (VersionStore.latest?_apply_single ..).trans (hold ▸ rfl)
  | inside t p' hc ht hs hl hv =>
    obtain ⟨u, j, hj, hu, htried, hover⟩ := h.only.tried_bound h.tidy h.sound hc ht key c
    rw [hv] at htried
    rw [htried]
    refine ⟨resembles_done, .inside u p' (current?_bind_self ..) (hj.store.symm ▸ hu) hs
      (hj.store.symm ▸ hl) ?_⟩
    have hstore : (j.bind s u).store = i.store := hj.store
    rw [hstore, hover, hv, hp]

theorem Mirrors.write (h : i.Mirrors s q) (level : Isolation) (hd : op.isData = true)
    {r : Except Error Change} (hop : op.change? i.indexing = some (key, r)) :
    Echoes (i.step s op) s (q.act level op) := by
  have hdoes := Index.does_perform h.undo.index op
  have hans := hdoes.answers
  have hview := hdoes.view
  rw [h.undo.indexing] at hans hview
  rw [View.answers_change hop] at hans
  rw [View.after_change hop] at hview
  rw [Undo.act_of_isData hd, hans]
  cases r with
  | error e =>
    rw [step_of_change_error hop]
    exact ⟨rfl, h.phase.congr hview⟩
  | ok c =>
    rw [step_of_change_ok hop]
    exact h.tried key c hview

end Write

section Transactions

theorem Mirrors.begin (h : i.Mirrors s q) :
    Echoes (i.step s .begin) s (q.act i.mode .begin) := by
  by_cases hm : i.mode = .none
  · have hstep : i.step s .begin = (.error .ungrouped, i) := if_pos hm
    have hact : q.act i.mode .begin = (.error .ungrouped, q) := if_pos hm
    rw [hstep, hact]
    exact ⟨rfl, h.phase⟩
  · cases h.phase with
    | outside hn hs hv =>
      have hact : q.act i.mode .begin = (.ok .done, { q with saved := some q.index }) := by
        unfold Undo.act
        dsimp only
        rw [if_neg hm, hs]
      rw [step_begin hm hn, hact]
      exact ⟨True.intro, .inside i.opened q.index (Registry.current?_bind.trans (if_pos rfl))
        (settled_begun ..) rfl hv ((overlaid_begun ..).trans hv)⟩
    | inside t p hc ht hs hl hv =>
      have hstep : i.step s .begin = (.error .alreadyActive, i) := by
        change i.begin s = _
        unfold SharedIndex.begin Registry.begin
        rw [if_neg hm, hc]
      have hact : q.act i.mode .begin = (.error .alreadyActive, q) := by
        unfold Undo.act
        dsimp only
        rw [if_neg hm, hs]
      rw [hstep, hact]
      exact ⟨rfl, h.phase⟩

theorem Mirrors.commit (h : i.Mirrors s q) (level : Isolation) :
    Echoes (i.step s .commit) s (q.act level .commit) := by
  have hstep : i.step s .commit = i.commitSession s := rfl
  rw [hstep]
  unfold Undo.act
  cases h.phase with
  | outside hn hs hv =>
    rw [commitSession_of_none hn]
    dsimp only
    rw [hs]
    exact ⟨rfl, h.phase⟩
  | inside t p hc ht hs hl hv =>
    have hclash : (i.left s).clash? t = none := clash?_of_settled ht h.sound h.dated
    have hcommit : (i.left s).commit t = (.ok (), ((i.left s).publish t).close t) := by
      unfold SharedIndex.commit
      rw [hclash, ite_self]
    rw [commitSession_of_some hc (h.tidy.holdings.active hc), hcommit]
    dsimp only
    rw [hs]
    refine ⟨rfl, .outside ?_ rfl ?_⟩
    · rw [publish_eq]
      exact current?_left i s
    · exact (latest?_publish (i.left s) t).trans hv

theorem Mirrors.rollback (h : i.Mirrors s q) (level : Isolation) :
    Echoes (i.step s .rollback) s (q.act level .rollback) := by
  have hstep : i.step s .rollback = i.rollback s := rfl
  rw [hstep]
  unfold Undo.act
  cases h.phase with
  | outside hn hs hv =>
    rw [rollback_of_none hn]
    dsimp only
    rw [hs]
    exact ⟨rfl, h.phase⟩
  | inside t p hc ht hs hl hv =>
    rw [rollback_of_some hc (h.tidy.holdings.active hc)]
    dsimp only
    rw [hs]
    exact ⟨rfl, .outside (current?_left i s) rfl hl⟩

theorem Mirrors.cleanup (h : i.Mirrors s q) (level : Isolation) :
    Echoes (i.step s .cleanup) s (q.act level .cleanup) := by
  have hlatest : ∀ time, (i.store.pruned time).latest? = i.store.latest? := fun time =>
    funext fun key => VersionStore.latest?_pruned
  refine ⟨True.intro, ?_⟩
  cases h.phase with
  | outside hn hs hv => exact .outside hn hs ((hlatest _).trans hv)
  | inside t p hc ht hs hl hv =>
    refine .inside t p hc (settled_pruned ht _) hs ((hlatest _).trans hl) ?_
    exact (congrArg t.overlaid (hlatest _)).trans hv

end Transactions

/-- A step of a session that is alone is answered as by an index with undo. -/
theorem Mirrors.echoes (h : i.Mirrors s q) (hop : op.isOrdinary = true) :
    Echoes (i.step s op) s (q.act i.mode op) := by
  cases op with
  | begin => exact h.begin
  | commit => exact h.commit _
  | rollback => exact h.rollback _
  | cleanup => exact h.cleanup _
  | get key => exact h.get _ key
  | search text => exact h.search _ text
  | add | update | updateEntry | remove => exact h.write _ rfl rfl
  | _ => cases hop

theorem Mirrors.step (h : i.Mirrors s q) (hop : op.isOrdinary = true) :
    (i.step s op).2.Mirrors s (q.act i.mode op).2 := by
  have hm := moved_step i s op
  have hx := hm.indexing (Operation.isTuning_of_isOrdinary hop)
  exact ⟨(h.tidy.step s op).tidy, hm.store.sound h.sound, hm.store.dated h.sound h.dated,
    fun s' hs => (hm.others s' hs).trans (h.only s' hs), hx.symm ▸ (h.undo.act i.mode op).1,
    (h.echoes hop).phase⟩

end Mirrors

section Run

variable {ops : List Operation}

theorem Mirrors.run (h : i.Mirrors s q) (hord : ∀ op ∈ ops, op.isOrdinary = true) :
    List.Forall₂ Answer.Resembles (i.run (ops.map (s, ·))).1 (q.actAll i.mode ops).1 ∧
      (∀ a ∈ (i.run (ops.map (s, ·))).1, a.isConflict = false) ∧
      (i.run (ops.map (s, ·))).2.Mirrors s (q.actAll i.mode ops).2 := by
  induction ops generalizing i q with
  | nil => exact ⟨.nil, fun a ha => (by cases ha), h⟩
  | cons op rest ih =>
    obtain ⟨hop, hrest⟩ := List.forall_mem_cons.1 hord
    have hans := (h.echoes hop).answer
    have hconf := hans.isConflict (h.undo.act i.mode op).2
    have hmode : (i.step s op).2.mode = i.mode :=
      (moved_step i s op).mode fun level hl => by rw [hl] at hop; cases hop
    have hnext := ih (h.step hop) hrest
    rw [hmode] at hnext
    obtain ⟨hrun, hconfs, hlast⟩ := hnext
    exact ⟨.cons hans hrun, List.forall_mem_cons.2 ⟨hconf, hconfs⟩, hlast⟩

theorem mirrors_ofIndex {p : Index} (hp : p.Sound) (o : KeyOrder) (level : Isolation)
    (s : Session) : Mirrors { ofIndex o p with mode := level } s ⟨p, none⟩ := by
  have hopening := Scene.tidy_opening o p level
  have hnone : ∀ s', (ofIndex o p).registry.current? s' = none := by
    intro s'
    rw [registry_ofIndex]
    rfl
  exact ⟨hopening.index, hopening.sound, hopening.dated, fun s' _ => hnone s',
    ⟨hp, (indexing_ofIndex o p).symm, fun he => by cases he⟩, .outside (hnone s) rfl (latest?_ofIndex o p)⟩

/-- A session that has a shared index to itself is answered as by an index that nobody shares, with
the copy that a rollback puts back, and nothing that it does is a conflict. -/
theorem run_alone {p : Index} (hp : p.Reachable) (o : KeyOrder) (level : Isolation) (s : Session)
    (hord : ∀ op ∈ ops, op.isOrdinary = true) :
    let r := SharedIndex.run { ofIndex o p with mode := level } (ops.map (s, ·))
    let q := Undo.actAll level ⟨p, none⟩ ops
    List.Forall₂ Answer.Resembles r.1 q.1 ∧ (∀ a ∈ r.1, a.isConflict = false) ∧
      (r.2.registry.current? s = none ↔ q.2.saved = none) ∧
      (r.2.registry.current? s = none → r.2.size = q.2.index.size) := by
  obtain ⟨hrun, hconf, hlast⟩ := (mirrors_ofIndex hp.sound o level s).run hord
  refine ⟨hrun, hconf, ?_⟩
  cases hlast.phase with
  | outside hn hs hv => exact ⟨iff_of_true hn hs, fun _ => size_eq hv⟩
  | inside t p' hc _ hs =>
    have hbusy := Option.ne_none_iff_exists'.2 ⟨t, hc⟩
    exact ⟨iff_of_false hbusy (by simp [hs]), fun hn => absurd hn hbusy⟩

theorem run_alone_of_rollback :
    let note : Record := ⟨"note", [], .empty⟩
    let p := Index.ofIndexing (Indexing.usual.register "note" ⟨[], none⟩)
    let ops : List Operation := [.add "k" note note, .begin, .begin, .remove "k", .remove "l",
      .add "l" note note, .search "lean", .cleanup, .rollback, .updateEntry "k" note, .commit]
    let r := SharedIndex.run { ofIndex .given p with mode := .repeatableRead } (ops.map ("a", ·))
    let q := Undo.actAll .repeatableRead ⟨p, none⟩ ops
    p.Reachable ∧ (∀ op ∈ ops, op.isOrdinary = true) ∧
      List.Forall₂ Answer.Resembles r.1 q.1 ∧ (∀ a ∈ r.1, a.isConflict = false) ∧
      (r.2.registry.current? "a" = none ↔ q.2.saved = none) ∧
      (r.2.registry.current? "a" = none → r.2.size = q.2.index.size) := by
  refine ⟨.fresh _, by decide, ?_⟩
  exact run_alone (.fresh _) .given .repeatableRead "a" (by decide)

end Run

end SharedIndex

end Cardfile
