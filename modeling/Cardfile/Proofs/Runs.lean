import Cardfile.Proofs.Reading
import Cardfile.Proofs.Steps

/-! # Runs

The states that an index can come to, what the sessions are answered on the way, and what a
transaction that runs can rely on while others take their steps.
-/

namespace Cardfile

namespace SharedIndex

variable {i j : SharedIndex} {s s' : Session} {op : Operation} {t u : Transaction Record}
  {key : Key} {v : View} {steps : List (Session × Operation)}

/-- The states that an index can come to, those in the middle of a step that waits among them. -/
inductive Reachable : SharedIndex → Prop
  | fresh (o : KeyOrder) (x : Indexing) (mode : Isolation) : Reachable (ofIndexing o x mode)
  | shared (o : KeyOrder) (p : Index) : Reachable (ofIndex o p)
  | started {i : SharedIndex} : Reachable i → ∀ s op, Reachable (i.start s op).2
  | resumed {i : SharedIndex} : Reachable i → ∀ w, Reachable (i.resume w).2
  | expired {i : SharedIndex} : Reachable i → ∀ w, Reachable (i.expire w).2

section Reachable

theorem Reachable.step (h : i.Reachable) (s : Session) (op : Operation) :
    (i.step s op).2.Reachable := by
  have hs := h.started s op
  unfold SharedIndex.step
  generalize i.start s op = r at hs
  obtain ⟨a | w, j⟩ := r
  · exact hs
  · exact hs.expired w

theorem StoreMove.sound {store : VersionStore Record} (h : StoreMove i store)
    (hs : i.store.Sound) : store.Sound := by
  cases h with
  | kept => exact hs
  | applied writes => exact hs.apply writes
  | pruned => exact hs.pruned _
  | cleared => exact hs.clear

/-- An index that is shared has nothing but its store. -/
theorem ofIndex_cases (o : KeyOrder) (p : Index) :
    ∃ store, ofIndex o p = { ofIndexing o p.indexing .readCommitted with store := store } := by
  unfold ofIndex
  dsimp only
  split
  · exact ⟨_, rfl⟩
  · exact ⟨_, rfl⟩

theorem registry_ofIndex (o : KeyOrder) (p : Index) : (ofIndex o p).registry = .empty := by
  obtain ⟨store, h⟩ := ofIndex_cases o p
  rw [h]
  rfl

theorem indexing_ofIndex (o : KeyOrder) (p : Index) : (ofIndex o p).indexing = p.indexing := by
  obtain ⟨store, h⟩ := ofIndex_cases o p
  rw [h]
  rfl

theorem sound_ofIndex (o : KeyOrder) (p : Index) : (ofIndex o p).store.Sound := by
  unfold ofIndex
  dsimp only
  split
  · exact VersionStore.sound_empty
  · exact VersionStore.sound_empty.apply _

theorem Reachable.sound (h : i.Reachable) : i.store.Sound := by
  induction h with
  | fresh o x mode => exact VersionStore.sound_empty
  | shared o p => exact sound_ofIndex o p
  | started _ s op ih => exact (moved_start _ s op).store.sound ih
  | @resumed i _ w ih =>
    have hm : i.Moved w.session .begin (i.resume w).2 := moved_resume i w
    exact hm.store.sound ih
  | @expired i _ w ih => exact (alike_expire i w).store ▸ ih

end Reachable

section History

/-- What is answered on the way through some steps. -/
def history (i : SharedIndex) : List (Session × Operation) → List Event
  | [] => []
  | (s, op) :: rest => ⟨s, op, (i.step s op).1⟩ :: (i.step s op).2.history rest

theorem run_cons (i : SharedIndex) (s : Session) (op : Operation)
    (rest : List (Session × Operation)) :
    i.run ((s, op) :: rest) =
      ((i.step s op).1 :: ((i.step s op).2.run rest).1, ((i.step s op).2.run rest).2) := rfl

theorem answers_run (i : SharedIndex) (steps : List (Session × Operation)) :
    (i.run steps).1 = (i.history steps).map Event.answer := by
  induction steps generalizing i with
  | nil => rfl
  | cons st rest ih =>
    rw [run_cons, history, List.map_cons, ih]

theorem Reachable.run (h : i.Reachable) (steps : List (Session × Operation)) :
    (i.run steps).2.Reachable := by
  induction steps generalizing i with
  | nil => exact h
  | cons st rest ih => exact ih (h.step st.1 st.2)

end History

/-- The transaction in which a session takes its next step. -/
def acting (i : SharedIndex) (s : Session) : Transaction Record :=
  (i.registry.current? s).getD i.single.1

theorem acting_of_some (hc : i.registry.current? s = some t) : i.acting s = t := by
  rw [acting, hc]
  rfl

theorem acting_of_none (hn : i.registry.current? s = none) : i.acting s = i.single.1 := by
  rw [acting, hn]
  rfl

theorem step_get (i : SharedIndex) (s : Session) (key : Key) :
    (i.step s (.get key)).1 = .ok (.entry ((i.seen (i.acting s) key).map Card.entry)) := by
  rw [step_get_eq]
  cases hc : i.registry.current? s with
  | some t => rw [acting_of_some hc, read_bound hc]; rfl
  | none => rw [acting_of_none hc, read_single hc]; rfl

/-- A search always ends with hits, and they are in order. -/
theorem step_search_ok (hi : i.store.Sound) (s : Session) (query : String) :
    ∃ hits, (i.step s (.search query)).1 = .ok (.hits hits) ∧
      HitsIn i.indexing (i.indexing.analyzer.queryGroups query) (i.seen (i.acting s)) hits ∧
      hits.Pairwise fun a b => b.score.le a.score = true := by
  rw [step_search]
  split
  · next hq =>
    rw [hq]
    exact ⟨[], rfl, hitsIn_nil_query, List.Pairwise.nil⟩
  · cases hc : i.registry.current? s with
    | some t =>
      rw [acting_of_some hc, read_bound hc]
      exact ⟨_, rfl, hitsIn_search hi t _, Hit.pairwise_ranked _⟩
    | none =>
      rw [acting_of_none hc, read_single hc]
      -- the transaction for this step changes nothing that a search looks at
      exact ⟨_, rfl, hitsIn_search (i := i.single.2) hi i.single.1 _, Hit.pairwise_ranked _⟩

/-- Reads are answered by what the transaction sees of each key. -/
theorem answers_read (hi : i.store.Sound) (hr : op.isRead = true) (s : Session) :
    View.Answers i.indexing (i.seen (i.acting s)) op (i.step s op).1 := by
  cases op with
  | get key => exact step_get i s key
  | search query =>
    obtain ⟨hits, he, hh, -⟩ := step_search_ok hi s query
    exact ⟨hits, he, hh⟩
  | _ => cases hr

/-- A search shows exactly the keys whose value, as reading the key in the same transaction gives
it, is relevant, each once and the most relevant first. -/
theorem search_agrees_with_get (h : i.Reachable) (s : Session) (query : String) :
    ∃ hits, (i.step s (.search query)).1 = .ok (.hits hits) ∧
      HitsIn i.indexing (i.indexing.analyzer.queryGroups query) (i.seen (i.acting s)) hits ∧
      (hits.Pairwise fun a b => b.score.le a.score = true) ∧
      ∀ key, (i.step s (.get key)).1 = .ok (.entry ((i.seen (i.acting s) key).map Card.entry)) := by
  obtain ⟨hits, he, hm, hp⟩ := step_search_ok h.sound s query
  exact ⟨hits, he, hm, hp, step_get i s⟩

theorem search_agrees_beside_staged_entry :
    let card : Card Record := ⟨⟨.empty, none⟩, ⟨"note", [], .empty⟩⟩
    let p := ((Index.ofIndexing .usual).store "k" card).store "l" card
    let i := ((ofIndex .given p).run [("admin", .setMode .readUncommitted), ("writer", .begin),
      ("writer", .updateEntry "k" ⟨"draft", [], .empty⟩), ("other", .remove "l"),
      ("reader", .begin)]).2
    i.Reachable ∧ i.store.clock = 2 ∧
      (i.seen (i.acting "reader") "k").map (·.entry.type) = some "draft" ∧
      ∃ hits, (i.step "reader" (.search "lean")).1 = .ok (.hits hits) ∧
        HitsIn i.indexing (i.indexing.analyzer.queryGroups "lean") (i.seen (i.acting "reader"))
          hits ∧
        (hits.Pairwise fun a b => b.score.le a.score = true) ∧
        ∀ key, (i.step "reader" (.get key)).1 =
          .ok (.entry ((i.seen (i.acting "reader") key).map Card.entry)) := by
  intro card p i
  have h : i.Reachable := (Reachable.shared .given p).run _
  exact ⟨h, by decide +kernel, by decide +kernel, search_agrees_with_get h "reader" "lean"⟩

section Anchored

/-- What a running transaction can rely on: the store still has the view `v` of its start, and
tells of all commits since. -/
structure Anchored (i : SharedIndex) (t : Transaction Record) (v : View) : Prop where
  start_le : t.start ≤ i.store.clock
  snapshot : ∀ key, i.store.at? key t.start = v key
  logged : i.store.Logged t.start

theorem anchored_clock (hi : i.store.Sound) (ht : t.start = i.store.clock) :
    i.Anchored t i.store.latest? := by
  refine ⟨Nat.le_of_eq ht, fun key => ?_, ht ▸ hi.logged_clock⟩
  exact VersionStore.at?_eq_latest? (ht ▸ hi.lastCommit_le)

theorem Anchored.goes (h : i.Anchored t v) (hu : t.Goes u) : i.Anchored u v :=
  ⟨hu.start ▸ h.start_le, fun key => hu.start ▸ h.snapshot key, hu.start ▸ h.logged⟩

/-- Whatever a session does, nobody who runs loses his snapshot. -/
theorem Anchored.moved (h : i.Anchored t v) (hc : i.registry.current? s = some t)
    (hm : i.Moved s' op j) : j.Anchored t v := by
  have old := Registry.oldestStart_le hc i.store.clock
  obtain ⟨hl, ha, hg⟩ := h
  have hs := hm.store
  constructor
  · generalize j.store = store at hs
    cases hs with
    | kept => exact hl
    | applied writes => rw [VersionStore.clock_apply]; exact Nat.le_succ_of_le hl
    | pruned => exact hl
    | cleared h0 => exact absurd h0 (Nat.ne_of_gt (Registry.activeCount_pos hc))
  · intro key
    rw [← ha key]
    generalize j.store = store at hs
    cases hs with
    | kept => rfl
    | applied writes => exact VersionStore.at?_apply hl
    | pruned => exact VersionStore.at?_pruned old
    | cleared h0 => exact absurd h0 (Nat.ne_of_gt (Registry.activeCount_pos hc))
  · generalize j.store = store at hs
    cases hs with
    | kept => exact hg
    | applied writes => exact hg.apply writes
    | pruned => exact hg.pruned old
    | cleared h0 => exact absurd h0 (Nat.ne_of_gt (Registry.activeCount_pos hc))

end Anchored

section Own

/-- The transaction that a session begins. -/
def opened (i : SharedIndex) : Transaction Record :=
  .begun i.registry.nextId i.mode i.store.clock

theorem step_begin (hm : i.mode ≠ .none) (hn : i.registry.current? s = none) :
    i.step s .begin = (.ok (.started i.registry.nextId),
      { i with registry := i.registry.takeId.2.bind s i.opened }) := by
  change i.begin s = _
  unfold begin Registry.begin
  rw [if_neg hm, hn]
  rfl

theorem step_begin_bound (hc : i.registry.current? s = some t) :
    ∃ e, i.step s .begin = (.error e, i) := by
  change ∃ e, i.begin s = (.error e, i)
  unfold begin Registry.begin
  rw [hc]
  split
  · exact ⟨_, rfl⟩
  · exact ⟨_, rfl⟩

theorem step_of_changed {r : Except Error SharedIndex} (h : i.start s op = i.changed r) :
    (i.step s op).2 = (i.changed r).2 := by
  unfold step
  rw [h]
  cases r <;> rfl

/-- A step other than a commit or a rollback that reads and writes no cards leaves a session the
transaction that it has. -/
theorem current?_step (hc : i.registry.current? s = some t) (hd : op.isData = false)
    (hn : op.isEnd = false) : (i.step s op).2.registry.current? s = some t := by
  have settings : ∀ change,
      (i.changed (i.changeSettings change)).2.registry.current? s = some t := fun change =>
    (registry_changeSettings i change).symm ▸ hc
  cases op with
  | begin =>
    obtain ⟨e, he⟩ := step_begin_bound hc
    rw [he]
    exact hc
  | commit => cases hn
  | rollback => cases hn
  | clear =>
    rw [step_of_changed rfl]
    unfold clear
    split <;> exact hc
  | setStopWords words => rw [step_of_changed rfl]; exact settings _
  | setSynonyms table => rw [step_of_changed rfl]; exact settings _
  | cleanup => exact hc
  | setMode level => exact hc
  | setScorer scorer => exact hc
  | register type mapping => exact hc
  | declareSupertype type supertype => exact hc
  | _ => cases hd

/-- Within a transaction nothing is committed. -/
theorem store_step (hc : i.registry.current? s = some t) (hd : op.isData = true) :
    (i.step s op).2.store = i.store := by
  rcases Operation.isData_cases hd i.indexing with ⟨key, rfl⟩ | ⟨text, rfl⟩ | ⟨key, c, -, hop⟩
  · exact (quiet_read i s fun i t => i.get t key).store
  · rw [step_search]
    split
    · rfl
    · exact (quiet_read i s _).store
  · cases c with
    | error e => rw [step_of_change_error hop]
    | ok c =>
      rw [step_of_change_ok hop]
      rcases tried_bound key c hc with ⟨e, -, ht⟩ | ⟨keys, j, hj, ht⟩
      · rw [ht]
      · rw [ht]
        exact (written_writeLocked j _ key c).alike.store.trans hj.store

end Own

end SharedIndex

end Cardfile
