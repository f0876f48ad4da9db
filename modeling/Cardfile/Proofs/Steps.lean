import Cardfile.Proofs.Writing

/-! # Steps

What a step may do to the index, whoever takes it: the store is kept, grows by one commit, is
pruned behind all running transactions, or is cleared when there are none; and nobody touches the
transaction of another session.
-/

namespace Cardfile

namespace Registry

variable {ε : Type} {r : Registry ε} {s s' : Session} {t : Transaction ε}

theorem current?_bind : (r.bind s t).current? s' = if s = s' then some t else r.current? s' :=
  Dict.get?_insert ..

theorem release_of_some (h : r.current? s = some t) :
    r.release s = .ok (t, { r with bound := r.bound.erase s }) := by
  unfold release
  rw [h]

theorem current?_release :
    ({ r with bound := r.bound.erase s } : Registry ε).current? s' =
      if s = s' then none else r.current? s' :=
  Dict.get?_erase ..

theorem activeCount_pos (h : r.current? s = some t) : 0 < r.activeCount := by
  have hm : (s, t) ∈ r.bound.entries := Dict.mem_entries_iff.2 h
  exact List.length_pos_of_mem hm

/-- Nobody who runs has started before the oldest start. -/
theorem oldestStart_le (h : r.current? s = some t) (now : Stamp) : r.oldestStart now ≤ t.start := by
  have hm : t.start ∈ r.bound.values.map Transaction.start :=
    List.mem_map.2 ⟨t, Dict.mem_values_iff.2 ⟨s, h⟩, rfl⟩
  unfold oldestStart
  cases hs : (r.bound.values.map Transaction.start).min? with
  | none => rw [List.min?_eq_none_iff.1 hs] at hm; cases hm
  | some n => exact (List.min?_eq_some_iff.1 hs).2 _ hm

end Registry

namespace SharedIndex

variable {i j k : SharedIndex} {s s' : Session} {op : Operation} {t u : Transaction Record}
  {key : Key}

/-- What a step does to the store. -/
inductive StoreMove (i : SharedIndex) : VersionStore Record → Prop
  | kept : StoreMove i i.store
  | applied (writes : List (Write Record)) : (writes.map Prod.fst).Nodup →
      StoreMove i (i.store.apply writes)
  | pruned : StoreMove i (i.store.pruned (i.registry.oldestStart i.store.clock))
  | cleared : i.registry.activeCount = 0 → StoreMove i i.store.clear

/-- A move of a session that shows to nobody else, unless they look at pending writes. -/
structure Quiet (i : SharedIndex) (s : Session) (j : SharedIndex) : Prop where
  indexing : j.indexing = i.indexing
  store : j.store = i.store
  mode : j.mode = i.mode
  order : j.order = i.order
  others : ∀ s', s' ≠ s → j.registry.current? s' = i.registry.current? s'

/-- A move of a session by an operation. -/
structure Moved (i : SharedIndex) (s : Session) (op : Operation) (j : SharedIndex) : Prop where
  indexing : op.isTuning = false → j.indexing = i.indexing
  store : StoreMove i j.store
  mode : (∀ level, op ≠ .setMode level) → j.mode = i.mode
  order : j.order = i.order
  others : ∀ s', s' ≠ s → j.registry.current? s' = i.registry.current? s'

theorem Quiet.refl (i : SharedIndex) (s : Session) : i.Quiet s i :=
  ⟨rfl, rfl, rfl, rfl, fun _ _ => rfl⟩

theorem Quiet.moved (h : i.Quiet s j) : i.Moved s op j :=
  ⟨fun _ => h.indexing, h.store ▸ .kept, fun _ => h.mode, h.order, h.others⟩

theorem Quiet.alike (h : i.Quiet s j) (hk : j.Alike k) : i.Quiet s k :=
  ⟨hk.indexing.trans h.indexing, hk.store.trans h.store, hk.mode.trans h.mode,
    hk.order.trans h.order, fun s' hs => hk.registry ▸ h.others s' hs⟩

theorem Quiet.bind (h : i.Quiet s j) (t : Transaction Record) : i.Quiet s (j.bind s t) :=
  ⟨h.indexing, h.store, h.mode, h.order, fun s' hs =>
    (Registry.current?_bind.trans (if_neg fun e => hs e.symm)).trans (h.others s' hs)⟩

/-- The index when a session has left its transaction. -/
def left (i : SharedIndex) (s : Session) : SharedIndex :=
  i.unbound { i.registry with bound := i.registry.bound.erase s }

theorem current?_left (i : SharedIndex) (s : Session) : (i.left s).registry.current? s = none :=
  Registry.current?_release.trans (if_pos rfl)

theorem Quiet.left (h : i.Quiet s j) : i.Quiet s (j.left s) :=
  ⟨h.indexing, h.store, h.mode, h.order, fun s' hs =>
    (Registry.current?_release.trans (if_neg fun e => hs e.symm)).trans (h.others s' hs)⟩

theorem current?_bind_self (i : SharedIndex) (s : Session) (t : Transaction Record) :
    (i.bind s t).registry.current? s = some t :=
  Registry.current?_bind.trans (if_pos rfl)

theorem quiet_single (i : SharedIndex) (s : Session) : i.Quiet s i.single.2 :=
  ⟨rfl, rfl, rfl, rfl, fun _ _ => rfl⟩

section Commit

/-- A commit is refused by a clash that a serializable transaction finds, or publishes. -/
theorem commit_cases (i : SharedIndex) (t : Transaction Record) :
    (∃ c, i.commit t = (.error (.clash c), i.close t)) ∨
      (i.commit t = (.ok (), (i.publish t).close t) ∧
        (t.level = .serializable → t.isReadOnly = false → i.clash? t = none)) := by
  unfold commit
  dsimp only
  split
  · next c hc => exact .inl ⟨c, rfl⟩
  · next hc =>
    refine .inr ⟨rfl, fun hl hr => ?_⟩
    simpa [hl, hr] using hc

theorem commit_of_ne (h : t.level ≠ .serializable) (i : SharedIndex) :
    i.commit t = (.ok (), (i.publish t).close t) := by
  unfold commit
  simp [h]

theorem publish_eq (i : SharedIndex) (t : Transaction Record) :
    i.publish t =
      { i with store :=
          if t.isReadOnly then i.store else i.store.apply (i.order.entries i.store.clock t.writes) } := by
  unfold publish
  split <;> rfl

theorem Quiet.publish (h : i.Quiet s j) (t : Transaction Record) : i.Moved s op (j.publish t) := by
  rw [publish_eq]
  refine ⟨fun _ => h.indexing, ?_, fun _ => h.mode, h.order, h.others⟩
  dsimp only
  rw [h.store]
  split
  · exact .kept
  · exact .applied _ KeyOrder.nodup_keys_entries

theorem Moved.close (h : i.Moved s op j) (t : Transaction Record) : i.Moved s op (j.close t) :=
  ⟨h.indexing, h.store, h.mode, h.order, h.others⟩

theorem Quiet.commit (h : i.Quiet s j) (t : Transaction Record) : i.Moved s op (j.commit t).2 := by
  rcases commit_cases j t with ⟨c, hc⟩ | ⟨hc, -⟩
  · rw [hc]
    exact (h.alike (alike_close j t)).moved
  · rw [hc]
    exact (h.publish t).close t

end Commit

section Write

theorem Quiet.writeBound (h : i.Quiet s j) (t : Transaction Record) (key : Key) (c : Change) :
    i.Quiet s (j.writeBound t s key c).2 := by
  unfold SharedIndex.writeBound
  cases hw : j.write t key c with
  | error holder => exact h
  | ok r =>
    obtain ⟨keys, k, hk, rfl⟩ := write_ok hw
    exact ((h.alike hk).alike (written_writeLocked k _ key c).alike).bind _

theorem Quiet.writeSingle (h : i.Quiet s j) (t : Transaction Record) (s' : Session) (key : Key)
    (c : Change) : i.Moved s op (j.writeSingle t s' key c).2 := by
  unfold SharedIndex.writeSingle
  cases hw : j.write t key c with
  | error holder => exact h.moved
  | ok r =>
    obtain ⟨keys, k, hk, rfl⟩ := write_ok hw
    have hq := (h.alike hk).alike (written_writeLocked k { t with locked := keys } key c).alike
    generalize k.writeLocked { t with locked := keys } key c = r at hq
    obtain ⟨_ | _, u, l⟩ := r
    · exact (hq.alike (alike_close ..)).moved
    · exact hq.commit u

theorem moved_startWrite (i : SharedIndex) (s : Session) (key : Key) (c : Change) :
    i.Moved s op (i.startWrite s key c).2 := by
  unfold startWrite
  cases i.registry.current? s with
  | some t => exact ((Quiet.refl i s).writeBound t key c).moved
  | none => exact (quiet_single i s).writeSingle i.single.1 s key c

theorem moved_startCard (i : SharedIndex) (s : Session) (key : Key) (record entry : Record)
    (change : Card Record → Change) : i.Moved s op (i.startCard s key record entry change).2 := by
  unfold startCard
  split
  · exact moved_startWrite ..
  · exact (Quiet.refl i s).moved

/-- What becomes of the first part of a step if the others stand still. -/
def ended : Progress × SharedIndex → Answer × SharedIndex
  | (.answered a, i) => (a, i)
  | (.waiting w, i) => i.expire w

theorem step_eq (i : SharedIndex) (s : Session) (op : Operation) :
    i.step s op = ended (i.start s op) := rfl

/-- A write at once: one that would have to wait is given up. -/
def tried (i : SharedIndex) (s : Session) (key : Key) (c : Change) : Answer × SharedIndex :=
  ended (i.startWrite s key c)

theorem startCard_of_error {record entry : Record} {change : Card Record → Change} {e : Error}
    (h : i.indexing.card record entry = .error e) :
    i.startCard s key record entry change = (.answered (.error e), i) := by
  unfold startCard
  rw [h]

theorem startCard_of_ok {record entry : Record} {change : Card Record → Change} {card : Card Record}
    (h : i.indexing.card record entry = .ok card) :
    i.startCard s key record entry change = i.startWrite s key (change card) := by
  unfold startCard
  rw [h]

theorem step_of_answered {a : Answer} (h : i.start s op = (.answered a, j)) :
    i.step s op = (a, j) :=
  (step_eq i s op).trans (congrArg ended h)

theorem start_of_change_error {e : Error} (h : op.change? i.indexing = some (key, .error e)) :
    i.start s op = (.answered (.error e), i) := by
  cases op <;> simp only [Operation.change?, Option.some.injEq, Prod.mk.injEq, reduceCtorEq,
    and_false] at h
  all_goals
    cases hc : i.indexing.card _ _ with
    | error e' =>
      rw [hc] at h
      cases h.2
      exact startCard_of_error hc
    | ok card => rw [hc] at h; cases h.2

theorem start_of_change_ok {c : Change} (h : op.change? i.indexing = some (key, .ok c)) :
    i.start s op = i.startWrite s key c := by
  cases op <;> simp only [Operation.change?, Option.some.injEq, Prod.mk.injEq, reduceCtorEq,
    Except.ok.injEq] at h
  case updateEntry => obtain ⟨rfl, rfl⟩ := h; rfl
  case remove => obtain ⟨rfl, rfl⟩ := h; rfl
  all_goals
    obtain ⟨rfl, h⟩ := h
    cases hc : i.indexing.card _ _ with
    | error e' => rw [hc] at h; cases h
    | ok card =>
      rw [hc] at h
      cases h
      exact startCard_of_ok hc

theorem step_of_change_error {e : Error} (h : op.change? i.indexing = some (key, .error e)) :
    i.step s op = (.error e, i) :=
  step_of_answered (start_of_change_error h)

theorem step_of_change_ok {c : Change} (h : op.change? i.indexing = some (key, .ok c)) :
    i.step s op = i.tried s key c :=
  (step_eq i s op).trans (congrArg ended (start_of_change_ok h))

theorem tried_bound (key : Key) (c : Change) (h : i.registry.current? s = some t) :
    (∃ e : Error, e.kind = .deadlock ∧ i.tried s key c = (.error e, i)) ∨
    ∃ keys j, i.Alike j ∧ i.tried s key c =
      (((j.writeLocked { t with locked := keys } key c).1.map fun _ => .done),
        (j.writeLocked { t with locked := keys } key c).2.2.bind s
          (j.writeLocked { t with locked := keys } key c).2.1) := by
  unfold tried startWrite
  rw [h]
  dsimp only
  unfold writeBound
  cases hw : i.write t key c with
  | error holder => exact .inl ⟨_, rfl, rfl⟩
  | ok r =>
    obtain ⟨keys, j, hj, rfl⟩ := write_ok hw
    exact .inr ⟨keys, j, hj, rfl⟩

/-- The end of a write in a transaction of its own. -/
def finished : Except Error Unit × Transaction Record × SharedIndex → Answer × SharedIndex
  | (.ok (), t, i) => done (i.commit t)
  | (.error e, t, i) => (.error e, i.close t)

theorem tried_single (key : Key) (c : Change) (h : i.registry.current? s = none) :
    (∃ e : Error, e.kind = .deadlock ∧
      i.tried s key c = (.error e, i.single.2.close i.single.1)) ∨
    ∃ t j, t.level = i.mode.single ∧ t.isReadOnly = true ∧ i.single.2.Alike j ∧
      i.tried s key c = finished (j.writeLocked t key c) := by
  unfold tried startWrite
  rw [h]
  dsimp only
  unfold writeSingle
  cases hw : i.single.2.write i.single.1 key c with
  | error holder => exact .inl ⟨_, rfl, rfl⟩
  | ok r =>
    obtain ⟨keys, j, hj, rfl⟩ := write_ok hw
    refine .inr ⟨{ i.single.1 with locked := keys }, j, rfl, rfl, hj, ?_⟩
    dsimp only
    rcases j.writeLocked { i.single.1 with locked := keys } key c with ⟨_ | _, u, k⟩ <;> rfl

end Write

section Read

variable {α : Type} {look : SharedIndex → Transaction Record → α × Transaction Record}

theorem read_bound (h : i.registry.current? s = some t) :
    i.read s look = ((look i t).1, i.bind s (look i t).2) := by
  unfold read
  rw [h]

theorem read_single (h : i.registry.current? s = none) :
    i.read s look =
      ((look i.single.2 i.single.1).1, i.single.2.close (look i.single.2 i.single.1).2) := by
  unfold read
  rw [h]

theorem quiet_read (i : SharedIndex) (s : Session)
    (look : SharedIndex → Transaction Record → α × Transaction Record) :
    i.Quiet s (i.read s look).2 := by
  cases h : i.registry.current? s with
  | some t => rw [read_bound h]; exact (Quiet.refl i s).bind _
  | none => rw [read_single h]; exact (quiet_single i s).alike (alike_close ..)

theorem current?_read (i : SharedIndex) (s : Session)
    (look : SharedIndex → Transaction Record → α × Transaction Record) :
    (i.read s look).2.registry.current? s =
      (i.registry.current? s).map fun t => (look i t).2 := by
  cases h : i.registry.current? s with
  | some t => rw [read_bound h]; exact current?_bind_self ..
  | none => rw [read_single h]; exact h

theorem step_get_eq (i : SharedIndex) (s : Session) (key : Key) :
    i.step s (.get key) = (.ok (.entry (i.read s fun i t => i.get t key).1),
      (i.read s fun i t => i.get t key).2) := rfl

theorem step_search (i : SharedIndex) (s : Session) (query : String) :
    i.step s (.search query) =
      match i.indexing.analyzer.queryGroups query with
      | [] => (.ok (.hits []), i)
      | groups => ((.ok (.hits (i.read s fun i t => i.search t groups).1)),
          (i.read s fun i t => i.search t groups).2) := by
  simp only [step, start, searchText]
  cases i.indexing.analyzer.queryGroups query <;> rfl

end Read

theorem quiet_begin (i : SharedIndex) (s : Session) : i.Quiet s (i.begin s).2 := by
  unfold begin
  split
  · exact .refl i s
  · unfold Registry.begin
    cases h : i.registry.current? s with
    | some t => exact .refl i s
    | none =>
      refine ⟨rfl, rfl, rfl, rfl, fun s' hs => ?_⟩
      exact Registry.current?_bind.trans (if_neg fun e => hs e.symm)

theorem changeSettings_ok {change : Analyzer.Settings → Analyzer.Settings}
    (h : i.changeSettings change = .ok j) : ∃ x, j = { i with indexing := x } := by
  unfold changeSettings at h
  split at h
  · cases h
  · cases hx : i.indexing.withSettings (change i.indexing.settings) with
    | error e => rw [hx] at h; cases h
    | ok x => rw [hx] at h; cases h; exact ⟨x, rfl⟩

theorem registry_changeSettings (i : SharedIndex)
    (change : Analyzer.Settings → Analyzer.Settings) :
    (i.changed (i.changeSettings change)).2.registry = i.registry := by
  cases h : i.changeSettings change with
  | error e => rfl
  | ok j =>
    obtain ⟨x, rfl⟩ := changeSettings_ok h
    rfl

theorem moved_changeSettings (hop : op.isTuning = true)
    (change : Analyzer.Settings → Analyzer.Settings) :
    i.Moved s op (i.changed (i.changeSettings change)).2 := by
  cases h : i.changeSettings change with
  | error e => exact (Quiet.refl i s).moved
  | ok j =>
    obtain ⟨x, rfl⟩ := changeSettings_ok h
    exact ⟨fun hf => (Bool.noConfusion (hop.symm.trans hf)), .kept,
      fun _ => rfl, rfl, fun _ _ => rfl⟩

section Release

theorem release_bind (i : SharedIndex) (s : Session) (t : Transaction Record) (a : Answer) :
    (i.bind s t).release s a = (a, i.left s) := by
  have he : { i.registry.bind s t with bound := (i.registry.bound.insert s t).erase s } =
      ({ i.registry with bound := i.registry.bound.erase s } : Registry Record) := by
    rw [Dict.erase_insert]
    rfl
  unfold release
  rw [Registry.release_of_some (current?_bind_self i s t)]
  exact congrArg (fun registry => (a, i.unbound registry)) he

/-- Commits do not look at who has which transaction. -/
theorem commit_left (i : SharedIndex) (s : Session) (t : Transaction Record) :
    (i.left s).commit t = ((i.commit t).1, (i.commit t).2.left s) := by
  have hclash : (i.left s).clash? t = i.clash? t := rfl
  unfold commit
  rw [hclash]
  dsimp only
  split
  · rfl
  · rw [publish_eq, publish_eq]
    rfl

theorem commitSession_of_some (h : i.registry.current? s = some t) (ha : t.state = .active) :
    i.commitSession s = done ((i.left s).commit t) := by
  have hactive : t.checkActive = .ok () := if_pos ha
  unfold commitSession finishCommit
  rw [h, commit_left]
  dsimp only
  rw [hactive]
  generalize i.commit t = r
  obtain ⟨e | _, j⟩ := r <;> exact release_bind ..

/-- A transaction that has ended is not committed again. -/
theorem commitSession_of_ended (h : i.registry.current? s = some t) (ha : t.state ≠ .active) :
    i.commitSession s = (.error (.ended t.id t.state.name), i.left s) := by
  have hended : t.checkActive = .error (.ended t.id t.state.name) := if_neg ha
  unfold commitSession finishCommit
  rw [h]
  dsimp only
  rw [hended]
  exact release_bind ..

theorem commitSession_of_none (h : i.registry.current? s = none) :
    i.commitSession s = (.error .noTransaction, i) := by
  unfold commitSession
  rw [h]

theorem rollback_of_some (h : i.registry.current? s = some t) (ha : t.state = .active) :
    i.rollback s = (.ok .done, (i.left s).close t) := by
  unfold rollback abort
  rw [h]
  dsimp only
  rw [if_pos ha]
  exact release_bind ..

theorem rollback_of_ended (h : i.registry.current? s = some t) (ha : t.state ≠ .active) :
    i.rollback s = (.ok .done, i.left s) := by
  unfold rollback abort
  rw [h]
  dsimp only
  rw [if_neg ha]
  exact release_bind ..

theorem rollback_of_none (h : i.registry.current? s = none) :
    i.rollback s = (.error .noTransaction, i) := by
  unfold rollback
  rw [h]

theorem current?_commitSession (i : SharedIndex) (s : Session) :
    (i.commitSession s).2.registry.current? s = none := by
  cases h : i.registry.current? s with
  | none => rw [commitSession_of_none h]; exact h
  | some t =>
    by_cases ha : t.state = .active
    · rw [commitSession_of_some h ha, commit_left]
      exact current?_left _ s
    · rw [commitSession_of_ended h ha]
      exact current?_left i s

theorem current?_rollback (i : SharedIndex) (s : Session) :
    (i.rollback s).2.registry.current? s = none := by
  cases h : i.registry.current? s with
  | none => rw [rollback_of_none h]; exact h
  | some t =>
    by_cases ha : t.state = .active
    · rw [rollback_of_some h ha]
      exact current?_left i s
    · rw [rollback_of_ended h ha]
      exact current?_left i s

theorem moved_commitSession (i : SharedIndex) (s : Session) :
    i.Moved s op (i.commitSession s).2 := by
  cases h : i.registry.current? s with
  | none => rw [commitSession_of_none h]; exact (Quiet.refl i s).moved
  | some t =>
    by_cases ha : t.state = .active
    · rw [commitSession_of_some h ha]
      exact (Quiet.refl i s).left.commit t
    · rw [commitSession_of_ended h ha]
      exact (Quiet.refl i s).left.moved

theorem quiet_rollback (i : SharedIndex) (s : Session) : i.Quiet s (i.rollback s).2 := by
  cases h : i.registry.current? s with
  | none => rw [rollback_of_none h]; exact .refl i s
  | some t =>
    by_cases ha : t.state = .active
    · rw [rollback_of_some h ha]
      exact (Quiet.refl i s).left.alike (alike_close ..)
    · rw [rollback_of_ended h ha]
      exact (Quiet.refl i s).left

end Release

theorem moved_clear (i : SharedIndex) (s : Session) : i.Moved s op (i.changed i.clear).2 := by
  unfold clear
  split
  · exact (Quiet.refl i s).moved
  · next h =>
    exact ⟨fun _ => rfl, .cleared (Nat.eq_zero_of_not_pos h), fun _ => rfl, rfl, fun _ _ => rfl⟩

theorem quiet_searchText (i : SharedIndex) (s : Session) (query : String) :
    i.Quiet s (i.searchText s query).2 := by
  unfold searchText
  split
  · exact .refl i s
  · exact quiet_read i s _

/-- What the first part of a step may do. -/
theorem moved_start (i : SharedIndex) (s : Session) (op : Operation) :
    i.Moved s op (i.start s op).2 := by
  cases op with
  | begin => exact (quiet_begin i s).moved
  | commit => exact moved_commitSession i s
  | rollback => exact (quiet_rollback i s).moved
  | add key record entry => exact moved_startCard i s key record entry _
  | update key record entry => exact moved_startCard i s key record entry _
  | updateEntry key entry => exact moved_startWrite ..
  | remove key => exact moved_startWrite ..
  | get key => exact (quiet_read i s fun i t => i.get t key).moved
  | search query => exact (quiet_searchText i s query).moved
  | clear => exact moved_clear i s
  | cleanup => exact ⟨fun _ => rfl, .pruned, fun _ => rfl, rfl, fun _ _ => rfl⟩
  | setMode level => exact ⟨fun _ => rfl, .kept, fun h => absurd rfl (h level), rfl, fun _ _ => rfl⟩
  | setStopWords words => exact moved_changeSettings rfl _
  | setSynonyms table => exact moved_changeSettings rfl _
  | _ => exact ⟨fun h => Bool.noConfusion h, .kept, fun _ => rfl, rfl, fun _ _ => rfl⟩

theorem alike_expire (i : SharedIndex) (w : Waiting) : i.Alike (i.expire w).2 := by
  unfold expire
  cases w.single with
  | some t => exact alike_close i t
  | none => exact .refl i

theorem moved_resume (i : SharedIndex) (w : Waiting) : i.Moved w.session op (i.resume w).2 := by
  unfold resume
  split
  · exact (Quiet.refl i _).writeSingle ..
  · exact ((Quiet.refl i _).writeBound ..).moved
  · exact (Quiet.refl i _).moved

theorem Moved.alike (h : i.Moved s op j) (hk : j.Alike k) : i.Moved s op k :=
  ⟨fun ht => hk.indexing.trans (h.indexing ht), hk.store ▸ h.store,
    fun hm => hk.mode.trans (h.mode hm), hk.order.trans h.order,
    fun s' hs => hk.registry ▸ h.others s' hs⟩

/-- What a step of a session may do. -/
theorem moved_step (i : SharedIndex) (s : Session) (op : Operation) :
    i.Moved s op (i.step s op).2 := by
  have h := moved_start i s op
  unfold step
  generalize i.start s op = r at h
  obtain ⟨a | w, j⟩ := r
  · exact h
  · exact h.alike (alike_expire j w)

end SharedIndex

end Cardfile
