import Cardfile.Proofs.Reading

/-! # Writing

What a write does to its transaction and to the index, whether it succeeds or not.
-/

namespace Cardfile

variable {i j : SharedIndex} {t u : Transaction Record} {key : Key} {change : Change}

/-- Two indexes that differ at most in what is pending and in the locks. -/
structure SharedIndex.Alike (i j : SharedIndex) : Prop where
  indexing : j.indexing = i.indexing
  store : j.store = i.store
  registry : j.registry = i.registry
  mode : j.mode = i.mode
  order : j.order = i.order

/-- The same transaction later on: it is read and written in, but it has not ended. -/
structure Transaction.Goes (t u : Transaction Record) : Prop where
  level : u.level = t.level
  start : u.start = t.start

namespace SharedIndex

theorem Alike.refl (i : SharedIndex) : i.Alike i := ⟨rfl, rfl, rfl, rfl, rfl⟩

theorem Alike.trans {k : SharedIndex} (h : i.Alike j) (h' : j.Alike k) : i.Alike k :=
  ⟨h'.indexing.trans h.indexing, h'.store.trans h.store, h'.registry.trans h.registry,
    h'.mode.trans h.mode, h'.order.trans h.order⟩

theorem alike_close (i : SharedIndex) (t : Transaction Record) : i.Alike (i.close t) :=
  ⟨rfl, rfl, rfl, rfl, rfl⟩

theorem alike_stage (i : SharedIndex) (t : Transaction Record) (key : Key) (value : Staged) :
    i.Alike (i.stage t key value).2 := by
  unfold stage
  dsimp only
  split <;> exact ⟨rfl, rfl, rfl, rfl, rfl⟩

theorem lock_ok (h : i.lock t key = .ok (u, j)) :
    i.Alike j ∧ ∃ keys, u = { t with locked := keys } := by
  unfold lock at h
  split at h
  · cases ha : i.locks.acquire key t.id with
    | error holder => rw [ha] at h; cases h
    | ok r =>
      rw [ha] at h
      cases h
      refine ⟨⟨rfl, rfl, rfl, rfl, rfl⟩, ?_⟩
      split
      · exact ⟨_, rfl⟩
      · exact ⟨t.locked, rfl⟩
  · cases h
    exact ⟨.refl _, t.locked, rfl⟩

/-- The value of a key that a write builds on, unless pinned values count. -/
def ground (i : SharedIndex) (t : Transaction Record) : View :=
  fun key => (t.ownWrite? key).getD (i.stored t key)

/-- The transaction after it has looked at the value that a change builds on, if it does. -/
def noted (i : SharedIndex) (t : Transaction Record) (key : Key) : Change → Transaction Record
  | .add _ => t
  | _ => i.rememberBase t key

theorem base_eq (h : t.level ≠ .repeatableRead) : i.base t key = .ok (i.ground t key) := by
  unfold base ground stored
  cases t.ownWrite? key with
  | some own => rfl
  | none => cases hl : t.level <;> first | rfl | exact absurd hl h

theorem rememberBase_cases (i : SharedIndex) (t : Transaction Record) (key : Key) :
    i.rememberBase t key = t ∨ i.rememberBase t key = { t with reads := t.reads.insert key } := by
  unfold rememberBase remember
  split
  · next hl =>
    rw [hl]
    split
    · exact .inl rfl
    · exact .inr rfl
  · exact .inl rfl

theorem noted_cases (i : SharedIndex) (t : Transaction Record) (key : Key) (change : Change) :
    i.noted t key change = t ∨ i.noted t key change = { t with reads := t.reads.insert key } := by
  cases change <;> first | exact .inl rfl | exact rememberBase_cases i t key

theorem noted_of_ne (h : t.level ≠ .serializable) (i : SharedIndex) (key : Key)
    (change : Change) : i.noted t key change = t := by
  cases change <;> first | rfl | exact if_neg h

/-- The ways in which a write to a key whose lock is held ends. -/
inductive Written (i : SharedIndex) (t : Transaction Record) (key : Key) (change : Change) :
    Except Error Unit × Transaction Record × SharedIndex → Prop
  | clash (c : Clash) : Written i t key change (.error (.clash c), t, i)
  | unknown : Written i t key change (.error (.unknownKey key), i.noted t key change, i)
  | staged (value : Staged) :
    Written i t key change (.ok (), i.stage (i.noted t key change) key value)

theorem written_writeLocked (i : SharedIndex) (t : Transaction Record) (key : Key)
    (change : Change) : Written i t key change (i.writeLocked t key change) := by
  unfold writeLocked
  split
  · exact .clash _
  · split
    · exact .staged _
    · next hc =>
      have hn : i.rememberBase t key = i.noted t key change := by
        cases change <;> first | rfl | exact absurd rfl (hc _)
      rw [hn]
      split
      · exact .clash _
      · exact .unknown
      · exact .staged _

/-- A write that is not refused does to the value that it builds on what the change says. -/
theorem writeLocked_of_base {old : Staged} (hb : i.base t key = .ok old)
    (hs : t.level = .serializable → i.store.lastCommit key ≤ t.start) :
    i.writeLocked t key change =
      match change.onto key old with
      | .error e => (.error e, i.noted t key change, i)
      | .ok value => (.ok (), i.stage (i.noted t key change) key value) := by
  have hc : (decide (t.level = .serializable) && decide (t.start < i.store.lastCommit key)) = false := by
    rw [Bool.and_eq_false_iff, decide_eq_false_iff_not, decide_eq_false_iff_not]
    by_cases h : t.level = .serializable
    · exact .inr (Nat.not_lt_of_le (hs h))
    · exact .inl h
  unfold writeLocked
  rw [if_neg (by rw [hc]; exact Bool.false_ne_true), hb]
  cases change with
  | add card => rfl
  | _ => cases old <;> rfl

/-- Without pinned values a write does to the value that it builds on what the change says, unless
a serializable transaction finds that the key has been changed. -/
theorem writeLocked_eq (hl : t.level ≠ .repeatableRead)
    (hs : t.level = .serializable → i.store.lastCommit key ≤ t.start) :
    i.writeLocked t key change =
      match change.onto key (i.ground t key) with
      | .error e => (.error e, i.noted t key change, i)
      | .ok value => (.ok (), i.stage (i.noted t key change) key value) :=
  writeLocked_of_base (base_eq hl) hs

theorem Written.alike {r : Except Error Unit × Transaction Record × SharedIndex}
    (h : Written i t key change r) : i.Alike r.2.2 := by
  cases h with
  | clash => exact .refl _
  | unknown => exact .refl _
  | staged value => exact alike_stage ..

theorem write_ok {r : Except Error Unit × Transaction Record × SharedIndex}
    (h : i.write t key change = .ok r) : ∃ keys j, i.Alike j ∧
      r = j.writeLocked { t with locked := keys } key change := by
  unfold write at h
  cases hl : i.lock t key with
  | error holder => rw [hl] at h; cases h
  | ok p =>
    obtain ⟨u, j⟩ := p
    rw [hl] at h
    cases h
    obtain ⟨hj, keys, rfl⟩ := lock_ok hl
    exact ⟨keys, j, hj, rfl⟩

end SharedIndex

end Cardfile
