import Cardfile.Proofs.Runs

/-! # Serializable transactions and their snapshots

What a serializable transaction is answered depends on the contents at its start and on its own
writes. More than that, it depends on the contents only as far as the transaction keeps in mind
what it has read, written and searched for.
-/

namespace Cardfile

variable {x : Indexing} {t u : Transaction Record} {v w : View} {key : Key} {value : Staged}
  {query : List TermSet} {op : Operation} {a : Answer}

/-- A view with the own writes of a transaction in place. -/
def Transaction.overlaid (t : Transaction Record) (v : View) : View :=
  fun key => (t.ownWrite? key).getD (v key)

/-- A view after the successful operations of one session among some events. -/
def View.through (x : Indexing) (s : Session) (v : View) (events : List Event) : View :=
  (events.filter fun e => e.session = s && e.answer.isOk).foldl (fun v e => v.after x e.operation) v

/-- Two views that a transaction cannot tell apart by what it has kept in mind. -/
structure Agrees (x : Indexing) (t : Transaction Record) (v w : View) : Prop where
  read : ∀ key ∈ t.reads.toList, v key = w key
  written : ∀ key own, t.ownWrite? key = some own → v key = w key
  searched : ∀ query ∈ t.searches, ∀ key card score, x.score query card = some score →
    (v key = some card ↔ w key = some card)

section Over

theorem Transaction.overlaid_of_some {own : Staged} (h : t.ownWrite? key = some own) (v : View) :
    t.overlaid v key = own := by
  unfold overlaid
  rw [h]
  rfl

theorem Transaction.overlaid_of_none (h : t.ownWrite? key = none) (v : View) :
    t.overlaid v key = v key := by
  unfold overlaid
  rw [h]
  rfl

theorem Transaction.overlaid_congr (h : ∀ key, u.ownWrite? key = t.ownWrite? key) (v : View) :
    u.overlaid v = t.overlaid v := by
  funext key
  unfold overlaid
  rw [h key]

theorem Transaction.ownWrite?_write (key' : Key) :
    (t.write key value).ownWrite? key' = if key = key' then some value else t.ownWrite? key' :=
  Dict.get?_insert ..

theorem Transaction.overlaid_write (v : View) :
    (t.write key value).overlaid v = Function.update (t.overlaid v) key value := by
  funext key'
  unfold overlaid
  rw [ownWrite?_write]
  by_cases h : key = key'
  · subst h
    rw [if_pos rfl, Function.update_self]
    rfl
  · rw [if_neg h, Function.update_of_ne fun e => h e.symm]

theorem Transaction.isReadOnly_write : (t.write key value).isReadOnly = false :=
  Dict.isEmpty_insert ..

theorem Transaction.exists_write_of_not_readOnly (h : t.isReadOnly = false) :
    ∃ key value, t.ownWrite? key = some value := by
  refine Classical.byContradiction fun hn => ?_
  have he : t.isReadOnly = true := Dict.isEmpty_iff.2 fun key =>
    Option.eq_none_iff_forall_ne_some.2 fun value ho => hn ⟨key, value, ho⟩
  rw [h] at he
  cases he

theorem Transaction.isReadOnly_of_error (t : Transaction Record) (op : Operation) (e : Error) :
    t.isReadOnly = (t.isReadOnly && !(op.target?.isSome && (Except.error e : Answer).isOk)) := by
  have h : (Except.error e : Answer).isOk = false := rfl
  rw [h, Bool.and_false]
  exact (Bool.and_true _).symm

theorem Agrees.refl (x : Indexing) (t : Transaction Record) (v : View) : Agrees x t v v :=
  ⟨fun _ _ => rfl, fun _ _ _ => rfl, fun _ _ _ _ _ _ => Iff.rfl⟩

theorem Agrees.overlaid_eq (h : Agrees x t v w)
    (hk : (∃ own, t.ownWrite? key = some own) ∨ key ∈ t.reads.toList) :
    t.overlaid v key = t.overlaid w key := by
  unfold Transaction.overlaid
  rcases hk with ⟨own, ho⟩ | hr
  · rw [ho]
    rfl
  · rw [h.read key hr]

/-- Hits of a search that the transaction keeps in mind are the same in views that agree. -/
theorem Agrees.hitsIn {hits : List (Hit Record)} (h : Agrees x t v w) (hq : query ∈ t.searches)
    (hh : HitsIn x query (t.overlaid v) hits) : HitsIn x query (t.overlaid w) hits := by
  refine hh.congr fun key card score hs => ?_
  unfold Transaction.overlaid
  cases t.ownWrite? key with
  | some own => rfl
  | none => exact h.searched query hq key card score hs

end Over

section Footprint

/-- A transaction that keeps in mind all that another one does. -/
structure Transaction.Extends (u t : Transaction Record) : Prop where
  reads : ∀ key ∈ t.reads.toList, key ∈ u.reads.toList
  writes : ∀ key own, t.ownWrite? key = some own → ∃ own', u.ownWrite? key = some own'
  searches : ∀ query ∈ t.searches, query ∈ u.searches

theorem Transaction.Extends.refl (t : Transaction Record) : t.Extends t :=
  ⟨fun _ h => h, fun _ own h => ⟨own, h⟩, fun _ h => h⟩

theorem Transaction.Extends.write (h : u.Extends t) (key : Key) (value : Staged) :
    (u.write key value).Extends t := by
  refine ⟨h.reads, fun key' own ho => ?_, h.searches⟩
  rw [ownWrite?_write]
  split
  · exact ⟨value, rfl⟩
  · exact h.writes key' own ho

theorem Agrees.mono (h : Agrees x u v w) (hu : u.Extends t) : Agrees x t v w where
  read key hk := h.read key (hu.reads key hk)
  written key own ho :=
    have ⟨own', ho'⟩ := hu.writes key own ho
    h.written key own' ho'
  searched query hq := h.searched query (hu.searches query hq)

/-- The same transaction after it has kept in mind more, with the same writes. -/
structure Transaction.Notes (t u : Transaction Record) : Prop where
  goes : t.Goes u
  keeps : u.Extends t
  writes : u.writes = t.writes

theorem Transaction.Notes.refl (t : Transaction Record) : t.Notes t := ⟨⟨rfl, rfl⟩, .refl t, rfl⟩

theorem Transaction.notes_read (t : Transaction Record) (key : Key) :
    t.Notes { t with reads := t.reads.insert key } := by
  refine ⟨⟨rfl, rfl⟩, ⟨fun key' hk => ?_, fun _ own ho => ⟨own, ho⟩, fun _ hq => hq⟩, rfl⟩
  exact OrderedSet.mem_insert.2 (.inr hk)

theorem Transaction.Notes.ownWrite? (h : t.Notes u) (key : Key) :
    u.ownWrite? key = t.ownWrite? key :=
  congrArg (Dict.get? · key) h.writes

theorem Transaction.Notes.isReadOnly (h : t.Notes u) : u.isReadOnly = t.isReadOnly :=
  congrArg Dict.isEmpty h.writes

theorem Transaction.Notes.overlaid (h : t.Notes u) (v : View) : u.overlaid v = t.overlaid v :=
  overlaid_congr h.ownWrite? v

end Footprint

/-- What a step in a serializable transaction that started on the view `v` comes to. It is refused
because of what others did, or its answer and its writes are those that every view gives which the
transaction cannot tell from `v` afterwards. -/
structure Serves (x : Indexing) (v : View) (t : Transaction Record) (op : Operation) (a : Answer)
    (u : Transaction Record) : Prop where
  goes : t.Goes u
  keeps : u.Extends t
  readOnly : u.isReadOnly = (t.isReadOnly && !(op.target?.isSome && a.isOk))
  refused : a.isConflict = true → ∀ key, u.ownWrite? key = t.ownWrite? key
  answers : a.isConflict = false → ∀ w, Agrees x u v w →
    (t.overlaid w).Answers x op a ∧ u.overlaid w = (t.overlaid w).after x op

namespace SharedIndex

variable {i j : SharedIndex} {s s' : Session} {c : Change}

section Serializable

theorem seen_serializable (hl : t.level = .serializable) (ha : i.Anchored t v) :
    i.seen t = t.overlaid v := by
  funext key
  unfold seen committedOrDirty Transaction.overlaid
  rw [hl, ← ha.snapshot key]

theorem remember_cases (i : SharedIndex) (key : Key) (hl : t.level = .serializable) :
    ((∃ own, t.ownWrite? key = some own) ∧ i.remember t key = t) ∨
      i.remember t key = { t with reads := t.reads.insert key } := by
  unfold remember
  rw [hl]
  cases ho : t.ownWrite? key with
  | some own => exact .inl ⟨⟨own, rfl⟩, rfl⟩
  | none => exact .inr rfl

theorem notes_remember (i : SharedIndex) (key : Key) (hl : t.level = .serializable) :
    t.Notes (i.remember t key) := by
  rcases remember_cases i key hl with ⟨-, h⟩ | h
  · rw [h]
    exact .refl t
  · rw [h]
    exact t.notes_read key

/-- After a key has been read, views that agree have the same value there. -/
theorem overlaid_eq_of_remember (hl : t.level = .serializable)
    (h : Agrees x (i.remember t key) v w) : t.overlaid v key = t.overlaid w key := by
  rcases remember_cases i key hl with ⟨ho, he⟩ | he
  · rw [he] at h
    exact h.overlaid_eq (.inl ho)
  · rw [he] at h
    exact h.overlaid_eq (.inr (OrderedSet.mem_insert.2 (.inl rfl)))

theorem serves_get (hl : t.level = .serializable) (ha : i.Anchored t v) :
    Serves x v t (.get key) (.ok (.entry ((i.seen t key).map Card.entry))) (i.remember t key) where
  goes := (notes_remember i key hl).goes
  keeps := (notes_remember i key hl).keeps
  readOnly := (notes_remember i key hl).isReadOnly.trans (Bool.and_true _).symm
  refused h := by cases h
  answers _ w hw := by
    refine ⟨?_, (notes_remember i key hl).overlaid w⟩
    rw [seen_serializable hl ha, overlaid_eq_of_remember hl hw]
    rfl

theorem rememberSearch_serializable (hl : t.level = .serializable)
    (found : List (Hit Record × Pin Record)) (all : List (Hit Record)) :
    rememberSearch t query found all =
      { t with reads := t.reads.insertAll (all.map Hit.key), searches := t.searches ++ [query] } := by
  unfold rememberSearch
  rw [hl]

theorem serves_search (hs : i.store.Sound) (hl : t.level = .serializable) (ha : i.Anchored t v)
    {text : String} (hq : i.indexing.analyzer.queryGroups text = query) :
    Serves i.indexing v t (.search text) (.ok (.hits (i.search t query).1)) (i.search t query).2 := by
  have hu : (i.search t query).2 = rememberSearch t query (i.storedHits t query)
    (i.foundHits t query) := rfl
  have hh := hitsIn_search hs t query
  rw [seen_serializable hl ha] at hh
  rw [hu, rememberSearch_serializable hl]
  refine ⟨⟨rfl, rfl⟩, ⟨fun key hk => ?_, fun key own ho => ⟨own, ho⟩, fun q hm => ?_⟩,
    (Bool.and_true _).symm, fun h => ?_, fun _ w hw => ⟨⟨_, rfl, ?_⟩, rfl⟩⟩
  · exact OrderedSet.mem_insertAll.2 (.inr hk)
  · exact List.mem_append_left _ hm
  · cases h
  · rw [hq]
    exact hw.hitsIn (List.mem_append_right _ List.mem_cons_self) hh

theorem serves_refused {e : Error} (he : Answer.isConflict (.error e) = true) :
    Serves x v t op (.error e) t where
  goes := ⟨rfl, rfl⟩
  keeps := .refl t
  readOnly := t.isReadOnly_of_error op e
  refused _ _ := rfl
  answers h := by rw [he] at h; cases h

theorem noted_serializable (i : SharedIndex) (key : Key) (c : Change)
    (hl : t.level = .serializable) :
    (∃ card, c = .add card ∧ i.noted t key c = t) ∨ i.noted t key c = i.remember t key := by
  cases c with
  | add card => exact .inl ⟨card, rfl, rfl⟩
  | _ => exact .inr (if_pos hl)

theorem notes_noted (i : SharedIndex) (key : Key) (c : Change) (hl : t.level = .serializable) :
    t.Notes (i.noted t key c) := by
  rcases noted_serializable i key c hl with ⟨card, -, h⟩ | h
  · rw [h]
    exact .refl t
  · rw [h]
    exact notes_remember i key hl

/-- What a change makes of a key is the same in views that agree after the change was tried. -/
theorem onto_eq_of_noted (hl : t.level = .serializable)
    (h : Agrees x (i.noted t key c) v w) :
    c.onto key (t.overlaid v key) = c.onto key (t.overlaid w key) := by
  rcases noted_serializable i key c hl with ⟨card, rfl, -⟩ | he
  · rfl
  · rw [he] at h
    rw [overlaid_eq_of_remember hl h]

/-- A write in a serializable transaction whose lock is held. -/
theorem serves_writeLocked (hl : t.level = .serializable) (ha : i.Anchored t v)
    (hop : op.change? x = some (key, .ok c)) :
    Serves x v t op ((i.writeLocked t key c).1.map fun _ => .done) (i.writeLocked t key c).2.1 := by
  by_cases hn : i.store.lastCommit key ≤ t.start
  · have hg : i.ground t key = t.overlaid v key := by
      unfold ground Transaction.overlaid stored
      rw [if_pos hl, ha.snapshot key]
    have hnote := notes_noted i key c hl
    rw [writeLocked_eq (by rw [hl]; decide) fun _ => hn, hg]
    cases hr : c.onto key (t.overlaid v key) with
    | error e =>
      refine ⟨hnote.goes, hnote.keeps, ?_, fun _ => hnote.ownWrite?, fun _ w hw => ?_⟩
      · rw [hnote.isReadOnly]
        exact t.isReadOnly_of_error op e
      · rw [onto_eq_of_noted hl hw] at hr
        rw [View.answers_change hop, View.after_change hop]
        dsimp only [Except.bind]
        rw [hr]
        exact ⟨rfl, hnote.overlaid w⟩
    | ok value =>
      refine ⟨⟨hnote.goes.level, hnote.goes.start⟩, hnote.keeps.write key value, ?_,
        fun h => (by cases h), fun _ w hw => ?_⟩
      · rw [op.target?_eq x, hop]
        exact Transaction.isReadOnly_write.trans (Bool.and_false _).symm
      · have hw' : Agrees x (i.noted t key c) v w :=
          hw.mono ((Transaction.Extends.refl _).write key value)
        have hu : ((i.noted t key c).write key value).overlaid w = _ :=
          Transaction.overlaid_write w
        rw [hnote.overlaid w] at hu
        rw [onto_eq_of_noted hl hw'] at hr
        rw [View.answers_change hop, View.after_change hop]
        dsimp only [Except.bind]
        rw [hr]
        exact ⟨rfl, hu⟩
  · have hc : i.writeLocked t key c = (.error (.clash (.changedSinceStart key)), t, i) := by
      unfold writeLocked
      rw [if_pos (by simpa [hl] using hn)]
    rw [hc]
    exact serves_refused rfl

/-- The locks that a transaction holds do not count. -/
theorem serves_locked {keys : List Key} (h : Serves x v { t with locked := keys } op a u) :
    Serves x v t op a u :=
  ⟨⟨h.goes.level, h.goes.start⟩, ⟨h.keeps.reads, h.keeps.writes, h.keeps.searches⟩,
    h.readOnly, h.refused, h.answers⟩

theorem Anchored.locked (ha : i.Anchored t v) (hj : i.Alike j) (keys : List Key) :
    j.Anchored { t with locked := keys } v :=
  ⟨hj.store ▸ ha.start_le, hj.store ▸ ha.snapshot, hj.store ▸ ha.logged⟩

theorem serves_of_change_error {e : Error} (hop : op.change? x = some (key, .error e)) :
    Serves x v t op (.error e) t where
  goes := ⟨rfl, rfl⟩
  keeps := .refl t
  readOnly := t.isReadOnly_of_error op e
  refused _ _ := rfl
  answers _ w _ := by
    rw [View.answers_change hop, View.after_change hop]
    exact ⟨rfl, rfl⟩

/-- A step in the serializable transaction of a session. -/
theorem step_serves (hs : i.store.Sound) (hc : i.registry.current? s = some t)
    (hl : t.level = .serializable) (ha : i.Anchored t v) (hd : op.isData = true) :
    ∃ u, (i.step s op).2.registry.current? s = some u ∧
      Serves i.indexing v t op (i.step s op).1 u := by
  rcases Operation.isData_cases hd i.indexing with ⟨key, rfl⟩ | ⟨text, rfl⟩ | ⟨key, c, -, hop⟩
  · rw [step_get_eq, read_bound hc]
    exact ⟨_, current?_bind_self .., serves_get hl ha⟩
  · rw [step_search]
    split
    · next hq =>
      refine ⟨t, hc, ⟨rfl, rfl⟩, .refl t, (Bool.and_true _).symm, fun _ _ => rfl,
        fun _ w _ => ⟨⟨[], rfl, ?_⟩, rfl⟩⟩
      rw [hq]
      exact hitsIn_nil_query
    · rw [read_bound hc]
      exact ⟨_, current?_bind_self .., serves_search hs hl ha rfl⟩
  · cases c with
    | error e =>
      rw [step_of_change_error hop]
      exact ⟨t, hc, serves_of_change_error hop⟩
    | ok c =>
      rw [step_of_change_ok hop]
      rcases tried_bound key c hc with ⟨e, he, ht⟩ | ⟨keys, j, hj, ht⟩
      · rw [ht]
        exact ⟨t, hc, serves_refused (Answer.isConflict_of_deadlock he)⟩
      · rw [ht]
        exact ⟨_, current?_bind_self .., serves_locked (serves_writeLocked hl (ha.locked hj keys) hop)⟩

end Serializable

section Steps

/-- The session is in a serializable transaction that started on the view `v` and that, with its
own writes, shows `w`. -/
structure InSnapshot (i : SharedIndex) (s : Session) (v w : View) : Prop where
  sound : i.store.Sound
  bound : ∃ t, i.registry.current? s = some t ∧ t.level = .serializable ∧ i.Anchored t v ∧
    t.overlaid v = w

theorem inSnapshot_begin (hs : i.store.Sound) (hm : i.mode = .serializable)
    (hn : i.registry.current? s = none) :
    (i.step s .begin).2.InSnapshot s i.store.latest? i.store.latest? := by
  rw [step_begin (by rw [hm]; decide) hn]
  exact ⟨hs, i.opened, Registry.current?_bind.trans (if_pos rfl), hm, anchored_clock hs rfl, rfl⟩

/-- Steps of others leave a session in its snapshot. -/
theorem InSnapshot.moved (h : i.InSnapshot s v w) (hm : i.Moved s' op j) (hne : s ≠ s') :
    j.InSnapshot s v w := by
  obtain ⟨hs, t, hc, hl, ha, hw⟩ := h
  exact ⟨hm.store.sound hs, t, (hm.others s hne).trans hc, hl, ha.moved hc hm, hw⟩

theorem InSnapshot.seen_eq (h : i.InSnapshot s v w) : i.seen (i.acting s) = w := by
  obtain ⟨-, t, hc, hl, ha, rfl⟩ := h
  rw [acting_of_some hc, seen_serializable hl ha]

/-- Own steps change the snapshot by what the session is told to have written. -/
theorem InSnapshot.step_own (h : i.InSnapshot s v w) (he : op.isEnd = false) :
    (i.step s op).2.InSnapshot s v (if (i.step s op).1.isOk then w.after i.indexing op else w) := by
  obtain ⟨hs, t, hc, hl, ha, rfl⟩ := h
  have hm := moved_step i s op
  refine ⟨hm.store.sound hs, ?_⟩
  have ha' := ha.moved hc hm
  by_cases hd : op.isData = true
  · obtain ⟨u, hu, hserve⟩ := step_serves hs hc hl ha hd
    refine ⟨u, hu, hserve.goes.level.trans hl, ha'.goes hserve.goes, ?_⟩
    generalize (i.step s op).1 = a at hserve
    cases hconf : a.isConflict with
    | true =>
      obtain e | r := a
      · exact Transaction.overlaid_congr (hserve.refused hconf) v
      · cases hconf
    | false =>
      obtain ⟨hans, hover⟩ := hserve.answers hconf v (.refl _ _ _)
      rw [hover]
      obtain e | r := a
      · exact View.after_of_error hans
      · rfl
  · have hd : op.isData = false := Bool.eq_false_iff.2 hd
    refine ⟨t, current?_step hc hd he, hl, ha', ?_⟩
    rw [View.after_of_isData hd]
    split <;> rfl

end Steps

end SharedIndex

end Cardfile
