import Cardfile.Proofs.Contents
import Cardfile.Proofs.SerialOrder
import Cardfile.Proofs.Validation

/-! # Serializability

Every step is accounted for by the transactions that stand at it: done on the contents before the
step, they are answered as their sessions were, and leave the contents after the step.
-/

namespace Cardfile

/-- Operations under a fixed level and fixed settings. -/
def Operation.isOrdinary : Operation → Bool
  | .clear | .setMode _ => false
  | op => !op.isTuning

theorem Operation.isTuning_of_isOrdinary {op : Operation} (h : op.isOrdinary = true) :
    op.isTuning = false := by
  cases op <;> first | rfl | cases h

theorem Operation.eq_of_isOrdinary {op : Operation} (h : op.isOrdinary = true)
    (he : op.isEnd = false) (hd : op.isData = false) : op = .begin ∨ op = .cleanup := by
  cases op with
  | begin => exact .inl rfl
  | cleanup => exact .inr rfl
  | commit => cases he
  | rollback => cases he
  | add => cases hd
  | update => cases hd
  | updateEntry => cases hd
  | remove => cases hd
  | get => cases hd
  | search => cases hd
  | _ => cases h

/-- What a transaction has done so far may be done on all contents that it cannot tell from those
at its start. -/
structure Tracks (x : Indexing) (t : Transaction Record) (v : View) (past : List Event) : Prop where
  replays : ∀ w, Agrees x t v w → Replays x w past (t.overlaid w)
  readOnly : t.isReadOnly = !past.any Event.writes

section Tracks

variable {x : Indexing} {t u : Transaction Record} {v : View} {past : List Event} {e : Event}

theorem tracks_begun (x : Indexing) (v : View) (id : TxId) (level : Isolation) (start : Stamp) :
    Tracks x (.begun id level start) v [] :=
  ⟨fun w _ => .nil w, rfl⟩

theorem any_writes_counts (e : Event) : ([e].filter Event.counts).any Event.writes = e.writes := by
  cases hc : e.counts with
  | true => rw [List.filter_cons_of_pos hc]; simp
  | false =>
    rw [List.filter_cons_of_neg (by rw [hc]; decide)]
    obtain ⟨s, op, a⟩ := e
    unfold Event.counts at hc
    unfold Event.writes
    rcases Bool.and_eq_false_iff.1 hc with hd | hconf
    · have ht : op.target? = none := by cases op <;> first | rfl | cases hd
      rw [ht]
      rfl
    · obtain e | r := a
      · exact (Bool.and_false _).symm
      · cases hconf

theorem Tracks.step (h : Tracks x t v past) (hs : Serves x v t e.operation e.answer u) :
    Tracks x u v (past ++ [e].filter Event.counts) := by
  constructor
  · intro w hw
    refine (h.replays w (hw.mono hs.keeps)).append ?_
    have hr : Replays x (t.overlaid w) ([e].filter Event.counts)
        (if e.answer.isOk then (t.overlaid w).after x e.operation else t.overlaid w) :=
      replays_counts fun _ hconf => (hs.answers hconf w hw).1
    obtain ⟨s, op, a⟩ := e
    cases hconf : a.isConflict with
    | true =>
      rw [Transaction.overlaid_congr (hs.refused hconf)]
      obtain e | r := a
      · exact hr
      · cases hconf
    | false =>
      obtain ⟨hans, hover⟩ := hs.answers hconf w hw
      rw [hover]
      obtain e | r := a
      · have hsame : (t.overlaid w).after x op = t.overlaid w := View.after_of_error hans
        rw [hsame]
        exact hr
      · exact hr
  · have hw : e.writes = (e.operation.target?.isSome && e.answer.isOk) := rfl
    rw [hs.readOnly, h.readOnly, List.any_append, any_writes_counts, Bool.not_or, hw]

end Tracks

namespace SharedIndex

variable {i j : SharedIndex} {s s' : Session} {op : Operation} {t u : Transaction Record}
  {key : Key} {v w : View} {before after past events : List Event}
  {rest steps : List (Session × Operation)}

section Ahead

/-- An own step in a snapshot, as far as it counts. -/
theorem InSnapshot.replays_own (h : i.InSnapshot s v w) :
    Replays i.indexing w ([⟨s, op, (i.step s op).1⟩].filter Event.counts)
      (if (i.step s op).1.isOk then w.after i.indexing op else w) := by
  obtain ⟨hs, t, hc, hl, ha, rfl⟩ := h
  refine replays_counts fun hd hconf => ?_
  obtain ⟨u, -, hserve⟩ := step_serves hs hc hl ha hd
  exact (hserve.answers hconf v (.refl _ _ _)).1

/-- What a transaction will do up to its commit may be done on the contents at its start. -/
theorem InSnapshot.replays_committed (h : i.InSnapshot s v w)
    (hord : ∀ st ∈ steps, st.2.isOrdinary = true)
    (hc : committed? s (i.history steps) = some events) :
    ∃ w', Replays i.indexing w events w' := by
  induction steps generalizing i w events with
  | nil => cases hc
  | cons st rest ih =>
    obtain ⟨s', op⟩ := st
    obtain ⟨hop, hrest⟩ := List.forall_mem_cons.1 hord
    have hm := moved_step i s' op
    have hx : (i.step s' op).2.indexing = i.indexing :=
      hm.indexing (Operation.isTuning_of_isOrdinary hop)
    rw [history] at hc
    by_cases hs : s' = s
    · subst hs
      cases he : op.isEnd with
      | true =>
        rw [committed?_cons_of_isEnd (e := ⟨s', op, _⟩) he] at hc
        split at hc
        · cases hc
          exact ⟨w, .nil w⟩
        · cases hc
      | false =>
        rw [committed?_cons (e := ⟨s', op, _⟩) he] at hc
        obtain ⟨more, hmore, rfl⟩ := Option.map_eq_some_iff.1 hc
        obtain ⟨w', hw'⟩ := ih (h.step_own he) hrest hmore
        rw [hx] at hw'
        exact ⟨w', h.replays_own.append hw'⟩
    · rw [committed?_cons_of_ne (e := ⟨s', op, _⟩) hs] at hc
      obtain ⟨w', hw'⟩ := ih (h.moved hm fun e => hs e.symm) hrest hc
      rw [hx] at hw'
      exact ⟨w', hw'⟩

end Ahead

/-- What the history tells of the transaction of a session is right. -/
inductive Recorded (i : SharedIndex) (s : Session) (before : List Event) : Prop
  | idle : i.registry.current? s = none → running? s before = none → Recorded i s before
  | busy (t : Transaction Record) (v : View) (past : List Event) :
      i.registry.current? s = some t → t.level = .serializable → i.Anchored t v →
      running? s before = some past → Tracks i.indexing t v past → Recorded i s before

/-- A step is accounted for by the transactions that stand at it. -/
structure Accounted (i : SharedIndex) (s : Session) (op : Operation) (before : List Event)
    (rest : List (Session × Operation)) : Prop where
  recorded : (i.step s op).2.Recorded s (⟨s, op, (i.step s op).1⟩ :: before)
  replays : Replays i.indexing i.store.latest?
    (standing before ⟨s, op, (i.step s op).1⟩ ((i.step s op).2.history rest)).flatten
    (i.step s op).2.store.latest?

section Begin

theorem accounted_begin (hs : i.store.Sound) (hm : i.mode = .serializable)
    (hn : i.registry.current? s = none) (hord : ∀ st ∈ rest, st.2.isOrdinary = true) :
    i.Accounted s .begin before rest := by
  have hin := inSnapshot_begin hs hm hn
  have hb := step_begin (s := s) (by rw [hm]; decide) hn
  have hopen : (⟨s, .begin, (i.step s .begin).1⟩ : Event).opens = true := by rw [hb]; rfl
  have hx : (i.step s .begin).2.indexing = i.indexing := by rw [hb]
  have hstore : (i.step s .begin).2.store = i.store := by rw [hb]
  constructor
  · refine .busy i.opened i.store.latest? [] ?_ hm ?_ ?_ (tracks_begun ..)
    · rw [hb]
      exact Registry.current?_bind.trans (if_pos rfl)
    · rw [hb]
      exact anchored_clock hs rfl
    · exact running?_cons_of_opens (e := ⟨s, .begin, _⟩) rfl hopen
  · rw [standing_of_opens hopen, hstore]
    -- the transaction stands here if it will be committed and writes nothing
    cases hc : committed? s ((i.step s .begin).2.history rest) with
    | none => exact .nil _
    | some events =>
      cases hw : events.any Event.writes with
      | true =>
        rw [flatten_filter_some, hw]
        exact .nil _
      | false =>
        obtain ⟨w, hr⟩ := hin.replays_committed hord hc
        rw [hx] at hr
        rw [hr.eq_of_writes hw] at hr
        rw [flatten_filter_some, hw]
        exact hr

end Begin

section End

/-- The end of a transaction that changes nothing. -/
theorem accounted_end (he : op.isEnd = true)
    (hc : (⟨s, op, (i.step s op).1⟩ : Event).commits = false)
    (hn : (i.step s op).2.registry.current? s = none)
    (hstore : (i.step s op).2.store = i.store) : i.Accounted s op before rest := by
  constructor
  · exact .idle hn (running?_cons_of_isEnd (e := ⟨s, op, _⟩) he)
  · rw [standing_of_isEnd he hc, hstore]
    exact .nil _

theorem accounted_rollback (i : SharedIndex) (s : Session) :
    i.Accounted s .rollback before rest := by
  have hstep : i.step s .rollback = i.rollback s := rfl
  cases hc : i.registry.current? s with
  | none =>
    rw [rollback_of_none hc] at hstep
    exact accounted_end rfl rfl (by rw [hstep]; exact hc) (by rw [hstep])
  | some t =>
    have hnone := current?_rollback i s
    have hstore := (quiet_rollback i s).store
    rw [← hstep] at hnone hstore
    refine accounted_end rfl ?_ hnone hstore
    rw [hstep]
    unfold rollback
    rw [hc]
    dsimp only
    rw [release_bind]
    rfl

theorem accounted_commit_unbound (hn : i.registry.current? s = none) :
    i.Accounted s .commit before rest := by
  have hstep : i.step s .commit = i.commitSession s := rfl
  rw [commitSession_of_none hn] at hstep
  exact accounted_end rfl (by rw [hstep]; rfl) (by rw [hstep]; exact hn) (by rw [hstep])

/-- A transaction that is committed may be done on the contents just before. -/
theorem accounted_commit (hs : i.store.Sound) (hc : i.registry.current? s = some t)
    (hactive : t.state = .active) (hl : t.level = .serializable) (ha : i.Anchored t v) (hr : running? s before = some past)
    (ht : Tracks i.indexing t v past) : i.Accounted s .commit before rest := by
  have hstep : i.step s .commit = i.commitSession s := rfl
  rw [commitSession_of_some hc hactive] at hstep
  rcases commit_cases (i.left s) t with ⟨c, hcommit⟩ | ⟨hcommit, hclash⟩
  · rw [hcommit] at hstep
    exact accounted_end rfl (by rw [hstep]; rfl) (by rw [hstep]; exact current?_left i s)
      (by rw [hstep]; rfl)
  · rw [hcommit, publish_eq] at hstep
    have hcommits : (⟨s, .commit, (i.step s .commit).1⟩ : Event).commits = true := by
      rw [hstep]; rfl
    have hopens : (⟨s, .commit, (i.step s .commit).1⟩ : Event).opens = false := rfl
    have hlatest : (i.step s .commit).2.store.latest? = t.overlaid i.store.latest? := by
      have hp := latest?_publish (i.left s) t
      rw [publish_eq] at hp
      rw [hstep]
      exact hp
    constructor
    · refine .idle ?_ (running?_cons_of_isEnd (e := ⟨s, .commit, _⟩) rfl)
      rw [hstep]
      exact current?_left i s
    · rw [standing_of_commits hopens hcommits, hr, flatten_filter_some, hlatest]
      cases hw : past.any Event.writes with
      | false =>
        have hread : t.isReadOnly = true := by rw [ht.readOnly, hw]; rfl
        rw [overlaid_of_isReadOnly hread]
        exact .nil _
      | true =>
        have hread : t.isReadOnly = false := by rw [ht.readOnly, hw]; rfl
        exact ht.replays _ (agrees_of_clash? hs ha (hclash hl hread))

end End

section Middle

theorem opens_of_bound (hc : i.registry.current? s = some t) (op : Operation) :
    (⟨s, op, (i.step s op).1⟩ : Event).opens = false := by
  cases op with
  | begin =>
    obtain ⟨e, he⟩ := step_begin_bound hc
    rw [he]
    rfl
  | _ => rfl

/-- Only commits and single writes change the contents. -/
theorem latest?_step_of_isData (hord : op.isOrdinary = true) (he : op.isEnd = false)
    (hd : op.isData = false) : (i.step s op).2.store.latest? = i.store.latest? := by
  rcases Operation.eq_of_isOrdinary hord he hd with rfl | rfl
  · exact congrArg _ (quiet_begin i s).store
  · exact funext fun key => VersionStore.latest?_pruned

/-- A step in the middle of a transaction is recorded and changes no contents. -/
theorem accounted_bound (hs : i.store.Sound) (hord : op.isOrdinary = true) (he : op.isEnd = false)
    (hc : i.registry.current? s = some t) (hl : t.level = .serializable) (ha : i.Anchored t v)
    (hr : running? s before = some past) (ht : Tracks i.indexing t v past) :
    i.Accounted s op before rest := by
  have hm := moved_step i s op
  have hx : (i.step s op).2.indexing = i.indexing :=
    hm.indexing (Operation.isTuning_of_isOrdinary hord)
  have hopens := opens_of_bound hc op
  have hcommits : (⟨s, op, (i.step s op).1⟩ : Event).commits = false := commits_of_isEnd he
  have hrun : running? s (⟨s, op, (i.step s op).1⟩ :: before) =
      some (past ++ [⟨s, op, (i.step s op).1⟩].filter Event.counts) := by
    rw [running?_cons (e := ⟨s, op, (i.step s op).1⟩) he hopens, hr]
    rfl
  have hnothing : standing before ⟨s, op, (i.step s op).1⟩ ((i.step s op).2.history rest) = [] :=
    standing_of_running hopens hcommits hr
  cases hd : op.isData with
  | true =>
    obtain ⟨u, hu, hserve⟩ := step_serves hs hc hl ha hd
    constructor
    · refine .busy u v _ hu (hserve.goes.level.trans hl) ((ha.moved hc hm).goes hserve.goes) hrun ?_
      rw [hx]
      exact ht.step (e := ⟨s, op, (i.step s op).1⟩) hserve
    · rw [hnothing, store_step hc hd]
      exact .nil _
  | false =>
    constructor
    · refine .busy t v _ (current?_step hc hd he) hl (ha.moved hc hm) hrun ?_
      rw [hx, filter_counts_of_isData (e := ⟨s, op, (i.step s op).1⟩) hd, List.append_nil]
      exact ht
    · rw [hnothing, latest?_step_of_isData hord he hd]
      exact .nil _

end Middle

section Single

theorem seen_single (hm : i.mode = .serializable) : i.seen i.single.1 = i.store.latest? := by
  have hl : i.single.1.level = .readCommitted := by
    have hs : i.single.1.level = i.mode.single := rfl
    rw [hs, hm]
    rfl
  funext key
  unfold seen committedOrDirty
  rw [hl]
  rfl

/-- A write outside transactions is refused for a lock or done on the last commit. -/
theorem tried_idle (hn : i.registry.current? s = none) (key : Key) (c : Change) :
    (i.tried s key c).2.registry.current? s = none ∧
      ((∃ e : Error, e.kind = .deadlock ∧ (i.tried s key c).1 = .error e ∧
          (i.tried s key c).2.store = i.store) ∨
        ((i.tried s key c).1 = (c.onto key (i.store.latest? key)).map (fun _ => .done) ∧
          (i.tried s key c).2.store.latest? =
            match c.onto key (i.store.latest? key) with
            | .ok value => Function.update i.store.latest? key value
            | .error _ => i.store.latest?)) := by
  rcases tried_single key c hn with ⟨e, he, ht⟩ | ⟨t, j, hl, hread, hj, ht⟩
  · rw [ht]
    exact ⟨hn, .inl ⟨e, he, rfl, rfl⟩⟩
  · have hne : t.level ≠ .repeatableRead ∧ t.level ≠ .serializable := hl ▸ i.mode.single_ne
    have hstore : j.store = i.store := hj.store
    have hnone : j.registry.current? s = none := hj.registry ▸ hn
    rw [ht, finished_eq hne hread, hstore]
    cases c.onto key (i.store.latest? key) with
    | error e => exact ⟨hnone, .inr ⟨rfl, congrArg _ hstore⟩⟩
    | ok value =>
      refine ⟨?_, .inr ⟨rfl, VersionStore.latest?_apply_single ..⟩⟩
      rw [← (alike_stage j t key value).registry] at hnone
      exact hnone

/-- A step outside transactions, as far as it counts, is done on the last commit. -/
theorem step_idle (hs : i.store.Sound) (hm : i.mode = .serializable)
    (hn : i.registry.current? s = none) (hd : op.isData = true) :
    (i.step s op).2.registry.current? s = none ∧
      ((i.step s op).1.isConflict = false →
        View.Answers i.indexing i.store.latest? op (i.step s op).1) ∧
      (i.step s op).2.store.latest? =
        if (i.step s op).1.isOk then View.after i.indexing i.store.latest? op
        else i.store.latest? := by
  have hseen : i.seen (i.acting s) = i.store.latest? := by
    rw [acting_of_none hn, seen_single hm]
  rcases Operation.isData_cases hd i.indexing with ⟨key, rfl⟩ | ⟨text, rfl⟩ | ⟨key, c, -, hop⟩
  · have hans : View.Answers i.indexing (i.seen (i.acting s)) (.get key) _ := answers_read hs rfl s
    rw [hseen] at hans
    refine ⟨?_, fun _ => hans, ?_⟩
    · rw [step_get_eq, read_single hn]
      exact hn
    · rw [View.after_of_target?_eq_none rfl, ite_self]
      exact congrArg _ (quiet_read i s fun i t => i.get t key).store
  · have hans : View.Answers i.indexing (i.seen (i.acting s)) (.search text) _ :=
      answers_read hs rfl s
    rw [hseen] at hans
    refine ⟨?_, fun _ => hans, ?_⟩
    · rw [step_search]
      split
      · exact hn
      · rw [read_single hn]
        exact hn
    · rw [View.after_of_target?_eq_none rfl, ite_self, step_search]
      split
      · rfl
      · exact congrArg _ (quiet_read i s _).store
  · cases c with
    | error e =>
      rw [step_of_change_error hop]
      refine ⟨hn, fun _ => ?_, rfl⟩
      rw [View.answers_change hop]
      rfl
    | ok c =>
      rw [step_of_change_ok hop, View.answers_change hop, View.after_change hop]
      dsimp only [Except.bind]
      obtain ⟨hnone, ⟨e, he, ha, hstore⟩ | ⟨ha, hlatest⟩⟩ := tried_idle hn key c
      · rw [ha, hstore]
        refine ⟨hnone, fun hconf => ?_, rfl⟩
        rw [Answer.isConflict_of_deadlock he] at hconf
        cases hconf
      · rw [ha, hlatest]
        refine ⟨hnone, fun _ => rfl, ?_⟩
        cases c.onto key (i.store.latest? key) <;> rfl

/-- A step outside transactions stands for itself. -/
theorem accounted_idle (hs : i.store.Sound) (hm : i.mode = .serializable)
    (hord : op.isOrdinary = true) (he : op.isEnd = false) (hb : op ≠ .begin)
    (hn : i.registry.current? s = none) (hr : running? s before = none) :
    i.Accounted s op before rest := by
  have hopens : (⟨s, op, (i.step s op).1⟩ : Event).opens = false := by
    cases op <;> first | rfl | exact absurd rfl hb
  have hcommits : (⟨s, op, (i.step s op).1⟩ : Event).commits = false := commits_of_isEnd he
  have hrun : running? s (⟨s, op, (i.step s op).1⟩ :: before) = none := by
    rw [running?_cons (e := ⟨s, op, (i.step s op).1⟩) he hopens, hr]
    rfl
  cases hd : op.isData with
  | true =>
    obtain ⟨hnone, hans, hlatest⟩ := step_idle hs hm hn hd
    constructor
    · exact .idle hnone hrun
    · rw [standing_of_idle hopens hcommits hr, hlatest]
      exact replays_counts fun _ => hans
  | false =>
    constructor
    · refine .idle ?_ hrun
      rcases Operation.eq_of_isOrdinary hord he hd with rfl | rfl
      · exact absurd rfl hb
      · exact hn
    · rw [standing_of_idle hopens hcommits hr, latest?_step_of_isData hord he hd,
        filter_counts_of_isData (e := ⟨s, op, (i.step s op).1⟩) hd]
      exact .nil _

end Single

section Serial

theorem Recorded.moved {a : Answer} (h : i.Recorded s before) (hm : i.Moved s' op j)
    (hx : j.indexing = i.indexing) (hne : s ≠ s') : j.Recorded s (⟨s', op, a⟩ :: before) := by
  have hr : running? s (⟨s', op, a⟩ :: before) = running? s before :=
    running?_cons_of_ne fun e => hne e.symm
  cases h with
  | idle hn hrun => exact .idle ((hm.others s hne).trans hn) (hr.trans hrun)
  | busy t v past hc hl ha hrun ht =>
    exact .busy t v past ((hm.others s hne).trans hc) hl (ha.moved hc hm) (hr.trans hrun) (hx ▸ ht)

/-- The history of a serializable index so far, latest event first, is right for every session. -/
structure Consistent (i : SharedIndex) (before : List Event) : Prop where
  sound : i.store.Sound
  tidy : i.Tidy
  mode : i.mode = .serializable
  recorded : ∀ s, i.Recorded s before

theorem Consistent.accounted (h : i.Consistent before) (s : Session) (hop : op.isOrdinary = true)
    (hord : ∀ st ∈ rest, st.2.isOrdinary = true) : i.Accounted s op before rest := by
  cases h.recorded s with
  | idle hn hr =>
    by_cases hb : op = .begin
    · subst hb
      exact accounted_begin h.sound h.mode hn hord
    · cases he : op.isEnd with
      | true =>
        cases op with
        | commit => exact accounted_commit_unbound hn
        | rollback => exact accounted_rollback i s
        | _ => cases he
      | false => exact accounted_idle h.sound h.mode hop he hb hn hr
  | busy t v past hc hl ha hr ht =>
    cases he : op.isEnd with
    | true =>
      cases op with
      | commit => exact accounted_commit h.sound hc (h.tidy.holdings.active hc) hl ha hr ht
      | rollback => exact accounted_rollback i s
      | _ => cases he
    | false => exact accounted_bound h.sound hop he hc hl ha hr ht

theorem Consistent.step (h : i.Consistent before) (s : Session) (hop : op.isOrdinary = true) :
    (i.step s op).2.Consistent (⟨s, op, (i.step s op).1⟩ :: before) := by
  have hm := moved_step i s op
  have hx := hm.indexing (Operation.isTuning_of_isOrdinary hop)
  refine ⟨hm.store.sound h.sound, (h.tidy.step s op).tidy, ?_, fun s' => ?_⟩
  · refine (hm.mode fun level hl => ?_).trans h.mode
    rw [hl] at hop
    cases hop
  · by_cases hs : s' = s
    · subst hs
      have hnone : i.Accounted s' op before [] :=
        h.accounted s' hop fun _ hst => absurd hst List.not_mem_nil
      exact hnone.recorded
    · exact (h.recorded s').moved hm hx hs

/-- The transactions that stand at the steps to come lead from the contents now to those then. -/
theorem Consistent.replays_serialAfter (h : i.Consistent before)
    (hord : ∀ st ∈ steps, st.2.isOrdinary = true) :
    Replays i.indexing i.store.latest? (serialAfter before (i.history steps)).flatten
      (i.run steps).2.store.latest? := by
  induction steps generalizing i before with
  | nil => exact .nil _
  | cons st rest ih =>
    obtain ⟨s, op⟩ := st
    obtain ⟨hop, hrest⟩ := List.forall_mem_cons.1 hord
    have hx := (moved_step i s op).indexing (Operation.isTuning_of_isOrdinary hop)
    have hnext := ih (h.step s hop) hrest
    rw [hx] at hnext
    rw [history, serialAfter, List.flatten_append]
    exact (h.accounted s hop hrest).replays.append hnext

theorem Consistent.sequential (h : i.Consistent before)
    (hord : ∀ st ∈ steps, st.2.isOrdinary = true) : Sequential before (i.history steps) := by
  induction steps generalizing i before with
  | nil => exact True.intro
  | cons st rest ih =>
    obtain ⟨s, op⟩ := st
    obtain ⟨hop, hrest⟩ := List.forall_mem_cons.1 hord
    refine ⟨fun hopen => ?_, ih (h.step s hop) hrest⟩
    cases h.recorded s with
    | idle hn hr => exact hr
    | busy t v past hc hl ha hr ht =>
      rw [opens_of_bound hc op] at hopen
      cases hopen

/-- An index that is shared from now on, under serializable transactions. -/
def sharedSerializable (o : KeyOrder) (p : Index) : SharedIndex :=
  { ofIndex o p with mode := .serializable }

example (o : KeyOrder) (x : Indexing) :
    sharedSerializable o (.ofIndexing x) = ofIndexing o x .serializable := rfl

theorem consistent_sharedSerializable (o : KeyOrder) (p : Index) :
    (sharedSerializable o p).Consistent [] := by
  have hopening := Scene.tidy_opening o p .serializable
  refine ⟨hopening.sound, hopening.index, rfl, fun s => .idle ?_ rfl⟩
  change (ofIndex o p).registry.current? s = none
  rw [registry_ofIndex]
  rfl

/-- Every run of a serializable index is as good as its committed transactions one after the other
on an index that nobody shares: these answer the same and leave the same contents. -/
theorem run_serializable {p : Index} (hp : p.Reachable) (o : KeyOrder)
    (hord : ∀ st ∈ steps, st.2.isOrdinary = true) :
    let history := (sharedSerializable o p).history steps
    let events := (serial history).flatten
    let r := p.performAll (events.map Event.operation)
    (∀ s, events.filter (·.session = s) = lasting s [] history) ∧
      List.Forall₂ Answer.Matches (events.map Event.answer) r.1 ∧
      ((sharedSerializable o p).run steps).2.store.latest? = r.2.view := by
  have hc := consistent_sharedSerializable o p
  have hr := hc.replays_serialAfter hord
  have hlatest : (sharedSerializable o p).store.latest? = p.view := latest?_ofIndex o p
  have hx : (sharedSerializable o p).indexing = p.indexing := indexing_ofIndex o p
  rw [hlatest, hx] at hr
  obtain ⟨hm, hv⟩ := Index.performAll_of_replays hp.sound hr
  exact ⟨filter_serial (hc.sequential hord), hm, hv.symm⟩

theorem run_serializable_of_three :
    let note : Record := ⟨"note", [], .empty⟩
    let card : Card Record := ⟨⟨.empty, none⟩, note⟩
    let x := Indexing.usual.register "note" ⟨[], none⟩
    let p := ((Index.ofIndexing x).store "k" card).store "l" card
    let steps : List (Session × Operation) := [("reader", .begin), ("reader", .search "lean"),
      ("writer", .begin), ("writer", .updateEntry "k" ⟨"draft", [], .empty⟩),
      ("other", .remove "k"), ("writer", .commit), ("reader", .get "k"), ("other", .remove "l"),
      ("writer", .cleanup), ("reader", .get "l"), ("reader", .commit)]
    let history := (sharedSerializable .given p).history steps
    let events := (serial history).flatten
    let r := p.performAll (events.map Event.operation)
    p.Reachable ∧ (∀ st ∈ steps, st.2.isOrdinary = true) ∧
      ((sharedSerializable .given p).run steps).2.store.clock = 3 ∧
      (∀ s, events.filter (·.session = s) = lasting s [] history) ∧
      List.Forall₂ Answer.Matches (events.map Event.answer) r.1 ∧
      ((sharedSerializable .given p).run steps).2.store.latest? = r.2.view := by
  intro note card x p
  have hcard : x.card note note = .ok card := by
    unfold Indexing.card Mappings.extract
    rw [Mappings.resolve_of_top rfl rfl rfl]
    rfl
  have hp : p.Reachable := ((Index.Reachable.fresh x).store hcard "k").store hcard "l"
  refine ⟨hp, by decide, by decide +kernel, ?_⟩
  exact run_serializable hp .given (by decide)

end Serial

end SharedIndex

end Cardfile
