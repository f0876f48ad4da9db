import Cardfile.Proofs.OwnWrites
import Cardfile.Proofs.Snapshot

/-! # Steady reads

What a transaction reads does not change under it, whatever moves the others make and whoever waits
meanwhile. A serializable transaction reads the contents at its start with its own writes; one that
repeats its reads is told the same of a key until it writes the key itself.
-/

namespace Cardfile

variable {i j : SharedIndex} {s s' : Session} {op op' : Operation} {id : TxId} {key : Key}
  {t : Transaction Record} {c : Change} {c? : Option (Key × Change)} {value : Staged}
  {r : Progress × SharedIndex} {a : Answer} {w : Waiting} {v u : View} {e? : Option Event}

/-- Whether a session starts to change in a move how records and queries are taken apart and
scored. -/
def Move.tunes : Move → Bool
  | .start _ op => op.isTuning
  | _ => false

theorem View.through_append (y : Indexing) (v : View) (past rest : List Event) :
    v.through y s (past ++ rest) = (v.through y s past).through y s rest := by
  simp [through]

theorem Operation.isTuning_of_change? {y : Indexing} {p : Key × Except Error Change}
    (h : op.change? y = some p) : op.isTuning = false := by
  cases op <;> first | rfl | cases h

namespace SharedIndex

section Own

/-- A write that has to wait waits for the change that was tried. -/
theorem Deed.waiting_eq (h : i.Deed s op c? r) (hr : r.1 = .waiting w) :
    c? = some (w.key, w.change) := by
  cases h with
  | plain hop =>
    obtain ⟨a, ha⟩ := start_of_change_none (s := s) hop
    cases ha.symm.trans hr
  | refused => cases hr
  | bound hop hc =>
    unfold writeBound at hr
    split at hr <;> cases hr
    rfl
  | @alone x t j key c hop _ _ _ hn ht hu =>
    rcases writeSingle_cases ht j s key c with ⟨holder, hw⟩ | ⟨a, k, hw, -⟩
    · rw [hw] at hr
      cases hr
      rfl
    · rw [hw] at hr
      cases hr

/-- What comes of a move of a session that has a transaction: it is a whole step, or it is refused
or has to wait, which changes nothing. -/
inductive Own (i : SharedIndex) (s : Session) (op : Operation) : Progress × SharedIndex → Prop
  | step : Own i s op (answered (i.step s op))
  | refused (e : Error) : Own i s op (.answered (.error e), i)
  | waiting (w : Waiting) : Own i s op (.waiting w, i)

theorem own_of_answered (h : i.start s op = (.answered a, j)) :
    i.Own s op (.answered a, j) := by
  have hstep : answered (i.step s op) = (.answered a, j) := congrArg answered (step_of_answered h)
  exact hstep ▸ .step

theorem Deed.own (h : i.Deed s op c? r) (hc : i.registry.current? s = some t)
    (hask : ∀ key c, c? = some (key, c) → op.change? i.indexing = some (key, .ok c)) :
    i.Own s op r := by
  cases h with
  | plain hop =>
    obtain ⟨a, ha⟩ := start_of_change_none (s := s) hop
    have hstart : i.start s op = (.answered a, (i.start s op).2) := Prod.ext ha rfl
    rw [hstart]
    exact own_of_answered hstart
  | refused e => exact .refused e
  | @bound x t' key c _ hc' =>
    cases hc.symm.trans hc'
    have hstart : i.start s op = i.writeBound t s key c := by
      rw [start_of_change_ok (hask key c rfl), startWrite, hc]
    cases hw : i.write t key c with
    | error holder =>
      unfold writeBound
      rw [hw]
      exact .waiting _
    | ok p =>
      unfold writeBound at hstart ⊢
      rw [hw] at hstart ⊢
      exact own_of_answered hstart
  | alone _ _ _ hn => cases hc.symm.trans hn

end Own

end SharedIndex

namespace Scene

variable {x : Scene} {m : Move} {during : List Move}

/-- What a session waits for, if it does, is what its operation asks for. -/
def Asks (x : Scene) (s : Session) : Prop :=
  ∀ {op w}, x.waiting.get? s = some (op, w) →
    op.change? x.index.indexing = some (w.key, .ok w.change)

/-- How a move concerns a session that has a transaction: it is a move of somebody else, a whole
step of the session, or nothing but a refusal comes of it. -/
inductive Concerns (x : Scene) (s : Session) : Option Event → SharedIndex → Prop
  | other {e? : Option Event} {j : SharedIndex} (s' : Session) (op : Operation) : s ≠ s' →
      (∀ e ∈ e?, e.session = s') → x.index.Moved s' op j → Concerns x s e? j
  | step (op : Operation) : op.isEnd = false →
      Concerns x s (some ⟨s, op, (x.index.step s op).1⟩) (x.index.step s op).2
  | idle {e? : Option Event} : (∀ e ∈ e?, e.answer.isOk = false) → Concerns x s e? x.index

section Concerns

theorem Tidy.indexing_take (h : x.Tidy) (hm : m.tunes = false) :
    (x.take m).2.index.indexing = x.index.indexing := by
  cases ht : x.turn? m with
  | none => rw [take_of_none ht]
  | some p =>
    obtain ⟨⟨s, op⟩, r⟩ := p
    rw [take_of_some ht, index_settle]
    refine (h.deed ht).moved.indexing ?_
    rcases h.start_or_write ht with rfl | ⟨y, p, hop⟩
    · exact hm
    · exact Operation.isTuning_of_change? hop

/-- The change that a session tries in a move is the one that its operation asks for. -/
theorem Asks.change?_eq (h : x.Asks s) (ht : x.turn? m = some ((s, op), r))
    (hch : x.change? m = some (key, c)) : op.change? x.index.indexing = some (key, .ok c) := by
  cases m with
  | start s' op' =>
    have hop : op' = op := by
      unfold turn? at ht
      dsimp only at ht
      split at ht
      · cases ht
      · cases ht
        rfl
    subst hop
    change x.index.asked op' = _ at hch
    unfold SharedIndex.asked at hch
    split at hch
    · next hop =>
      cases hch
      exact hop
    · cases hch
  | retry s' =>
    obtain ⟨⟨op', w⟩, hw, he⟩ := Option.map_eq_some_iff.1 ht
    cases he
    simp only [change?, hw, Option.map_some] at hch
    cases hch
    exact h hw
  | giveUp => cases hch

theorem Asks.take (h : x.Asks s) (hx : x.Tidy) (hm : m.tunes = false) :
    (x.take m).2.Asks s := by
  intro op w hw
  rw [hx.indexing_take hm]
  cases ht : x.turn? m with
  | none =>
    rw [take_of_none ht] at hw
    exact h hw
  | some p =>
    obtain ⟨⟨s', op'⟩, r⟩ := p
    rw [take_of_some ht] at hw
    rcases waits_settle x s' op' r hw with ⟨rfl, rfl, hr⟩ | ⟨-, hold⟩
    · exact h.change?_eq ht ((hx.deed ht).waiting_eq hr)
    · exact h hold

theorem asks_of_free (h : x.waiting.get? s = none) : x.Asks s := by
  intro op w hw
  cases h.symm.trans hw

theorem Tidy.concerns (h : x.Tidy) (ha : x.Asks s) (hc : x.index.registry.current? s = some t)
    (hm : m.ends s = false) : x.Concerns s (x.take m).1 (x.take m).2.index := by
  cases ht : x.turn? m with
  | none =>
    rw [take_of_none ht]
    exact .idle fun e he => by cases he
  | some p =>
    obtain ⟨⟨s', op⟩, r⟩ := p
    have hd := h.deed ht
    have hend := h.isEnd_of_ends ht
    rw [take_of_some ht, event_settle, index_settle]
    by_cases hs : s' = s
    · subst hs
      cases hd.own hc fun key c hch => ha.change?_eq ht hch with
      | step => exact .step op (hend hm)
      | refused e =>
        refine .idle fun e he => ?_
        cases he
        rfl
      | waiting w => exact .idle fun e he => by cases he
    · refine .other s' op (fun e => hs e.symm) (fun e he => ?_) hd.moved
      split at he
      · cases he
        rfl
      · cases he

/-- An operation that is answered at once is a whole step. -/
theorem step_of_take (h : (x.take (.start s op)).1 = some ⟨s, op, a⟩) :
    x.index.step s op = (a, (x.take (.start s op)).2.index) := by
  have hw := waiting_of_event h
  rw [take_of_some (turn?_start hw op)] at h ⊢
  rw [index_settle]
  generalize hr : x.index.start s op = r at h ⊢
  obtain ⟨b | w, j⟩ := r
  · cases h
    exact SharedIndex.step_of_answered hr
  · cases h

end Concerns

section Snapshot

/-- A move changes the snapshot of a session by what the session is told to have written. -/
theorem Tidy.inSnapshot_take (h : x.Tidy) (ha : x.Asks s) (hs : x.index.InSnapshot s v u)
    (hm : m.ends s = false) : (x.take m).2.index.InSnapshot s v
      (u.through x.index.indexing s (x.take m).1.toList) := by
  obtain ⟨t, hc, -⟩ := hs.bound
  have hcon := h.concerns ha hc hm
  generalize (x.take m).1 = e? at hcon
  generalize (x.take m).2.index = j at hcon
  cases hcon with
  | other s' op hne he hmoved =>
    have hother : u.through x.index.indexing s e?.toList = u := by
      cases e? with
      | none => rfl
      | some e => simp [View.through, he e rfl, hne.symm]
    exact hother.symm ▸ hs.moved hmoved hne
  | step op hend =>
    have hown := hs.step_own hend
    cases hok : (x.index.step s op).1.isOk with
    | true => simpa [View.through, hok] using hown
    | false => simpa [View.through, hok] using hown
  | idle he =>
    have hidle : u.through x.index.indexing s e?.toList = u := by
      cases e? with
      | none => rfl
      | some e => simp [View.through, he e rfl]
    exact hidle.symm ▸ hs

theorem Tidy.inSnapshot_after (h : x.Tidy) (ha : x.Asks s) (hs : x.index.InSnapshot s v u)
    (hd : ∀ m ∈ during, m.ends s = false ∧ m.tunes = false) :
    (x.after during).index.indexing = x.index.indexing ∧ (x.after during).index.InSnapshot s v
      (u.through x.index.indexing s (x.events during)) := by
  induction during generalizing x u with
  | nil => exact ⟨rfl, hs⟩
  | cons m rest ih =>
    obtain ⟨⟨hend, htune⟩, hrest⟩ := List.forall_mem_cons.1 hd
    have hx := h.indexing_take htune
    obtain ⟨hindexing, hlater⟩ :=
      ih (h.take m) (ha.take h htune) (h.inSnapshot_take ha hs hend) hrest
    rw [hx] at hindexing hlater
    rw [events, View.through_append]
    exact ⟨hindexing, hlater⟩

/-- Whatever moves the others make meanwhile and whoever waits, a serializable transaction reads the
contents at its start with its own successful writes. -/
theorem reads_of_snapshot (o : KeyOrder) (p : Index) (mode : Isolation) (before during : List Move)
    (hm : ((opening o p mode).after before).index.mode = .serializable)
    (hb : (((opening o p mode).after before).take (.start s .begin)).1 =
      some ⟨s, .begin, .ok (.started id)⟩)
    (hd : ∀ m ∈ during, m.ends s = false ∧ m.tunes = false) (hr : op.isRead = true) :
    let x := (opening o p mode).after before
    let y := (x.take (.start s .begin)).2
    let z := y.after during
    z.waiting.get? s = none → ∃ a, (z.take (.start s op)).1 = some ⟨s, op, a⟩ ∧
      View.Answers x.index.indexing
        (View.through x.index.indexing s x.index.store.latest? (y.events during)) op a := by
  intro x y z hw
  have hx : x.Tidy := (tidy_opening o p mode).after before
  have hy : y.Tidy := hx.take _
  have hn : x.index.registry.current? s = none := by
    cases hc : x.index.registry.current? s with
    | none => rfl
    | some t =>
      obtain ⟨e, he⟩ := SharedIndex.step_begin_bound hc
      cases he.symm.trans (step_of_take hb)
  have hbegun : y.index.InSnapshot s x.index.store.latest? x.index.store.latest? := by
    have hopen := SharedIndex.inSnapshot_begin hx.sound hm hn
    rw [step_of_take hb] at hopen
    exact hopen
  obtain ⟨hindexing, hz⟩ := hy.inSnapshot_after (asks_of_free (waiting_of_answer hb)) hbegun hd
  obtain ⟨a, ha, hans⟩ := (hy.after during).answers_start hw hr
  have hxy : y.index.indexing = x.index.indexing := hx.indexing_take rfl
  rw [hz.seen_eq, hindexing, hxy] at hans
  exact ⟨a, ha, hans⟩

theorem reads_of_snapshot_past_commits :
    let card : Card Record := ⟨⟨.empty, none⟩, ⟨"note", [], .empty⟩⟩
    let p := ((Index.ofIndexing .usual).store "k" card).store "l" card
    let renew := fun name => Operation.updateEntry "k" ⟨name, [], .empty⟩
    let during := [Move.start "writer" .begin, .start "writer" (renew "draft"),
      .start "other" (renew "final"), .start "reader" (.remove "l"), .start "writer" .commit,
      .retry "other", .start "admin" .cleanup]
    let x := (opening .given p .serializable).after []
    let y := (x.take (.start "reader" .begin)).2
    let z := y.after during
    x.index.mode = .serializable ∧
      (x.take (.start "reader" .begin)).1 = some ⟨"reader", .begin, .ok (.started 1)⟩ ∧
      (∀ m ∈ during, m.ends "reader" = false ∧ m.tunes = false) ∧
      z.waiting.get? "reader" = none ∧ z.index.store.clock = x.index.store.clock + 2 ∧
      ∃ a, (z.take (.start "reader" (.get "k"))).1 = some ⟨"reader", .get "k", a⟩ ∧
        View.Answers x.index.indexing
          (View.through x.index.indexing "reader" x.index.store.latest? (y.events during))
          (.get "k") a := by
  refine ⟨rfl, rfl, by decide, rfl, rfl, ?_⟩
  exact reads_of_snapshot .given _ .serializable [] _ rfl rfl (by decide) rfl rfl

end Snapshot

section Holds

/-- A move leaves a key held fast, unless the session writes the key. -/
theorem Tidy.holds_take (h : x.Tidy) (ha : x.Asks s) (hs : x.index.Holds s key value)
    (hm : m.ends s = false) (hw : (x.take m).1.toList.filter (Event.writesTo s key) = []) :
    (x.take m).2.index.Holds s key value := by
  obtain ⟨t, hc, -⟩ := hs.bound
  have hcon := h.concerns ha hc hm
  generalize (x.take m).1 = e? at hcon hw
  generalize (x.take m).2.index = j at hcon
  cases hcon with
  | other s' op hne _ hmoved => exact hs.moved hmoved hne
  | step op hend =>
    refine hs.step_own hend fun hk => ?_
    simpa [Event.writesTo, hk] using hw
  | idle => exact hs

theorem Tidy.holds_after (h : x.Tidy) (ha : x.Asks s) (hs : x.index.Holds s key value)
    (hd : ∀ m ∈ during, m.ends s = false ∧ m.tunes = false) (hw : x.writesTo s key during = []) :
    (x.after during).index.indexing = x.index.indexing ∧
      (x.after during).index.Holds s key value := by
  induction during generalizing x with
  | nil => exact ⟨rfl, hs⟩
  | cons m rest ih =>
    obtain ⟨⟨hend, htune⟩, hrest⟩ := List.forall_mem_cons.1 hd
    rw [writesTo_cons, List.append_eq_nil_iff] at hw
    obtain ⟨hindexing, hlater⟩ :=
      ih (h.take m) (ha.take h htune) (h.holds_take ha hs hend hw.1) hrest hw.2
    exact ⟨hindexing.trans (h.indexing_take htune), hlater⟩

/-- Once a repeatable-read transaction has been told what is under a key, it is told so again until
it writes the key itself, whatever moves the others make and whoever waits meanwhile. -/
theorem reads_repeat (o : KeyOrder) (p : Index) (mode : Isolation) (before during : List Move)
    (hc : ((opening o p mode).after before).index.registry.current? s = some t)
    (hl : t.level = .repeatableRead)
    (he : (((opening o p mode).after before).take (.start s op)).1 = some ⟨s, op, a⟩)
    (hr : op.Reveals key a) (hd : ∀ m ∈ during, m.ends s = false ∧ m.tunes = false)
    (hk : op'.looksAt key = true) :
    let x := (opening o p mode).after before
    let y := (x.take (.start s op)).2
    let z := y.after during
    y.writesTo s key during = [] → z.waiting.get? s = none →
      Tells x.index.indexing key (x.index.seen t key) op a ∧
        ∃ b, (z.take (.start s op')).1 = some ⟨s, op', b⟩ ∧
          Tells x.index.indexing key (x.index.seen t key) op' b := by
  intro x y z hown hw
  have hx : x.Tidy := (tidy_opening o p mode).after before
  have hy : y.Tidy := hx.take _
  have hstep := step_of_take he
  have hread := Operation.isRead_of_looksAt hr.looksAt
  have htune : op.isTuning = false := by cases op <;> first | rfl | cases hread
  have first := tells_of_answers (SharedIndex.answers_read hx.sound hread s) hr.looksAt
  rw [SharedIndex.acting_of_some hc, hstep] at first
  have hheld : y.index.Holds s key (x.index.seen t key) := by
    have hreveals : op.Reveals key (x.index.step s op).1 := by
      rw [hstep]
      exact hr
    have hholds := SharedIndex.holds_of_reveals hx.sound hc hl hreveals
    rw [hstep] at hholds
    exact hholds
  obtain ⟨hindexing, hz⟩ := hy.holds_after (asks_of_free (waiting_of_answer he)) hheld hd hown
  obtain ⟨b, hb, hans⟩ :=
    (hy.after during).answers_start hw (Operation.isRead_of_looksAt hk)
  have later := tells_of_answers hans hk
  have hxy : y.index.indexing = x.index.indexing := hx.indexing_take htune
  rw [hz.seen_eq, hindexing, hxy] at later
  exact ⟨first, b, hb, later⟩

theorem reads_repeat_past_commits :
    let card : Card Record := ⟨⟨.empty, none⟩, ⟨"note", [], .empty⟩⟩
    let p := ((Index.ofIndexing .usual).store "k" card).store "l" card
    let renew := fun key name => Operation.updateEntry key ⟨name, [], .empty⟩
    let during := [Move.start "writer" .begin, .start "writer" (renew "k" "draft"),
      .start "writer" (renew "l" "draft"), .start "other" (renew "k" "final"),
      .start "reader" (renew "l" "mine"), .start "writer" .commit, .retry "other",
      .retry "reader", .start "admin" .cleanup]
    let x := (opening .given p .repeatableRead).after [.start "reader" .begin]
    let y := (x.take (.start "reader" (.get "k"))).2
    let z := y.after during
    x.index.registry.current? "reader" = some (.begun 1 .repeatableRead 1) ∧
      (x.take (.start "reader" (.get "k"))).1 =
        some ⟨"reader", .get "k", .ok (.entry (some ⟨"note", [], .empty⟩))⟩ ∧
      (∀ m ∈ during, m.ends "reader" = false ∧ m.tunes = false) ∧
      y.writesTo "reader" "k" during = [] ∧ z.waiting.get? "reader" = none ∧
      z.index.store.clock = x.index.store.clock + 2 ∧
      ∃ b, (z.take (.start "reader" (.search "note"))).1 =
          some ⟨"reader", .search "note", b⟩ ∧
        Tells x.index.indexing "k" (x.index.seen (.begun 1 .repeatableRead 1) "k")
          (.search "note") b := by
  have hreveals : (Operation.get "k").Reveals "k" (.ok (.entry (some ⟨"note", [], .empty⟩))) := rfl
  refine ⟨rfl, rfl, by decide, rfl, rfl, rfl, ?_⟩
  exact (reads_repeat .given _ .repeatableRead [.start "reader" .begin] _ rfl rfl rfl hreveals
    (by decide) rfl rfl rfl).2

end Holds

end Scene

end Cardfile
