import Cardfile.Proofs.View

/-! # The serial order of a history

A transaction that has written stands where it is committed, one that has not where it begins, and
an operation outside all transactions where it is done. What was rolled back or refused is left out.
-/

namespace Cardfile

variable {s : Session} {e : Event} {before after mid : List Event}

/-- Whether an event began a transaction. -/
def Event.opens (e : Event) : Bool :=
  match e.operation with
  | .begin => e.answer.isOk
  | _ => false

/-- Whether an event committed a transaction. -/
def Event.commits (e : Event) : Bool :=
  match e.operation with
  | .commit => e.answer.isOk
  | _ => false

/-- What a session has done in the transaction that it is in, if it is in one. The events are
those before the present, the latest first. -/
def running? (s : Session) : List Event → Option (List Event)
  | [] => none
  | e :: before =>
    if e.session ≠ s then running? s before
    else if e.operation.isEnd then none
    else if e.opens then some []
    else (running? s before).map (· ++ [e].filter Event.counts)

/-- What a session will do in the transaction that it is in, if that will be committed. The events
are those after the present, the earliest first. -/
def committed? (s : Session) : List Event → Option (List Event)
  | [] => none
  | e :: after =>
    if e.session ≠ s then committed? s after
    else if e.operation.isEnd then if e.commits then some [] else none
    else (committed? s after).map ([e].filter Event.counts ++ ·)

/-- The transactions that stand at an event. -/
def standing (before : List Event) (e : Event) (after : List Event) : List (List Event) :=
  if e.opens then ((committed? e.session after).filter (!·.any Event.writes)).toList
  else if e.commits then ((running? e.session before).filter (·.any Event.writes)).toList
  else if e.counts && (running? e.session before).isNone then [[e]]
  else []

def serialAfter (before : List Event) : List Event → List (List Event)
  | [] => []
  | e :: after => standing before e after ++ serialAfter (e :: before) after

/-- The transactions of a history one after the other. -/
def serial (history : List Event) : List (List Event) := serialAfter [] history

section Standing

theorem flatten_filter_some (p : List Event → Bool) (events : List Event) :
    ((some events).filter p).toList.flatten = if p events then events else [] := by
  rw [Option.filter_some]
  split
  · exact List.append_nil _
  · rfl

theorem standing_of_opens (h : e.opens = true) : standing before e after =
    ((committed? e.session after).filter (!·.any Event.writes)).toList :=
  if_pos h

theorem standing_of_commits (h : e.opens = false) (hc : e.commits = true) :
    standing before e after =
      ((running? e.session before).filter (·.any Event.writes)).toList := by
  rw [standing, if_neg (by rw [h]; decide), if_pos hc]

/-- Nothing stands in the middle of a transaction. -/
theorem standing_of_running {past : List Event} (h : e.opens = false) (hc : e.commits = false)
    (hr : running? e.session before = some past) : standing before e after = [] := by
  rw [standing, if_neg (by rw [h]; decide), if_neg (by rw [hc]; decide), hr, if_neg]
  exact fun hand => Bool.noConfusion ((Bool.and_eq_true _ _).mp hand).2

/-- Outside transactions an event stands for itself. -/
theorem standing_of_idle (h : e.opens = false) (hc : e.commits = false)
    (hr : running? e.session before = none) :
    (standing before e after).flatten = [e].filter Event.counts := by
  rw [standing, if_neg (by rw [h]; decide), if_neg (by rw [hc]; decide), hr]
  cases hcount : e.counts with
  | true => rw [List.filter_cons_of_pos hcount]; rfl
  | false => rw [List.filter_cons_of_neg (by rw [hcount]; decide)]; rfl

end Standing

section Own

theorem running?_cons_of_ne (h : e.session ≠ s) : running? s (e :: before) = running? s before :=
  if_pos h

theorem running?_cons_of_isEnd (h : e.operation.isEnd = true) :
    running? e.session (e :: before) = none := by
  rw [running?, if_neg (not_not_intro rfl), if_pos h]

theorem running?_cons_of_opens (he : e.operation.isEnd = false) (h : e.opens = true) :
    running? e.session (e :: before) = some [] := by
  rw [running?, if_neg (not_not_intro rfl), if_neg (by rw [he]; decide), if_pos h]

theorem running?_cons (he : e.operation.isEnd = false) (h : e.opens = false) :
    running? e.session (e :: before) =
      (running? e.session before).map (· ++ [e].filter Event.counts) := by
  rw [running?, if_neg (not_not_intro rfl), if_neg (by rw [he]; decide),
    if_neg (by rw [h]; decide)]

theorem committed?_cons_of_ne (h : e.session ≠ s) :
    committed? s (e :: after) = committed? s after :=
  if_pos h

theorem committed?_cons_of_isEnd (h : e.operation.isEnd = true) :
    committed? e.session (e :: after) = if e.commits then some [] else none := by
  rw [committed?, if_neg (not_not_intro rfl), if_pos h]

theorem committed?_cons (he : e.operation.isEnd = false) :
    committed? e.session (e :: after) =
      (committed? e.session after).map ([e].filter Event.counts ++ ·) := by
  rw [committed?, if_neg (not_not_intro rfl), if_neg (by rw [he]; decide)]

end Own

section Whole

/-- The part of a session in some events. -/
def own (s : Session) (events : List Event) : List Event :=
  events.filter fun e => e.session = s && e.counts

theorem own_cons_of_ne (h : e.session ≠ s) (events : List Event) :
    own s (e :: events) = own s events :=
  List.filter_cons_of_neg (by simp [h])

theorem own_cons (e : Event) (events : List Event) :
    own e.session (e :: events) = [e].filter Event.counts ++ own e.session events := by
  unfold own
  cases h : e.counts <;> simp [h]

theorem committed?_append (hm : ∀ e ∈ mid, e.session = s → e.operation.isEnd = false) :
    committed? s (mid ++ after) = (committed? s after).map (own s mid ++ ·) := by
  induction mid with
  | nil => simp [own]
  | cons e mid ih =>
    have hrest := ih fun e he => hm e (List.mem_cons_of_mem _ he)
    by_cases hs : e.session = s
    · subst hs
      rw [List.cons_append, committed?_cons (hm e List.mem_cons_self rfl), hrest, own_cons,
        Option.map_map]
      congr 1
      funext rest
      exact (List.append_assoc ..).symm
    · rw [List.cons_append, committed?_cons_of_ne hs, hrest, own_cons_of_ne hs]

theorem running?_append (hm : ∀ e ∈ mid, e.session = s →
    e.operation.isEnd = false ∧ e.opens = false) :
    running? s (mid.reverse ++ before) = (running? s before).map (· ++ own s mid) := by
  induction mid generalizing before with
  | nil => simp [own]
  | cons e mid ih =>
    have hrest : running? s (mid.reverse ++ e :: before) = _ :=
      ih fun e he => hm e (List.mem_cons_of_mem _ he)
    rw [List.reverse_cons, List.append_assoc, List.singleton_append, hrest]
    by_cases hs : e.session = s
    · subst hs
      obtain ⟨hend, hopen⟩ := hm e List.mem_cons_self rfl
      rw [running?_cons hend hopen, own_cons, Option.map_map]
      congr 1
      funext done
      exact List.append_assoc ..
    · rw [running?_cons_of_ne hs, own_cons_of_ne hs]

/-- A transaction is the same whether it is looked at from its begin or from its commit. -/
theorem running?_eq_committed? {b c : Event} (hb : b.opens = true) (hc : c.commits = true)
    (hs : c.session = b.session)
    (hm : ∀ e ∈ mid, e.session = b.session → e.operation.isEnd = false ∧ e.opens = false) :
    running? b.session (mid.reverse ++ b :: before) = some (own b.session mid) ∧
      committed? b.session (mid ++ c :: after) = some (own b.session mid) := by
  have hbend : b.operation.isEnd = false := by
    unfold Event.opens at hb
    split at hb
    · next h => rw [h]; rfl
    · cases hb
  have hcend : c.operation.isEnd = true := by
    unfold Event.commits at hc
    split at hc
    · next h => rw [h]; rfl
    · cases hc
  rw [running?_append hm, running?_cons_of_opens hbend hb,
    committed?_append fun e he h => (hm e he h).1, ← hs, committed?_cons_of_isEnd hcend, if_pos hc]
  exact ⟨rfl, congrArg some (List.append_nil _)⟩

end Whole

section Complete

/-- No session begins a transaction while it is in one. -/
def Sequential (before : List Event) : List Event → Prop
  | [] => True
  | e :: after =>
    (e.opens = true → running? e.session before = none) ∧ Sequential (e :: before) after

/-- What a session did that lasts: outside transactions, or in one that is committed. -/
def lasting (s : Session) (before : List Event) : List Event → List Event
  | [] => []
  | e :: after =>
    (if e.session = s && ((running? s before).isNone || (committed? s after).isSome) then
      [e].filter Event.counts
    else []) ++ lasting s (e :: before) after

/-- The part of a session in the serial order from some point on. -/
def ordered (s : Session) (before after : List Event) : List Event :=
  (serialAfter before after).flatten.filter (·.session = s)

theorem session_of_running? {past : List Event} (h : running? s before = some past) :
    ∀ e ∈ past, e.session = s := by
  induction before generalizing past with
  | nil => cases h
  | cons e before ih =>
    unfold running? at h
    split at h
    · exact ih h
    · next hs =>
      split at h
      · cases h
      · split at h
        · cases h
          exact fun _ hm => absurd hm List.not_mem_nil
        · obtain ⟨past, hp, rfl⟩ := Option.map_eq_some_iff.1 h
          intro d hd
          rcases List.mem_append.1 hd with hd | hd
          · exact ih hp d hd
          · rw [List.mem_singleton.1 (List.mem_filter.1 hd).1]
            exact not_not.1 hs

theorem session_of_committed? {future : List Event} (h : committed? s after = some future) :
    ∀ e ∈ future, e.session = s := by
  induction after generalizing future with
  | nil => cases h
  | cons e after ih =>
    unfold committed? at h
    split at h
    · exact ih h
    · next hs =>
      split at h
      · split at h
        · cases h
          exact fun _ hm => absurd hm List.not_mem_nil
        · cases h
      · obtain ⟨future, hf, rfl⟩ := Option.map_eq_some_iff.1 h
        intro d hd
        rcases List.mem_append.1 hd with hd | hd
        · rw [List.mem_singleton.1 (List.mem_filter.1 hd).1]
          exact not_not.1 hs
        · exact ih hf d hd

theorem filter_session {events : List Event} (h : ∀ e ∈ events, e.session = s) :
    events.filter (·.session = s) = events :=
  List.filter_eq_self.2 fun e he => decide_eq_true (h e he)

/-- What stands at an event was done by the session of the event. -/
theorem session_of_standing {d : Event} (h : d ∈ (standing before e after).flatten) :
    d.session = e.session := by
  obtain ⟨events, hm, hd⟩ := List.mem_flatten.1 h
  unfold standing at hm
  split at hm
  · have hc := (Option.filter_eq_some_iff.1 (Option.mem_toList.1 hm)).1
    exact session_of_committed? hc d hd
  · split at hm
    · have hr := (Option.filter_eq_some_iff.1 (Option.mem_toList.1 hm)).1
      exact session_of_running? hr d hd
    · split at hm
      · rw [List.mem_singleton.1 hm] at hd
        rw [List.mem_singleton.1 hd]
      · exact absurd hm List.not_mem_nil

theorem ordered_cons : ordered s before (e :: after) =
    (standing before e after).flatten.filter (·.session = s) ++ ordered s (e :: before) after := by
  unfold ordered
  rw [serialAfter, List.flatten_append, List.filter_append]

theorem ordered_cons_of_ne (h : e.session ≠ s) :
    ordered s before (e :: after) = ordered s (e :: before) after := by
  rw [ordered_cons, List.filter_eq_nil_iff.2, List.nil_append]
  intro d hd
  rw [session_of_standing hd, decide_eq_true_eq]
  exact h

theorem lasting_cons_of_ne (h : e.session ≠ s) :
    lasting s before (e :: after) = lasting s (e :: before) after := by
  rw [lasting, decide_eq_false h]
  rfl

theorem lasting_cons : lasting e.session before (e :: after) =
    (if (running? e.session before).isNone || (committed? e.session after).isSome then
      [e].filter Event.counts
    else []) ++ lasting e.session (e :: before) after := by
  rw [lasting, decide_eq_true rfl, Bool.true_and]

/-- How the part of a session in the serial order goes with what lasts. A transaction in progress
brings along what it has done if it writes, and has been placed with all that it will do if not. -/
structure Fits (s : Session) (before after : List Event) : Prop where
  apart : running? s before = none ∨ committed? s after = none →
    ordered s before after = lasting s before after
  writer : ∀ past future, running? s before = some past → committed? s after = some future →
    (past ++ future).any Event.writes = true →
    ordered s before after = past ++ lasting s before after
  reader : ∀ past future, running? s before = some past → committed? s after = some future →
    (past ++ future).any Event.writes = false →
    lasting s before after = future ++ ordered s before after

theorem fits_nil : Fits s before [] where
  apart _ := rfl
  writer _ _ _ hc := by cases hc
  reader _ _ _ hc := by cases hc

theorem Fits.cons_of_ne (h : Fits s (e :: before) after) (hs : e.session ≠ s) :
    Fits s before (e :: after) := by
  have hr : running? s (e :: before) = running? s before := running?_cons_of_ne hs
  have hc : committed? s (e :: after) = committed? s after := committed?_cons_of_ne hs
  constructor
  · rw [ordered_cons_of_ne hs, lasting_cons_of_ne hs, hc, ← hr]
    exact h.apart
  · rw [ordered_cons_of_ne hs, lasting_cons_of_ne hs, hc, ← hr]
    exact h.writer
  · rw [ordered_cons_of_ne hs, lasting_cons_of_ne hs, hc, ← hr]
    exact h.reader

theorem isData_of_isEnd {op : Operation} (h : op.isEnd = true) : op.isData = false := by
  cases op <;> first | rfl | cases h

theorem filter_counts_of_isData (h : e.operation.isData = false) :
    [e].filter Event.counts = [] := by
  have hc : e.counts = false := by unfold Event.counts; rw [h]; rfl
  exact List.filter_cons_of_neg (by rw [hc]; decide)

theorem opens_of_isEnd (h : e.operation.isEnd = true) : e.opens = false := by
  unfold Event.opens
  split
  · next hop => rw [hop] at h; cases h
  · rfl

theorem commits_of_isEnd (h : e.operation.isEnd = false) : e.commits = false := by
  unfold Event.commits
  split
  · next hop => rw [hop] at h; cases h
  · rfl

theorem isData_of_opens (h : e.opens = true) : e.operation.isData = false := by
  unfold Event.opens at h
  split at h
  · next hop => rw [hop]; rfl
  · cases h

theorem isEnd_of_opens (h : e.opens = true) : e.operation.isEnd = false := by
  unfold Event.opens at h
  split at h
  · next hop => rw [hop]; rfl
  · cases h

theorem standing_of_isEnd (he : e.operation.isEnd = true) (hc : e.commits = false) :
    standing before e after = [] := by
  have hcount : e.counts = false := by
    unfold Event.counts
    rw [isData_of_isEnd he]
    rfl
  rw [standing, opens_of_isEnd he, hc, hcount]
  rfl

theorem Fits.cons_of_isEnd (h : Fits e.session (e :: before) after)
    (he : e.operation.isEnd = true) : Fits e.session before (e :: after) := by
  have hnext := h.apart (.inl (running?_cons_of_isEnd he))
  have hlast : lasting e.session before (e :: after) = lasting e.session (e :: before) after := by
    rw [lasting_cons, filter_counts_of_isData (isData_of_isEnd he), ite_self, List.nil_append]
  cases hcom : e.commits with
  | false =>
    have hc : committed? e.session (e :: after) = none := by
      rw [committed?_cons_of_isEnd he, hcom]
      rfl
    refine ⟨fun _ => ?_, fun _ _ _ hf => ?_, fun _ _ _ hf => ?_⟩
    · rw [ordered_cons, standing_of_isEnd he hcom, hlast, hnext]
      rfl
    · rw [hc] at hf; cases hf
    · rw [hc] at hf; cases hf
  | true =>
    have hc : committed? e.session (e :: after) = some [] := by
      rw [committed?_cons_of_isEnd he, hcom]
      rfl
    have hstand : standing before e after = _ := standing_of_commits (opens_of_isEnd he) hcom
    refine ⟨fun hor => ?_, fun past future hr hf hw => ?_, fun past future hr hf hw => ?_⟩
    · rw [hc] at hor
      rcases hor with hr | hn
      · rw [ordered_cons, hstand, hr, hlast, hnext]
        rfl
      · cases hn
    · cases hc.symm.trans hf
      rw [List.append_nil] at hw
      rw [ordered_cons, hstand, hr, flatten_filter_some, hw, hlast, hnext, if_pos rfl,
        filter_session (session_of_running? hr)]
    · cases hc.symm.trans hf
      rw [List.append_nil] at hw
      rw [ordered_cons, hstand, hr, flatten_filter_some, hw, hlast, hnext]
      rfl

theorem Fits.cons_of_opens (h : Fits e.session (e :: before) after) (ho : e.opens = true)
    (hr : running? e.session before = none) : Fits e.session before (e :: after) := by
  have hrun : running? e.session (e :: before) = some [] :=
    running?_cons_of_opens (isEnd_of_opens ho) ho
  have hlast : lasting e.session before (e :: after) = lasting e.session (e :: before) after := by
    rw [lasting_cons, filter_counts_of_isData (isData_of_opens ho), ite_self, List.nil_append]
  refine ⟨fun _ => ?_, fun _ _ hp => ?_, fun _ _ hp => ?_⟩
  · rw [ordered_cons, standing_of_opens ho, hlast]
    cases hc : committed? e.session after with
    | none => exact h.apart (.inr hc)
    | some future =>
      rw [flatten_filter_some]
      cases hw : future.any Event.writes with
      | true => exact h.writer [] future hrun hc hw
      | false =>
        rw [h.reader [] future hrun hc hw]
        exact congrArg (· ++ _) (filter_session (session_of_committed? hc))
  · rw [hr] at hp; cases hp
  · rw [hr] at hp; cases hp

theorem Fits.cons_of_middle (h : Fits e.session (e :: before) after)
    (he : e.operation.isEnd = false) (ho : e.opens = false) :
    Fits e.session before (e :: after) := by
  have hcom := commits_of_isEnd he
  have hrun : running? e.session (e :: before) = _ := running?_cons he ho
  have hc : committed? e.session (e :: after) = _ := committed?_cons he
  cases hr : running? e.session before with
  | none =>
    rw [hr] at hrun
    refine ⟨fun _ => ?_, fun _ _ hp => ?_, fun _ _ hp => ?_⟩
    · rw [ordered_cons, standing_of_idle ho hcom hr, lasting_cons, hr, h.apart (.inl hrun)]
      exact congrArg (· ++ _) (filter_session fun d hd =>
        congrArg _ (List.mem_singleton.1 (List.mem_filter.1 hd).1))
    · rw [hr] at hp; cases hp
    · rw [hr] at hp; cases hp
  | some past =>
    rw [hr] at hrun
    have hord : ordered e.session before (e :: after) = ordered e.session (e :: before) after := by
      rw [ordered_cons, standing_of_running ho hcom hr]
      rfl
    cases hf : committed? e.session after with
    | none =>
      rw [hf] at hc
      refine ⟨fun _ => ?_, fun _ _ _ hp => ?_, fun _ _ _ hp => ?_⟩
      · rw [hord, h.apart (.inr hf), lasting_cons, hr, hf]
        rfl
      · rw [hc] at hp; cases hp
      · rw [hc] at hp; cases hp
    | some future =>
      rw [hf] at hc
      have hlast : lasting e.session before (e :: after) =
          [e].filter Event.counts ++ lasting e.session (e :: before) after := by
        rw [lasting_cons, hf]
        simp
      refine ⟨fun hor => ?_, fun past' future' hp hp' hw => ?_, fun past' future' hp hp' hw => ?_⟩
      · rw [hr, hc] at hor
        rcases hor with hn | hn <;> cases hn
      · cases hr.symm.trans hp
        cases hc.symm.trans hp'
        rw [hord, hlast, ← List.append_assoc]
        exact h.writer _ future hrun hf (by rw [List.append_assoc]; exact hw)
      · cases hr.symm.trans hp
        cases hc.symm.trans hp'
        rw [hord, hlast, List.append_assoc]
        exact congrArg _ (h.reader _ future hrun hf (by rw [List.append_assoc]; exact hw))

theorem fits (h : Sequential before after) (s : Session) : Fits s before after := by
  induction after generalizing before with
  | nil => exact fits_nil
  | cons e after ih =>
    obtain ⟨hopen, hrest⟩ := h
    have hnext := ih hrest
    by_cases hs : e.session = s
    · subst hs
      cases he : e.operation.isEnd with
      | true => exact hnext.cons_of_isEnd he
      | false =>
        cases ho : e.opens with
        | true => exact hnext.cons_of_opens ho (hopen ho)
        | false => exact hnext.cons_of_middle he ho
    · exact hnext.cons_of_ne hs

/-- In the serial order each session finds what it did that lasts, as it did it. -/
theorem filter_serial {history : List Event} (h : Sequential [] history) (s : Session) :
    (serial history).flatten.filter (·.session = s) = lasting s [] history :=
  (fits h s).apart (.inl rfl)

end Complete

end Cardfile
