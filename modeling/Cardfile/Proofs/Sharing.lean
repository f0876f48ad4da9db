import Cardfile.Proofs.Arrival
import Cardfile.Proofs.Cabinet
import Cardfile.Proofs.Serializability

/-! # Sharing an index

An index that is shared begins with one commit of all its cards, in the order of their slots.
Whoever reads it from then on is answered as the index answered before it was shared, with the hits
of a search in the same order, although slots have been given out anew.
-/

namespace Cardfile

/-- The same answer but for the numbers that break ties among hits. -/
def Answer.Shows : Answer → Answer → Prop
  | .ok (.hits hits), .ok (.hits found) => hits.map Hit.content = found.map Hit.content
  | a, b => a = b

namespace Roster

variable {x : Indexing} {query : List TermSet} {m : Roster} {hits found : List (Hit Record)}
  {op : Operation} {a b : Answer}

/-- What a hit shows of itself stands before what another shows. -/
def Before (m : Roster) (c d : Key × Record × Relevance) : Prop :=
  d.2.2.matched < c.2.2.matched ∨ d.2.2.matched = c.2.2.matched ∧
    (d.2.2.rating.rank < c.2.2.rating.rank ∨ d.2.2.rating.rank = c.2.2.rating.rank ∧
      m.keys.idxOf c.1 < m.keys.idxOf d.1)

/-- A roster leaves no choice in which order hits stand. -/
theorem Lists.content_eq (h : Lists x query m hits) (h' : Lists x query m found) :
    hits.map Hit.content = found.map Hit.content := by
  have horder : (hits.map Hit.content).Pairwise m.Before := List.pairwise_map.2 h.order
  have horder' : (found.map Hit.content).Pairwise m.Before := List.pairwise_map.2 h'.order
  refine (h.content.perm h'.content).eq_of_pairwise (fun c d _ _ hcd hdc => ?_) horder horder'
  unfold Before at hcd hdc
  omega

theorem Answers.shows (h : Answers x m op a) (h' : Answers x m op b) : a.Shows b := by
  have same : ∀ {c : Answer}, c.Shows c := by
    intro c
    obtain e | ⟨⟨⟩ | id | found | hits | count⟩ := c <;> rfl
  cases op with
  | search query =>
    obtain ⟨hits, rfl, hh⟩ := h
    obtain ⟨found, rfl, hf⟩ := h'
    exact hh.content_eq hf
  | _ =>
    have ha : a = _ := h
    have hb : b = _ := h'
    rw [ha, hb]
    exact same

theorem forall₂_shows {ops : List Operation} {as bs : List Answer}
    (h : List.Forall₂ (Answers x m) ops as) (h' : List.Forall₂ (Answers x m) ops bs) :
    List.Forall₂ Answer.Shows as bs := by
  induction h generalizing bs with
  | nil =>
    cases h'
    exact .nil
  | cons ha _ ih =>
    cases h' with
    | cons hb hrest => exact .cons (ha.shows hb) (ih hrest)

end Roster

namespace Index

variable {i : Index} {m : Roster}

theorem Keeps.cleanup (h : i.Keeps m) : i.cleanup.Keeps m :=
  ⟨h.sound.cleanup, h.cards, h.increasing⟩

theorem perform_eq_act (i : Index) (op : Operation) :
    (i.perform op).2 = i ∨ (i.perform op).2 = (i.act op).2 := by
  cases op with
  | remove key =>
    right
    unfold perform act kept
    dsimp only
    cases i.remove key <;> rfl
  | clear | cleanup => exact .inl rfl
  | _ => exact .inr rfl

/-- Whatever has been done with an index, its slots increase with the order of its keys. -/
theorem Reachable.keeps (h : i.Reachable) : ∃ m, i.Keeps m := by
  induction h with
  | fresh x => exact ⟨.empty, keeps_ofIndexing x⟩
  | tuned _ x ih =>
    obtain ⟨m, hk⟩ := ih
    exact ⟨m, ⟨hk.sound.slot_lt, hk.sound.slot_inj, hk.sound.posted⟩, hk.cards, hk.increasing⟩
  | @performed i _ op ih =>
    obtain ⟨m, hk⟩ := ih
    rcases i.perform_eq_act op with he | he
    · exact ⟨m, he.symm ▸ hk⟩
    · exact ⟨_, he.symm ▸ (follows_act hk op).keeps⟩
  | @cleared i _ _ => exact ⟨.empty, keeps_ofIndexing i.indexing⟩
  | cleaned _ ih =>
    obtain ⟨m, hk⟩ := ih
    exact ⟨m, hk.cleanup⟩

theorem Reachable.act (h : i.Reachable) (op : Operation) : (i.act op).2.Reachable := by
  cases op with
  | clear => exact h.cleared
  | cleanup => exact h.cleaned
  | remove key =>
    have hsame : (i.act (.remove key)).2 = (i.perform (.remove key)).2 := by
      unfold Index.act perform kept
      dsimp only
      cases i.remove key <;> rfl
    exact hsame ▸ h.performed (.remove key)
  | _ => exact h.performed _

theorem Keeps.size_eq (h : i.Keeps m) : m.size = i.size := by
  rw [← h.cards, Dict.size_map]
  rfl

/-- Reading an index gives what its roster says and changes nothing. -/
theorem Keeps.perform_read (h : i.Keeps m) {op : Operation} (hr : op.isRead = true) :
    Roster.Answers i.indexing m op (i.perform op).1 ∧ (i.perform op).2 = i := by
  have hf := (follows_act h op).answers
  cases op with
  | get key => exact ⟨hf, rfl⟩
  | search query => exact ⟨hf, rfl⟩
  | _ => cases hr

theorem Keeps.performAll (h : i.Keeps m) {ops : List Operation}
    (hr : ∀ op ∈ ops, op.isRead = true) :
    List.Forall₂ (Roster.Answers i.indexing m) ops (i.performAll ops).1 := by
  induction ops with
  | nil => exact .nil
  | cons op rest ih =>
    obtain ⟨hop, hrest⟩ := List.forall_mem_cons.1 hr
    obtain ⟨ha, hi⟩ := h.perform_read hop
    have hstep : (i.performAll (op :: rest)).1 =
        (i.perform op).1 :: ((i.perform op).2.performAll rest).1 := rfl
    rw [hstep, hi]
    exact .cons ha (ih hrest)

end Index

namespace Cabinet

variable {c : Cabinet}

/-- The states that a cabinet can come to; what it makes of records and queries may be set anew. -/
inductive Reachable : Cabinet → Prop
  | fresh (x : Indexing) : Reachable (ofIndexing x)
  | tuned {c : Cabinet} : Reachable c → ∀ x, Reachable { c with indexing := x }
  | acted {c : Cabinet} : Reachable c → ∀ op, Reachable (c.act op).2

theorem Reachable.merges (h : c.Reachable) : ∃ i m, i.Reachable ∧ i.Keeps m ∧ c.Merges i := by
  induction h with
  | fresh x =>
    exact ⟨.ofIndexing x, .empty, .fresh x, Index.keeps_ofIndexing x, merges_ofIndexing x⟩
  | tuned _ x ih =>
    obtain ⟨i, m, hi, hk, hm⟩ := ih
    have hs : Index.Sound { i with indexing := x } :=
      ⟨hk.sound.slot_lt, hk.sound.slot_inj, hk.sound.posted⟩
    exact ⟨_, m, hi.tuned x, ⟨hs, hk.cards, hk.increasing⟩,
      ⟨rfl, hm.postings, hm.nextSlot, hm.splits⟩⟩
  | acted _ op ih =>
    obtain ⟨i, m, hi, hk, hm⟩ := ih
    exact ⟨_, _, hi.act op, (Index.follows_act hk op).keeps, (hm.act hk op).merges⟩

end Cabinet

namespace SharedIndex

variable {i : SharedIndex} {s : Session} {x : Indexing} {m : Roster} {o : KeyOrder} {p : Index}
  {t : Transaction Record} {query : List TermSet} {op : Operation}
  {steps : List (Session × Operation)}

section Cabinet

/-- The order of the slots is that in which the keys came in. -/
theorem ofCabinet_eq {c : Cabinet} (h : c.Merges p) (hp : (Index.slots p.cards).Pairwise (· < ·))
    (o : KeyOrder) : ofCabinet o c = ofIndex o p := by
  have hsorted : c.cards.entries.mergeSort (fun a b => a.1 ≤ b.1) = c.cards.entries := by
    refine List.mergeSort_of_pairwise ?_
    rw [h.splits.filed, List.pairwise_map]
    exact (List.pairwise_map.1 hp).imp fun hlt => decide_eq_true (Nat.le_of_lt hlt)
  have hwrites : (c.cards.entries.map fun e => ((e.2.key, some e.2.contents) : Write Record)) =
      p.cards.entries.map fun e => (e.1, some e.2.card) := by
    rw [h.splits.filed, List.map_map]
    rfl
  unfold ofCabinet ofIndex
  rw [hsorted, h.indexing]
  dsimp only
  rw [hwrites]

/-- A cabinet that is shared is the same as its index that is shared. -/
theorem exists_ofCabinet_eq {c : Cabinet} (h : c.Reachable) (o : KeyOrder) :
    ∃ p, p.Reachable ∧ c.Merges p ∧ ofCabinet o c = ofIndex o p := by
  obtain ⟨p, m, hp, hk, hm⟩ := h.merges
  exact ⟨p, hp, hm, ofCabinet_eq hm hk.increasing o⟩

end Cabinet

section Stocks

/-- An index that nobody is writing to, with the roster of what is committed. -/
structure Stocks (i : SharedIndex) (x : Indexing) (m : Roster) : Prop where
  sound : i.store.Sound
  indexing : i.indexing = x
  mode : i.mode = .readCommitted
  idle : ∀ s, i.registry.current? s = none
  contents : i.store.latest? = m.get?
  arrived : i.store.Arrived m.keys

theorem stocks_ofIndex (h : p.Keeps m) (o : KeyOrder) : (ofIndex o p).Stocks p.indexing m := by
  have hregistry := registry_ofIndex o p
  refine ⟨sound_ofIndex o p, indexing_ofIndex o p, ?_, fun s => ?_, ?_, ?_⟩
  · obtain ⟨store, he⟩ := ofIndex_cases o p
    rw [he]
    rfl
  · rw [hregistry]
    rfl
  · rw [latest?_ofIndex, h.view_eq]
  · rw [h.keys_eq]
    exact arrived_ofIndex o p

theorem Stocks.size_eq (h : i.Stocks x m) : i.size = m.size := by
  have hlength : i.store.liveCount = m.keys.length := by
    refine VersionStore.liveCount_eq_length m.nodup_keys fun key => ?_
    rw [h.contents, Dict.mem_keys_iff]
  rw [Dict.keys, List.length_map] at hlength
  exact hlength

/-- Outside transactions everybody sees what is committed. -/
theorem Stocks.seen_eq (h : i.Stocks x m) (s : Session) : i.seen (i.acting s) = m.get? := by
  have hl : i.single.1.level = .readCommitted := by
    have hs : i.single.1.level = i.mode.single := rfl
    rw [hs, h.mode]
    rfl
  rw [acting_of_none (h.idle s), ← h.contents]
  funext key
  unfold seen committedOrDirty
  rw [hl]
  rfl

/-- Hits of a transaction that sees a roster are listed as the roster has them. -/
theorem lists_search (hs : i.store.Sound) (ha : i.store.Arrived m.keys)
    (hseen : i.seen t = m.get?) :
    Roster.Lists i.indexing query m (i.search t query).1 where
  content := hseen ▸ hitsIn_search hs t query
  order := by
    have hhits : HitsIn i.indexing query m.get? (i.search t query).1 :=
      hseen ▸ hitsIn_search hs t query
    have hscores := Hit.pairwise_ranked (i.foundHits t query)
    refine (hscores.and (search_in_order ha hs t query)).imp_of_mem fun {a b} _ hb ⟨hle, htie⟩ => ?_
    have hkey : b.key ∈ m.keys := by
      obtain ⟨card, hcard, -⟩ := (hhits.mem_iff _ _ _).1 (List.mem_map_of_mem hb)
      exact Dict.mem_keys_iff.2 ⟨card, hcard⟩
    rcases Relevance.lt_or_eq_of_le hle with hlt | ⟨heq, hlt | ⟨hrank, hback⟩⟩
    · exact .inl hlt
    · exact .inr ⟨heq, .inl hlt⟩
    · exact .inr ⟨heq, .inr ⟨hrank, htie (Relevance.le_antisymm hback hle) hkey⟩⟩

theorem Stocks.answers_read (h : i.Stocks x m) (hr : op.isRead = true) (s : Session) :
    Roster.Answers x m op (i.step s op).1 := by
  have hseen := h.seen_eq s
  cases op with
  | get key =>
    have hget := step_get i s key
    rw [hseen] at hget
    exact hget
  | search query =>
    rw [← h.indexing]
    rcases i.step_search_cases s query with ⟨hq, ha⟩ | ha
    · refine ⟨[], ha, ?_, .nil⟩
      rw [hq]
      exact hitsIn_nil_query
    · exact ⟨_, ha, lists_search h.sound h.arrived hseen⟩
  | _ => cases hr

theorem Stocks.step_read (h : i.Stocks x m) (hr : op.isRead = true) (s : Session) :
    (i.step s op).2.Stocks x m := by
  have quiet : ∀ {α : Type} (look : SharedIndex → Transaction Record → α × Transaction Record),
      (i.read s look).2.Stocks x m := by
    intro α look
    have hq := quiet_read i s look
    refine ⟨hq.store ▸ h.sound, hq.indexing.trans h.indexing, hq.mode.trans h.mode,
      fun s' => ?_, hq.store ▸ h.contents, hq.store ▸ h.arrived⟩
    by_cases hs : s' = s
    · subst hs
      rw [current?_read, h.idle]
      rfl
    · rw [hq.others s' hs]
      exact h.idle s'
  cases op with
  | get key => exact quiet fun i t => i.get t key
  | search query =>
    rw [step_search]
    split
    · exact h
    · exact quiet _
  | _ => cases hr

/-- Reads of all sessions are answered by the roster, and nothing changes. -/
theorem Stocks.run (h : i.Stocks x m) (hr : ∀ st ∈ steps, st.2.isRead = true) :
    List.Forall₂ (Roster.Answers x m) (steps.map Prod.snd) (i.run steps).1 ∧
      (i.run steps).2.Stocks x m := by
  induction steps generalizing i with
  | nil => exact ⟨.nil, h⟩
  | cons st rest ih =>
    obtain ⟨s, op⟩ := st
    obtain ⟨hop, hrest⟩ := List.forall_mem_cons.1 hr
    obtain ⟨hanswers, hlast⟩ := ih (h.step_read hop s) hrest
    rw [run_cons]
    exact ⟨.cons (h.answers_read hop s) hanswers, hlast⟩

/-- An index that is shared has as many cards as before, and whoever reads it, in any session and as
often as he likes, is answered what the index answered before: the same entry for a key, and for a
query the same hits in the same order. -/
theorem reads_of_shared (hp : p.Reachable) (o : KeyOrder)
    (hr : ∀ st ∈ steps, st.2.isRead = true) :
    (ofIndex o p).size = p.size ∧ ((ofIndex o p).run steps).2.size = p.size ∧
      List.Forall₂ Answer.Shows ((ofIndex o p).run steps).1
        (p.performAll (steps.map Prod.snd)).1 := by
  obtain ⟨m, hk⟩ := hp.keeps
  have hshared := stocks_ofIndex hk o
  obtain ⟨hanswers, hlast⟩ := hshared.run hr
  refine ⟨hshared.size_eq.trans hk.size_eq, hlast.size_eq.trans hk.size_eq, ?_⟩
  refine Roster.forall₂_shows hanswers (hk.performAll fun op hop => ?_)
  obtain ⟨st, hst, rfl⟩ := List.mem_map.1 hop
  exact hr st hst

theorem reads_of_shared_after_removal :
    let note : Record := ⟨"note", [], .ofList [("text", .text "x")]⟩
    let p := Index.ofIndexing (Indexing.usual.register "note" ⟨["text"], none⟩)
    let q := ([.add "a" note note, .add "b" note note, .add "c" note note, .remove "a",
      .add "a" note note, .updateEntry "b" note] : List Operation).foldl
        (fun i op => (i.perform op).2) p
    let steps : List (Session × Operation) := [("s", .search "x"), ("t", .get "a")]
    q.Reachable ∧ (∀ st ∈ steps, st.2.isRead = true) ∧ (ofIndex .sorted q).size = q.size ∧
      List.Forall₂ Answer.Shows ((ofIndex .sorted q).run steps).1
        (q.performAll (steps.map Prod.snd)).1 := by
  intro note p q steps
  have hq : q.Reachable :=
    ((((((Index.Reachable.fresh _).performed _).performed _).performed _).performed _).performed
      _).performed _
  have hr : ∀ st ∈ steps, st.2.isRead = true := by decide
  have h := reads_of_shared hq .sorted hr
  exact ⟨hq, hr, h.1, h.2.2⟩

end Stocks

end SharedIndex

end Cardfile
