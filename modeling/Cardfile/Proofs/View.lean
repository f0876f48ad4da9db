import Cardfile.Proofs.Lineage
import Cardfile.SharedIndex.Session
import Mathlib.Data.List.Nodup
import Mathlib.Logic.Function.Basic

/-! # Views

A view says what is under each key and nothing else about an index. What operations answer and
leave behind is given here for views alone, without postings, versions and other sessions.
-/

namespace Cardfile

section Relevance

variable {s : Scorer} {query : List TermSet} {terms : TermSet} {a b c : Relevance}

theorem Scorer.exists_of_score {rating : Real64} {r : Relevance}
    (h : s.score query terms rating = some r) :
    ∃ group ∈ query, ∃ term ∈ group.toList, term ∈ terms.toList := by
  have hn : Scorer.matched query terms ≠ 0 := by
    intro h0
    simp [score, h0] at h
  obtain ⟨group, hg, hm⟩ := List.countP_pos_iff.1 (Nat.pos_of_ne_zero hn)
  exact ⟨group, hg, OrderedSet.meets_iff.1 hm⟩

theorem Relevance.le_iff :
    a.le b = true ↔ a.matched < b.matched ∨ (a.matched = b.matched ∧ a.rating.rank ≤ b.rating.rank) := by
  simp [le]

theorem Relevance.le_total (a b : Relevance) : a.le b = true ∨ b.le a = true := by
  rw [le_iff, le_iff]
  omega

theorem Relevance.le_trans (hab : a.le b = true) (hbc : b.le c = true) : a.le c = true := by
  rw [le_iff] at *
  omega

theorem Relevance.lt_or_eq_of_le (h : a.le b = true) :
    a.matched < b.matched ∨ a.matched = b.matched ∧
      (a.rating.rank < b.rating.rank ∨ a.rating.rank = b.rating.rank ∧ b.le a = true) := by
  rw [le_iff] at *
  omega

theorem Real64.eq_of_rank {x y : Real64} (h : x.rank = y.rank) : x = y := by
  obtain ⟨negative, magnitude⟩ := x
  obtain ⟨negative', magnitude'⟩ := y
  cases negative <;> cases negative' <;> simp [rank] at h ⊢ <;> omega

theorem Relevance.le_antisymm (hab : a.le b = true) (hba : b.le a = true) : a = b := by
  rw [le_iff] at hab hba
  have hm : a.matched = b.matched := by omega
  have hr : a.rating = b.rating := Real64.eq_of_rank (by omega)
  obtain ⟨matched, rating⟩ := a
  cases hm
  cases hr
  rfl

end Relevance

namespace Hit

variable {ε : Type} {a b c : Hit ε} {hits : List (Hit ε)}

/-- What a hit says, without the number that breaks ties. -/
def content (h : Hit ε) : Key × ε × Relevance := (h.key, h.entry, h.score)

theorem comesFirst_trans {l m n : Option Nat} (h : comesFirst l m = true)
    (h' : comesFirst m n = true) : comesFirst l n = true := by
  cases l <;> cases m <;> cases n <;> simp_all [comesFirst]
  omega

theorem comesFirst_total (m n : Option Nat) : comesFirst m n = true ∨ comesFirst n m = true := by
  cases m <;> cases n <;> simp [comesFirst]
  omega

theorem precedes_iff : precedes a b = true ↔
    b.score.le a.score = true ∧ (a.score.le b.score = true → comesFirst a.sequence b.sequence = true) := by
  have ht := Relevance.le_total a.score b.score
  unfold precedes
  split
  · next h => simp [h]
  · next h => simpa [h] using ht

theorem precedes_trans (hab : precedes a b = true) (hbc : precedes b c = true) :
    precedes a c = true := by
  rw [precedes_iff] at *
  refine ⟨Relevance.le_trans hbc.1 hab.1, fun h => ?_⟩
  exact comesFirst_trans (hab.2 (Relevance.le_trans h hbc.1)) (hbc.2 (Relevance.le_trans hab.1 h))

theorem precedes_total (a b : Hit ε) : (precedes a b || precedes b a) = true := by
  rw [Bool.or_eq_true, precedes_iff, precedes_iff]
  rcases Relevance.le_total a.score b.score with h | h <;>
    rcases comesFirst_total a.sequence b.sequence with h' | h' <;> tauto

theorem ranked_perm (hits : List (Hit ε)) : (ranked hits).Perm hits := List.mergeSort_perm ..

theorem ranked_pair (a b : Hit ε) : ranked [a, b] = if a.precedes b then [a, b] else [b, a] := by
  simp [ranked, List.mergeSort, List.merge, List.MergeSort.Internal.splitInTwo]

theorem pairwise_precedes (hits : List (Hit ε)) :
    (ranked hits).Pairwise fun a b => precedes a b = true :=
  @List.pairwise_mergeSort _ precedes (fun _ _ _ => precedes_trans) precedes_total hits

/-- The relevance of hits does not go up from one to the next. -/
theorem pairwise_ranked (hits : List (Hit ε)) :
    (ranked hits).Pairwise fun a b => b.score.le a.score = true :=
  (pairwise_precedes hits).imp fun h => (precedes_iff.1 h).1

end Hit

/-- What is under each key. -/
abbrev View := Key → Staged

section Hits

variable {x : Indexing} {query : List TermSet} {v w : View} {hits found : List (Hit Record)}

/-- The hits of a query in a view: one for each key with a card that is relevant, with the summary
and the relevance of that card. -/
structure HitsIn (x : Indexing) (query : List TermSet) (v : View) (hits : List (Hit Record)) :
    Prop where
  once : (hits.map Hit.key).Nodup
  mem_iff : ∀ key entry score, (key, entry, score) ∈ hits.map Hit.content ↔
    ∃ card, v key = some card ∧ card.entry = entry ∧ x.score query card = some score

theorem Indexing.exists_of_score {card : Card Record} {r : Relevance}
    (h : x.score query card = some r) :
    ∃ group ∈ query, ∃ term ∈ group.toList, term ∈ card.terms.toList :=
  Scorer.exists_of_score h

theorem Indexing.hit?_eq_some_iff {key : Key} {n : Option Nat} {card : Card Record}
    {h : Hit Record} : x.hit? query key n card = some h ↔
      ∃ score, x.score query card = some score ∧ h = ⟨key, card.entry, score, n⟩ := by
  simp only [hit?, Option.map_eq_some_iff, @eq_comm _ h]

theorem HitsIn.of_perm (h : HitsIn x query v hits) (hp : found.Perm hits) :
    HitsIn x query v found where
  once := (hp.map Hit.key).nodup_iff.2 h.once
  mem_iff key entry score := by rw [(hp.map Hit.content).mem_iff, h.mem_iff]

/-- All lists of the hits of a query are one list in several orders. -/
theorem HitsIn.perm (h : HitsIn x query v hits) (h' : HitsIn x query v found) :
    (hits.map Hit.content).Perm (found.map Hit.content) := by
  have nodup : ∀ {hits : List (Hit Record)}, (hits.map Hit.key).Nodup →
      (hits.map Hit.content).Nodup := fun hn =>
    List.Nodup.of_map Prod.fst (by simpa [Function.comp_def, Hit.content] using hn)
  refine (List.perm_ext_iff_of_nodup (nodup h.once) (nodup h'.once)).2 fun ⟨key, entry, score⟩ => ?_
  rw [h.mem_iff, h'.mem_iff]

/-- Two views have the same hits if they differ only in cards that are not relevant. -/
theorem HitsIn.congr (h : HitsIn x query v hits)
    (hw : ∀ key card score, x.score query card = some score → (v key = some card ↔ w key = some card)) :
    HitsIn x query w hits where
  once := h.once
  mem_iff key entry score := by
    rw [h.mem_iff]
    constructor <;> rintro ⟨card, hc, he, hs⟩
    · exact ⟨card, (hw key card score hs).1 hc, he, hs⟩
    · exact ⟨card, (hw key card score hs).2 hc, he, hs⟩

theorem hitsIn_nil_query : HitsIn x [] v [] where
  once := List.nodup_nil
  mem_iff key entry score := by
    refine ⟨fun h => absurd h List.not_mem_nil, ?_⟩
    rintro ⟨card, -, -, hs⟩
    obtain ⟨_, hg, -⟩ := Indexing.exists_of_score hs
    cases hg

end Hits

/-- What a change makes of the value of a key; only new cards can come where none is. -/
def Change.onto (key : Key) (old : Staged) : Change → Except Error Staged
  | .add card => .ok (some card)
  | c =>
    match old with
    | none => .error (.unknownKey key)
    | some card => .ok (c.result card)

namespace Operation

/-- The key that an operation writes to. -/
def target? : Operation → Option Key
  | .add key _ _ | .update key _ _ | .updateEntry key _ | .remove key => some key
  | _ => none

/-- The key that an operation writes to and the change that it makes there. -/
def change? (x : Indexing) : Operation → Option (Key × Except Error Change)
  | .add key record entry => some (key, (x.card record entry).map .add)
  | .update key record entry => some (key, (x.card record entry).map .update)
  | .updateEntry key entry => some (key, .ok (.updateEntry entry))
  | .remove key => some (key, .ok .remove)
  | _ => none

/-- Operations that read or write cards. -/
def isData : Operation → Bool
  | .add .. | .update .. | .updateEntry .. | .remove .. | .get .. | .search .. => true
  | _ => false

/-- Operations that only read cards. -/
def isRead : Operation → Bool
  | .get _ | .search _ => true
  | _ => false

/-- Operations that change how records and queries are taken apart and scored. -/
def isTuning : Operation → Bool
  | .setStopWords _ | .setSynonyms _ | .setScorer _ | .register .. | .declareSupertype .. => true
  | _ => false

/-- Operations that end the transaction of their session. -/
def isEnd : Operation → Bool
  | .commit | .rollback => true
  | _ => false

theorem target?_eq (x : Indexing) (op : Operation) : op.target? = (op.change? x).map Prod.fst := by
  cases op <;> rfl

theorem isData_cases {op : Operation} (h : op.isData = true) (x : Indexing) :
    (∃ key, op = .get key) ∨ (∃ query, op = .search query) ∨
      ∃ key c, op.target? = some key ∧ op.change? x = some (key, c) := by
  cases op <;> try cases h
  case get key => exact .inl ⟨key, rfl⟩
  case search query => exact .inr (.inl ⟨query, rfl⟩)
  all_goals exact .inr (.inr ⟨_, _, rfl, rfl⟩)

end Operation

section Kinds

theorem Indexing.kind_of_card {x : Indexing} {record entry : Record} {e : Error}
    (h : x.card record entry = .error e) : e.kind = .indexMapping := by
  unfold Indexing.card at h
  cases hx : x.mappings.extract x.analyzer record with
  | error e' =>
    rw [hx] at h
    cases h
    exact Mappings.kind_of_extract hx
  | ok found =>
    rw [hx] at h
    cases h

theorem Operation.kind_of_change? {x : Indexing} {op : Operation} {key : Key} {e : Error}
    (h : op.change? x = some (key, .error e)) : e.kind = .indexMapping := by
  have mapped : ∀ {record entry : Record} {f : Card Record → Change},
      (x.card record entry).map f = .error e → e.kind = .indexMapping := by
    intro record entry f hf
    cases hc : x.card record entry with
    | error e' =>
      rw [hc] at hf
      cases hf
      exact Indexing.kind_of_card hc
    | ok card => rw [hc] at hf; cases hf
  cases op with
  | add => exact mapped (Prod.ext_iff.1 (Option.some.inj h)).2
  | update => exact mapped (Prod.ext_iff.1 (Option.some.inj h)).2
  | updateEntry => cases h
  | remove => cases h
  | _ => cases h

theorem Change.kind_of_onto {c : Change} {key : Key} {old : Staged} {e : Error}
    (h : c.onto key old = .error e) :
    e.kind = .unknownKey ∧ ∀ card, c ≠ .add card := by
  cases c with
  | add card => cases h
  | _ =>
    cases old with
    | none =>
      cases h
      exact ⟨rfl, fun _ hc => by cases hc⟩
    | some card => cases h

end Kinds

namespace View

variable {x : Indexing} {v w : View} {op : Operation} {key : Key} {a : Answer}

/-- The view after an operation, or why the operation fails. -/
def outcome (x : Indexing) (v : View) (op : Operation) : Except Error View :=
  match op.change? x with
  | none => .ok v
  | some (key, c) => (c.bind (·.onto key (v key))).map (Function.update v key)

/-- The view after an operation, the same one if it fails. -/
def after (x : Indexing) (v : View) (op : Operation) : View :=
  match v.outcome x op with
  | .ok w => w
  | .error _ => v

/-- The answers that an operation may give on a view. The order of hits is left open. -/
def Answers (x : Indexing) (v : View) : Operation → Answer → Prop
  | .get key, a => a = .ok (.entry ((v key).map Card.entry))
  | .search query, a =>
    ∃ hits, a = .ok (.hits hits) ∧ HitsIn x (x.analyzer.queryGroups query) v hits
  | op, a => a = (v.outcome x op).map fun _ => .done

theorem answers_change {c : Except Error Change} (h : op.change? x = some (key, c)) :
    v.Answers x op a ↔ a = (c.bind (·.onto key (v key))).map fun _ => .done := by
  have ho : (v.outcome x op).map (fun _ => Reply.done) =
      (c.bind (·.onto key (v key))).map fun _ => .done := by
    unfold outcome
    rw [h]
    dsimp only
    cases c.bind (·.onto key (v key)) <;> rfl
  rw [← ho]
  cases op <;> first | exact Iff.rfl | cases h

theorem after_change {c : Except Error Change} (h : op.change? x = some (key, c)) :
    v.after x op =
      match c.bind (·.onto key (v key)) with
      | .ok value => Function.update v key value
      | .error _ => v := by
  unfold after outcome
  rw [h]
  dsimp only
  cases c.bind (·.onto key (v key)) <;> rfl

theorem after_of_target?_eq_none (h : op.target? = none) : v.after x op = v := by
  cases op <;> first | rfl | cases h

theorem after_of_isData (h : op.isData = false) : v.after x op = v := by
  cases op <;> first | rfl | cases h

/-- An operation that fails leaves the view as it is. -/
theorem after_of_error {e : Error} (h : v.Answers x op (.error e)) : v.after x op = v := by
  cases hc : op.change? x with
  | none => exact after_of_target?_eq_none (by rw [op.target?_eq x, hc]; rfl)
  | some p =>
    obtain ⟨key, c⟩ := p
    rw [after_change hc]
    rw [answers_change hc] at h
    cases hr : c.bind (·.onto key (v key)) with
    | error _ => rfl
    | ok value => rw [hr] at h; cases h

end View

/-- The same answer, but for the order of hits and the numbers that break ties among them. -/
def Answer.Matches : Answer → Answer → Prop
  | .ok (.hits hits), .ok (.hits found) => (hits.map Hit.content).Perm (found.map Hit.content)
  | a, b => a = b

/-- Whether an operation failed for what other sessions did. -/
def Answer.isConflict : Answer → Bool
  | .error e => e.kind = .deadlock || e.kind = .serializationFailure
  | .ok _ => false

theorem Answer.isConflict_of_deadlock {e : Error} (h : e.kind = .deadlock) :
    Answer.isConflict (.error e) = true := by
  simp [isConflict, h]

/-- What a session was answered. -/
structure Event where
  session : Session
  operation : Operation
  answer : Answer

section Replays

variable {x : Indexing} {v w : View} {op : Operation} {a b : Answer} {events : List Event}

theorem Answer.matches_rfl : a.Matches a := by
  obtain e | ⟨⟨⟩ | id | found | hits | count⟩ := a
  all_goals first | rfl | exact .refl _

theorem View.Answers.matches (h : v.Answers x op a) (h' : v.Answers x op b) : a.Matches b := by
  cases op with
  | search text =>
    obtain ⟨hits, rfl, hh⟩ := h
    obtain ⟨found, rfl, hf⟩ := h'
    exact hh.perm hf
  | get key =>
    have ha : a = _ := h
    have hb : b = _ := h'
    rw [ha, hb]
    exact Answer.matches_rfl
  | _ =>
    have ha : a = _ := h
    have hb : b = _ := h'
    rw [ha, hb]
    exact Answer.matches_rfl

/-- Events that may happen one after the other on a view, and the view that they leave. -/
inductive Replays (x : Indexing) : View → List Event → View → Prop
  | nil (v : View) : Replays x v [] v
  | cons {v w : View} {e : Event} {rest : List Event} : v.Answers x e.operation e.answer →
      Replays x (v.after x e.operation) rest w → Replays x v (e :: rest) w

theorem Replays.append {u : View} {more : List Event} (h : Replays x v events w)
    (h' : Replays x w more u) : Replays x v (events ++ more) u := by
  induction h with
  | nil => exact h'
  | cons ha _ ih => exact .cons ha (ih h')

/-- Whether an event is part of what its transaction did: it reads or writes cards, and it was not
refused because of others. -/
def Event.counts (e : Event) : Bool := e.operation.isData && !e.answer.isConflict

theorem replays_counts {e : Event}
    (ha : e.operation.isData = true → e.answer.isConflict = false →
      v.Answers x e.operation e.answer) :
    Replays x v ([e].filter Event.counts)
      (if e.answer.isOk then v.after x e.operation else v) := by
  obtain ⟨s, op, a⟩ := e
  cases hd : op.isData with
  | false =>
    have hc : (⟨s, op, a⟩ : Event).counts = false := by unfold Event.counts; rw [hd]; rfl
    rw [List.filter_cons_of_neg (by rw [hc]; decide), View.after_of_isData hd, ite_self]
    exact .nil v
  | true =>
    cases hconf : a.isConflict with
    | true =>
      have hc : (⟨s, op, a⟩ : Event).counts = false := by
        unfold Event.counts; rw [hconf, Bool.not_true, Bool.and_false]
      rw [List.filter_cons_of_neg (by rw [hc]; decide)]
      obtain e | r := a
      · exact .nil v
      · cases hconf
    | false =>
      have hc : (⟨s, op, a⟩ : Event).counts = true := by unfold Event.counts; rw [hd, hconf]; rfl
      rw [List.filter_cons_of_pos hc]
      have hans := ha hd hconf
      obtain e | r := a
      · have hv : v.after x op = v := View.after_of_error hans
        have hr : Replays x v [⟨s, op, .error e⟩] (v.after x op) := .cons hans (.nil _)
        rw [hv] at hr
        exact hr
      · exact .cons hans (.nil _)

/-- Whether an event put a new value under a key. -/
def Event.writes (e : Event) : Bool := e.operation.target?.isSome && e.answer.isOk

theorem View.after_of_writes {e : Event} (h : e.writes = false)
    (ha : v.Answers x e.operation e.answer) : v.after x e.operation = v := by
  obtain ⟨s, op, a⟩ := e
  unfold Event.writes at h
  cases ht : op.target? with
  | none => exact after_of_target?_eq_none ht
  | some key =>
    obtain e | r := a
    · exact after_of_error ha
    · rw [ht] at h
      cases h

/-- Events that write nothing leave the view as it is. -/
theorem Replays.eq_of_writes (h : Replays x v events w)
    (hn : events.any Event.writes = false) : w = v := by
  induction h with
  | nil => rfl
  | cons ha _ ih =>
    obtain ⟨he, hr⟩ := Bool.or_eq_false_iff.1 (List.any_cons.symm.trans hn)
    rw [ih hr, View.after_of_writes he ha]

end Replays

end Cardfile
