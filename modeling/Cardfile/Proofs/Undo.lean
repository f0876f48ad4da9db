import Cardfile.Proofs.PlainIndex

/-! # An index with undo

An index that nobody shares, on which the begin of a transaction keeps a copy of everything and a
rollback puts the copy back. This is what a session may expect that has a shared index to itself.
-/

namespace Cardfile

section Answers

variable {hits found : List (Hit Record)} {x : Indexing} {v : View}
  {op : Operation} {query : List TermSet}

/-- The same hits, both times with the most relevant first. The scores are then the same at every
place, and only hits that are as relevant as one another may change places. -/
structure Hit.Resemble (hits found : List (Hit Record)) : Prop where
  perm : (hits.map Hit.content).Perm (found.map Hit.content)
  scores : hits.map Hit.score = found.map Hit.score
  descending : hits.Pairwise fun a b => b.score.le a.score = true

/-- The same answer, but for the order of hits that are as relevant as one another, the numbers of
transactions and the number of versions that are dropped. -/
def Answer.Resembles : Answer → Answer → Prop
  | .ok (.hits hits), .ok (.hits found) => Hit.Resemble hits found
  | .ok (.started _), .ok .done => True
  | .ok (.dropped _), .ok .done => True
  | a, b => a = b

/-- Two ranked lists of the hits of a query in a view. -/
theorem HitsIn.resemble (h : HitsIn x query v hits) (h' : HitsIn x query v found)
    (hp : hits.Pairwise fun a b => b.score.le a.score = true)
    (hp' : found.Pairwise fun a b => b.score.le a.score = true) : Hit.Resemble hits found := by
  have hperm := h.perm h'
  refine ⟨hperm, ?_, hp⟩
  have hscores : (hits.map Hit.score).Perm (found.map Hit.score) := by
    simpa [Function.comp_def, Hit.content] using hperm.map (·.2.2)
  have hdesc : (hits.map Hit.score).Pairwise fun a b => b.le a = true := List.pairwise_map.2 hp
  refine hscores.eq_of_pairwise (fun a b _ _ hab hba => ?_) hdesc (List.pairwise_map.2 hp')
  exact Relevance.le_antisymm hba hab

/-- No answer to an operation on cards alone is a conflict. -/
theorem View.Answers.isConflict {a : Answer} (h : v.Answers x op a) : a.isConflict = false := by
  have kinds : ∀ {e : Error}, e.kind = .indexMapping ∨ e.kind = .unknownKey →
      Answer.isConflict (.error e) = false := by
    rintro e (h | h) <;> simp [Answer.isConflict, h]
  cases hop : op.change? x with
  | some p =>
    obtain ⟨key, c⟩ := p
    rw [View.answers_change hop] at h
    rw [h]
    obtain e | c := c
    · exact kinds (.inl (Operation.kind_of_change? hop))
    · cases hc : c.onto key (v key) with
      | error e =>
        simp only [Except.bind, hc]
        exact kinds (.inr (Change.kind_of_onto hc).1)
      | ok value => simp only [Except.bind, hc]; rfl
  | none =>
    cases op with
    | search text =>
      obtain ⟨hits, rfl, -⟩ := h
      rfl
    | add | update | updateEntry | remove => cases hop
    | _ =>
      have ha : a = _ := h
      rw [ha]
      rfl

theorem Answer.Resembles.isConflict {a b : Answer} (h : a.Resembles b)
    (hb : b.isConflict = false) : a.isConflict = false := by
  obtain e | r := a
  · have he : Except.error e = b := h
    rw [he]
    exact hb
  · rfl

end Answers

/-- An index that nobody shares, with the copy that a rollback puts back. -/
structure Undo where
  index : Index
  saved : Option Index

namespace Undo

variable {u : Undo} {x : Indexing} {op : Operation}

/-- An operation at an isolation level, which only decides whether transactions can begin. -/
def act (level : Isolation) (u : Undo) : Operation → Answer × Undo
  | .begin =>
    if level = .none then (.error .ungrouped, u)
    else
      match u.saved with
      | some _ => (.error .alreadyActive, u)
      | none => (.ok .done, { u with saved := some u.index })
  | .commit =>
    match u.saved with
    | some _ => (.ok .done, { u with saved := none })
    | none => (.error .noTransaction, u)
  | .rollback =>
    match u.saved with
    | some p => (.ok .done, ⟨p, none⟩)
    | none => (.error .noTransaction, u)
  | .cleanup => (.ok .done, { u with index := u.index.cleanup })
  | op => ((u.index.perform op).1, { u with index := (u.index.perform op).2 })

/-- Operations one after the other. -/
def actAll (level : Isolation) (u : Undo) : List Operation → List Answer × Undo
  | [] => ([], u)
  | op :: rest =>
    (((u.act level op).1 :: ((u.act level op).2.actAll level rest).1),
      ((u.act level op).2.actAll level rest).2)

structure Sound (u : Undo) (x : Indexing) : Prop where
  index : u.index.Sound
  indexing : u.index.indexing = x
  saved : ∀ {p}, u.saved = some p → p.Sound ∧ p.indexing = x

theorem act_of_isData (h : op.isData = true) (level : Isolation) (u : Undo) :
    u.act level op = ((u.index.perform op).1, { u with index := (u.index.perform op).2 }) := by
  cases op <;> first | rfl | cases h

theorem Sound.perform (h : u.Sound x) (op : Operation) :
    Sound { u with index := (u.index.perform op).2 } x := by
  have hd := Index.does_perform h.index op
  exact ⟨hd.sound, hd.indexing.trans h.indexing, h.saved⟩

/-- An index with undo stays sound and knows no conflicts. -/
theorem Sound.act (h : u.Sound x) (level : Isolation) (op : Operation) :
    (u.act level op).2.Sound x ∧ (u.act level op).1.isConflict = false := by
  cases op with
  | begin =>
    unfold Undo.act
    dsimp only
    split
    · exact ⟨h, rfl⟩
    · split
      · exact ⟨h, rfl⟩
      · exact ⟨⟨h.index, h.indexing, fun he => Option.some.inj he ▸ ⟨h.index, h.indexing⟩⟩, rfl⟩
  | commit =>
    unfold Undo.act
    dsimp only
    split
    · exact ⟨⟨h.index, h.indexing, fun he => by cases he⟩, rfl⟩
    · exact ⟨h, rfl⟩
  | rollback =>
    unfold Undo.act
    dsimp only
    split
    · next p hp =>
      obtain ⟨hsound, hx⟩ := h.saved hp
      exact ⟨⟨hsound, hx, fun he => by cases he⟩, rfl⟩
    · exact ⟨h, rfl⟩
  | cleanup => exact ⟨⟨h.index.cleanup, h.indexing, h.saved⟩, rfl⟩
  | _ => exact ⟨h.perform _, (Index.does_perform h.index _).answers.isConflict⟩

end Undo

end Cardfile
