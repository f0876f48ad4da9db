import Cardfile.Proofs.View

/-! # The index that nobody shares

Its postings cover its cards, so that it does what the view of its cards says.
-/

namespace Cardfile.Index

variable {i j : Index} {key key' : Key} {card : Card Record} {op : Operation} {p : Placed Record}

/-- The cards of an index. -/
def view (i : Index) : View := fun key => (i.cards.get? key).map Placed.card

/-- What the parts of an index say of each other. -/
structure Sound (i : Index) : Prop where
  slot_lt : ∀ {key p}, i.cards.get? key = some p → p.slot < i.nextSlot
  slot_inj : ∀ {key key' p q}, i.cards.get? key = some p → i.cards.get? key' = some q →
    p.slot = q.slot → key = key'
  posted : ∀ {key p}, i.cards.get? key = some p → ∀ term ∈ p.card.terms.toList,
    p.slot ∈ (i.postings.slotsOf term).toList

/-- Keeps the index as it is if the new one cannot be had. -/
def kept (i : Index) (r : Except Error Index) : Answer × Index :=
  match r with
  | .ok j => (.ok .done, j)
  | .error e => (.error e, i)

/-- An operation on cards, with the answer that a session would get. -/
def perform (i : Index) : Operation → Answer × Index
  | .add key record entry => i.kept (i.add key record entry)
  | .update key record entry => i.kept (i.update key record entry)
  | .updateEntry key entry => i.kept (i.updateEntry key entry)
  | .remove key => i.kept ((i.remove key).map Prod.snd)
  | .get key => (.ok (.entry (i.get? key)), i)
  | .search query => (.ok (.hits (i.search query)), i)
  | _ => (.ok .done, i)

/-- Operations one after the other. -/
def performAll (i : Index) : List Operation → List Answer × Index
  | [] => ([], i)
  | op :: rest =>
    let (a, i) := i.perform op
    let (as, i) := i.performAll rest
    (a :: as, i)

/-- The states that an index can come to; what it makes of records and queries may be set anew. -/
inductive Reachable : Index → Prop
  | fresh (x : Indexing) : Reachable (ofIndexing x)
  | tuned {i : Index} : Reachable i → ∀ x, Reachable { i with indexing := x }
  | performed {i : Index} : Reachable i → ∀ op, Reachable (i.perform op).2
  | cleared {i : Index} : Reachable i → Reachable i.clear
  | cleaned {i : Index} : Reachable i → Reachable i.cleanup

/-- A card comes in when a record is added that it can be made of. -/
theorem Reachable.store (h : i.Reachable) {record entry : Record}
    (hc : i.indexing.card record entry = .ok card) (key : Key) : (i.store key card).Reachable := by
  have hadd : (i.perform (.add key record entry)).2 = i.store key card := by
    change (i.kept (i.add key record entry)).2 = _
    unfold add
    rw [hc]
    rfl
  exact hadd ▸ h.performed (.add key record entry)

section Sound

theorem sound_ofIndexing (x : Indexing) : (ofIndexing x).Sound := by
  constructor <;> intro key <;> intros <;> contradiction

/-- A new card in a slot of its own or in the slot of the one that it replaces. -/
theorem Sound.put (h : i.Sound) {p : Placed Record} {postings : Postings} {next : Slot}
    (hn : i.nextSlot ≤ next) (hp : p.slot < next)
    (hfree : ∀ {key' q}, key ≠ key' → i.cards.get? key' = some q → q.slot ≠ p.slot)
    (hterms : ∀ term ∈ p.card.terms.toList, p.slot ∈ (postings.slotsOf term).toList)
    (hothers : ∀ slot ≠ p.slot, ∀ term, slot ∈ (i.postings.slotsOf term).toList →
      slot ∈ (postings.slotsOf term).toList) :
    Sound { i with cards := i.cards.insert key p, postings := postings, nextSlot := next } := by
  have cases : ∀ {key' q}, (i.cards.insert key p).get? key' = some q →
      (key = key' ∧ p = q) ∨ (key ≠ key' ∧ i.cards.get? key' = some q) := by
    intro key' q hq
    rw [Dict.get?_insert] at hq
    split at hq
    · next he => exact .inl ⟨he, Option.some.inj hq⟩
    · next he => exact .inr ⟨he, hq⟩
  constructor
  · intro key' q hq
    rcases cases hq with ⟨-, rfl⟩ | ⟨-, hq⟩
    · exact hp
    · exact Nat.lt_of_lt_of_le (h.slot_lt hq) hn
  · intro k k' q q' hq hq' hs
    rcases cases hq with ⟨rfl, rfl⟩ | ⟨hk, hq⟩
    · rcases cases hq' with ⟨rfl, rfl⟩ | ⟨hk', hq'⟩
      · rfl
      · exact absurd hs.symm (hfree hk' hq')
    · rcases cases hq' with ⟨rfl, rfl⟩ | ⟨-, hq'⟩
      · exact absurd hs (hfree hk hq)
      · exact h.slot_inj hq hq' hs
  · intro key' q hq term ht
    rcases cases hq with ⟨-, rfl⟩ | ⟨hk, hq⟩
    · exact hterms term ht
    · exact hothers _ (hfree hk hq) term (h.posted hq term ht)

theorem Sound.store (h : i.Sound) (key : Key) (card : Card Record) : (i.store key card).Sound := by
  unfold Index.store
  cases hc : i.cards.get? key with
  | some old =>
    have hlt : old.slot < i.nextSlot := h.slot_lt hc
    refine h.put (Nat.le_refl _) hlt (fun hk hq hs => hk (h.slot_inj hc hq hs.symm))
      (fun term ht => Postings.mem_slotsOf_insert.2 (.inr ⟨rfl, ht⟩)) fun slot hs term hm => ?_
    refine Postings.mem_slotsOf_insert.2 (.inl (Postings.mem_slotsOf_erase.2 ⟨hm, ?_⟩))
    exact fun hold => hs hold.1
  | none =>
    refine h.put (Nat.le_succ _) (Nat.lt_succ_self _) (fun _ hq => Nat.ne_of_lt (h.slot_lt hq))
      (fun term ht => Postings.mem_slotsOf_insert.2 (.inr ⟨rfl, ht⟩)) fun slot _ term hm => ?_
    exact Postings.mem_slotsOf_insert.2 (.inl hm)

theorem Sound.updateEntry (h : i.Sound) (hc : i.cards.get? key = some p) (entry : Record) :
    Sound { i with cards := i.cards.insert key ⟨p.slot, p.card.withEntry entry⟩ } := by
  have hlt : p.slot < i.nextSlot := h.slot_lt hc
  have hposted := h.posted hc
  exact h.put (Nat.le_refl _) hlt (fun hk hq hs => hk (h.slot_inj hc hq hs.symm)) hposted
    fun _ _ _ hm => hm

theorem Sound.remove (h : i.Sound) (hc : i.cards.get? key = some p) :
    Sound { i with
      cards := i.cards.erase key
      postings := i.postings.erase p.slot p.card.terms } := by
  have old : ∀ {key' q}, (i.cards.erase key).get? key' = some q →
      key ≠ key' ∧ i.cards.get? key' = some q := by
    intro key' q hq
    rw [Dict.get?_erase] at hq
    split at hq
    · cases hq
    · next he => exact ⟨he, hq⟩
  constructor
  · exact fun hq => h.slot_lt (old hq).2
  · exact fun hq hq' hs => h.slot_inj (old hq).2 (old hq').2 hs
  · intro key' q hq term ht
    obtain ⟨hk, hq⟩ := old hq
    exact Postings.mem_slotsOf_erase.2 ⟨h.posted hq term ht,
      fun hs => hk (h.slot_inj hc hq hs.1.symm)⟩

theorem Sound.cleanup (h : i.Sound) : i.cleanup.Sound :=
  ⟨h.slot_lt, h.slot_inj, fun hc term ht => Postings.mem_slotsOf_compact.2 (h.posted hc term ht)⟩

end Sound

section View

theorem view_insert (d : Dict Key (Placed Record)) (key : Key) (p : Placed Record) :
    (fun k => ((d.insert key p).get? k).map Placed.card) =
      Function.update (fun k => (d.get? k).map Placed.card) key (some p.card) := by
  funext k
  rw [Dict.get?_insert]
  by_cases hk : key = k
  · subst hk
    rw [if_pos rfl, Function.update_self]
    rfl
  · rw [if_neg hk, Function.update_of_ne fun e => hk e.symm]

theorem view_store (i : Index) (key : Key) (card : Card Record) :
    (i.store key card).view = Function.update i.view key (some card) := by
  unfold Index.store
  cases i.cards.get? key <;> exact view_insert ..

theorem indexing_store (i : Index) (key : Key) (card : Card Record) :
    (i.store key card).indexing = i.indexing := by
  unfold Index.store
  cases i.cards.get? key <;> rfl

theorem view_erase (i : Index) (key : Key) (p : Postings) :
    view { i with cards := i.cards.erase key, postings := p } =
      Function.update i.view key none := by
  funext k
  unfold view
  rw [Dict.get?_erase]
  by_cases hk : key = k
  · subst hk
    rw [if_pos rfl, Function.update_self]
    rfl
  · rw [if_neg hk, Function.update_of_ne fun e => hk e.symm]

/-- Hits are the relevant cards; the postings leave none of them out. -/
theorem hitsIn_search (h : i.Sound) (query : String) :
    HitsIn i.indexing (i.indexing.analyzer.queryGroups query) i.view (i.search query) := by
  refine HitsIn.of_perm ⟨?_, fun key entry score => ?_⟩ (Hit.ranked_perm _)
  · have hkey : ∀ (e : Key × Placed Record) hit,
        i.indexing.hit? (i.indexing.analyzer.queryGroups query) e.1 (some e.2.slot) e.2.card =
          some hit → hit.key = e.1 := by
      intro e hit hh
      obtain ⟨score, -, rfl⟩ := Indexing.hit?_eq_some_iff.1 hh
      rfl
    exact ((map_filterMap_sublist _ _ _ hkey _).trans (List.filter_sublist.map Prod.fst)).nodup
      i.cards.nodup
  · simp only [List.mem_map, List.mem_filterMap, List.mem_filter, Prod.exists,
      Dict.mem_entries_iff, OrderedSet.contains_iff]
    constructor
    · rintro ⟨hit, ⟨key', p, ⟨hc, -⟩, hh⟩, he⟩
      obtain ⟨score', hs, rfl⟩ := Indexing.hit?_eq_some_iff.1 hh
      cases he
      exact ⟨p.card, by unfold view; rw [hc]; rfl, rfl, hs⟩
    · rintro ⟨card, hv, rfl, hs⟩
      obtain ⟨p, hc, rfl⟩ := Option.map_eq_some_iff.1 hv
      obtain ⟨group, hg, term, ht, hm⟩ := Indexing.exists_of_score hs
      exact ⟨⟨key, p.card.entry, score, some p.slot⟩, ⟨key, p, ⟨hc, Postings.mem_candidates.2
        ⟨group, hg, term, ht, h.posted hc term hm⟩⟩, Indexing.hit?_eq_some_iff.2 ⟨score, hs, rfl⟩⟩,
        rfl⟩

/-- What an operation on an index comes to. -/
structure Does (i : Index) (op : Operation) (a : Answer) (j : Index) : Prop where
  sound : j.Sound
  indexing : j.indexing = i.indexing
  answers : i.view.Answers i.indexing op a
  view : j.view = i.view.after i.indexing op

theorem does_error {e : Error} {c : Except Error Change} (h : i.Sound)
    (hop : op.change? i.indexing = some (key, c))
    (hc : c.bind (·.onto key (i.view key)) = .error e) : i.Does op (.error e) i := by
  refine ⟨h, rfl, ?_, ?_⟩
  · rw [View.answers_change hop, hc]
    rfl
  · rw [View.after_change hop, hc]

theorem does_ok {value : Staged} {c : Except Error Change} (hj : j.Sound)
    (hx : j.indexing = i.indexing) (hop : op.change? i.indexing = some (key, c))
    (hc : c.bind (·.onto key (i.view key)) = .ok value)
    (hv : j.view = Function.update i.view key value) : i.Does op (.ok .done) j := by
  refine ⟨hj, hx, ?_, ?_⟩
  · rw [View.answers_change hop, hc]
    rfl
  · rw [View.after_change hop, hc]
    exact hv

theorem view_of_none (hc : i.cards.get? key = none) : i.view key = none := by
  unfold view
  rw [hc]
  rfl

theorem view_of_some (hc : i.cards.get? key = some p) : i.view key = some p.card := by
  unfold view
  rw [hc]
  rfl

theorem does_add (h : i.Sound) (key : Key) (record entry : Record) :
    i.Does (.add key record entry) (i.kept (i.add key record entry)).1
      (i.kept (i.add key record entry)).2 := by
  have hop : (Operation.add key record entry).change? i.indexing =
    some (key, (i.indexing.card record entry).map .add) := rfl
  unfold add
  cases hc : i.indexing.card record entry with
  | error e => exact does_error h hop (by rw [hc]; rfl)
  | ok card =>
    exact does_ok (h.store key card) (indexing_store i key card) hop (by rw [hc]; rfl)
      (view_store i key card)

theorem does_update (h : i.Sound) (key : Key) (record entry : Record) :
    i.Does (.update key record entry) (i.kept (i.update key record entry)).1
      (i.kept (i.update key record entry)).2 := by
  have hop : (Operation.update key record entry).change? i.indexing =
    some (key, (i.indexing.card record entry).map .update) := rfl
  unfold update contains Dict.contains
  cases hc : i.indexing.card record entry with
  | error e => exact does_error h hop (by rw [hc]; rfl)
  | ok card =>
    cases hp : i.cards.get? key with
    | none => exact does_error h hop (by rw [hc, view_of_none hp]; rfl)
    | some p =>
      exact does_ok (h.store key card) (indexing_store i key card) hop
        (by rw [hc, view_of_some hp]; rfl) (view_store i key card)

theorem does_updateEntry (h : i.Sound) (key : Key) (entry : Record) :
    i.Does (.updateEntry key entry) (i.kept (i.updateEntry key entry)).1
      (i.kept (i.updateEntry key entry)).2 := by
  have hop : (Operation.updateEntry key entry).change? i.indexing =
    some (key, .ok (.updateEntry entry)) := rfl
  unfold Index.updateEntry
  cases hp : i.cards.get? key with
  | none => exact does_error h hop (by rw [view_of_none hp]; rfl)
  | some p =>
    exact does_ok (h.updateEntry hp entry) rfl hop (by rw [view_of_some hp]; rfl)
      (view_insert ..)

theorem does_remove (h : i.Sound) (key : Key) :
    i.Does (.remove key) (i.kept ((i.remove key).map Prod.snd)).1
      (i.kept ((i.remove key).map Prod.snd)).2 := by
  have hop : (Operation.remove key).change? i.indexing = some (key, .ok .remove) := rfl
  unfold Index.remove
  cases hp : i.cards.get? key with
  | none => exact does_error h hop (by rw [view_of_none hp]; rfl)
  | some p =>
    exact does_ok (h.remove hp) rfl hop (by rw [view_of_some hp]; rfl) (view_erase ..)

/-- An operation on an index does what it does on the view of the cards. -/
theorem does_perform (h : i.Sound) (op : Operation) :
    i.Does op (i.perform op).1 (i.perform op).2 := by
  cases op with
  | add key record entry => exact does_add h key record entry
  | update key record entry => exact does_update h key record entry
  | updateEntry key entry => exact does_updateEntry h key entry
  | remove key => exact does_remove h key
  | get key =>
    refine ⟨h, rfl, ?_, rfl⟩
    change _ = _
    unfold view
    rw [Option.map_map]
    rfl
  | search query => exact ⟨h, rfl, ⟨_, rfl, hitsIn_search h query⟩, rfl⟩
  | _ => exact ⟨h, rfl, rfl, rfl⟩

end View

theorem Reachable.sound (h : i.Reachable) : i.Sound := by
  induction h with
  | fresh x => exact sound_ofIndexing x
  | tuned _ x ih => exact ⟨ih.slot_lt, ih.slot_inj, ih.posted⟩
  | performed _ op ih => exact (does_perform ih op).sound
  | @cleared i _ _ => exact sound_ofIndexing i.indexing
  | cleaned _ ih => exact ih.cleanup

/-- Events that may happen on the cards of an index are what the index answers. -/
theorem performAll_of_replays {events : List Event} {w : View} (h : i.Sound)
    (hr : Replays i.indexing i.view events w) :
    List.Forall₂ Answer.Matches (events.map Event.answer)
        (i.performAll (events.map Event.operation)).1 ∧
      (i.performAll (events.map Event.operation)).2.view = w := by
  induction events generalizing i with
  | nil =>
    cases hr
    exact ⟨.nil, rfl⟩
  | cons e rest ih =>
    cases hr with
    | cons ha hrest =>
      have hd := does_perform h e.operation
      rw [← hd.view, ← hd.indexing] at hrest
      obtain ⟨hm, hv⟩ := ih hd.sound hrest
      exact ⟨.cons (ha.matches hd.answers) hm, hv⟩

end Cardfile.Index
