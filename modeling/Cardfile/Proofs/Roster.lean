import Cardfile.Proofs.PlainIndex

/-! # The roster of an index

A roster says which cards an index has and in which order their keys came in. The index that
nobody shares does what its roster says, and its searches go through the whole roster.
-/

namespace Cardfile

/-- Cards by their keys, in the order in which the keys came in. -/
abbrev Roster := Dict Key (Card Record)

namespace Roster

/-- The reply to an operation and the roster after it, or why the operation fails. -/
def write (x : Indexing) (m : Roster) : Operation → Except Error (Reply × Roster)
  | .add key record entry => do
    let card ← x.card record entry
    pure (.done, m.insert key card)
  | .update key record entry => do
    let card ← x.card record entry
    if m.contains key then pure (.done, m.insert key card) else throw (.unknownKey key)
  | .updateEntry key entry =>
    match m.get? key with
    | some card => .ok (.done, m.insert key (card.withEntry entry))
    | none => .error (.unknownKey key)
  | .remove key =>
    match m.get? key with
    | some card => .ok (.entry (some card.entry), m.erase key)
    | none => .error (.unknownKey key)
  | .clear => .ok (.done, .empty)
  | _ => .ok (.done, m)

/-- The roster after an operation, the same one if it fails. -/
def after (x : Indexing) (m : Roster) (op : Operation) : Roster :=
  match m.write x op with
  | .ok r => r.2
  | .error _ => m

/-- The hits of a query in a roster: more words of the query come first, for as many words the
higher rating, and then the key that came in first. -/
structure Lists (x : Indexing) (query : List TermSet) (m : Roster) (hits : List (Hit Record)) :
    Prop where
  content : HitsIn x query m.get? hits
  order : hits.Pairwise fun a b =>
    b.score.matched < a.score.matched ∨ b.score.matched = a.score.matched ∧
      (b.score.rating.rank < a.score.rating.rank ∨ b.score.rating.rank = a.score.rating.rank ∧
        m.keys.idxOf a.key < m.keys.idxOf b.key)

/-- The answers that a roster gives. -/
def Answers (x : Indexing) (m : Roster) : Operation → Answer → Prop
  | .get key, a => a = .ok (.entry ((m.get? key).map Card.entry))
  | .search query, a =>
    ∃ hits, a = .ok (.hits hits) ∧ Lists x (x.analyzer.queryGroups query) m hits
  | op, a => a = (m.write x op).map Prod.fst

end Roster

namespace Index

variable {i : Index} {m : Roster} {key key' : Key} {card : Card Record} {p q : Placed Record}
  {op : Operation} {hits : List (Hit Record)}

/-- An operation with its answer; a removal is answered by the summary that was there. -/
def act (i : Index) : Operation → Answer × Index
  | .remove key =>
    match i.remove key with
    | .ok (entry, j) => (.ok (.entry (some entry)), j)
    | .error e => (.error e, i)
  | .clear => (.ok .done, i.clear)
  | .cleanup => (.ok .done, i.cleanup)
  | op => i.perform op

/-- The slots of the cards in the order in which their keys came in. -/
def slots (d : Dict Key (Placed Record)) : List Slot := d.entries.map (Placed.slot ∘ Prod.snd)

/-- An index and its roster. -/
structure Keeps (i : Index) (m : Roster) : Prop where
  sound : i.Sound
  cards : i.cards.map (fun _ p => p.card) = m
  /-- Keys that came in later have larger slots. -/
  increasing : (slots i.cards).Pairwise (· < ·)

section Order

theorem lt_of_mem_slots (h : i.Sound) {slot : Slot} (hs : slot ∈ slots i.cards) :
    slot < i.nextSlot := by
  obtain ⟨⟨key, p⟩, hm, rfl⟩ := List.mem_map.1 hs
  exact h.slot_lt (Dict.mem_entries_iff.1 hm)

/-- Where slots increase, a smaller slot means an earlier key. -/
theorem idxOf_lt_of_slot_lt {l : List (Key × Placed Record)}
    (hl : (l.map (Placed.slot ∘ Prod.snd)).Pairwise (· < ·)) (hn : (l.map Prod.fst).Nodup)
    (hp : (key, p) ∈ l) (hq : (key', q) ∈ l) (h : p.slot < q.slot) :
    (l.map Prod.fst).idxOf key < (l.map Prod.fst).idxOf key' := by
  induction l with
  | nil => cases hp
  | cons e rest ih =>
    obtain ⟨hfirst, hrest⟩ := List.pairwise_cons.1 hl
    obtain ⟨hnew, hnodup⟩ := List.nodup_cons.1 hn
    have ne_first : ∀ {k : Key} {r : Placed Record}, (k, r) ∈ rest → e.1 ≠ k := by
      rintro k r hm rfl
      exact hnew (List.mem_map.2 ⟨_, hm, rfl⟩)
    rw [List.map_cons]
    rcases List.mem_cons.1 hq with rfl | hq
    · -- the second key stands first, so its slot is the smallest
      rcases List.mem_cons.1 hp with he | hp
      · cases he
        exact absurd h (Nat.lt_irrefl _)
      · have hlt := hfirst p.slot (List.mem_map.2 ⟨_, hp, rfl⟩)
        exact absurd h (Nat.lt_asymm hlt)
    · rw [List.idxOf_cons_ne _ (ne_first hq)]
      rcases List.mem_cons.1 hp with rfl | hp
      · rw [List.idxOf_cons_self]
        exact Nat.succ_pos _
      · rw [List.idxOf_cons_ne _ (ne_first hp)]
        exact Nat.succ_lt_succ (ih hrest hnodup hp hq)

end Order

section Search

variable {query : String}

theorem Keeps.view_eq (h : i.Keeps m) : i.view = m.get? := by
  funext key
  rw [← h.cards, Dict.get?_map]
  rfl

theorem Keeps.keys_eq (h : i.Keeps m) : m.keys = i.cards.keys := by
  rw [← h.cards, Dict.keys_map]

/-- The number of a hit is the slot of its key. -/
theorem slot_of_mem_search {hit : Hit Record} (h : hit ∈ i.search query) :
    ∃ p, (hit.key, p) ∈ i.cards.entries ∧ hit.sequence = some p.slot := by
  obtain ⟨⟨key, p⟩, hm, hh⟩ := List.mem_filterMap.1 ((Hit.ranked_perm _).mem_iff.1 h)
  obtain ⟨score, -, rfl⟩ := Indexing.hit?_eq_some_iff.1 hh
  exact ⟨p, (List.mem_filter.1 hm).1, rfl⟩

theorem Keeps.lists_search (h : i.Keeps m) (query : String) :
    Roster.Lists i.indexing (i.indexing.analyzer.queryGroups query) m (i.search query) where
  content := h.view_eq ▸ hitsIn_search h.sound query
  order := by
    have hkeys : ((i.search query).map Hit.key).Nodup := (hitsIn_search h.sound query).once
    have hne : (i.search query).Pairwise fun a b => a.key ≠ b.key := List.pairwise_map.1 hkeys
    have hranked : (i.search query).Pairwise fun a b => Hit.precedes a b = true :=
      @List.pairwise_mergeSort _ Hit.precedes (fun _ _ _ => Hit.precedes_trans) Hit.precedes_total _
    refine (hne.and hranked).imp_of_mem fun {a b} ha hb hab => ?_
    obtain ⟨hle, hfirst⟩ := Hit.precedes_iff.1 hab.2
    rcases Relevance.lt_or_eq_of_le hle with hlt | ⟨heq, hlt | ⟨hrank, hback⟩⟩
    · exact .inl hlt
    · exact .inr ⟨heq, .inl hlt⟩
    · refine .inr ⟨heq, .inr ⟨hrank, ?_⟩⟩
      obtain ⟨p, hp, hpa⟩ := slot_of_mem_search ha
      obtain ⟨q, hq, hqb⟩ := slot_of_mem_search hb
      have hslots : p.slot ≤ q.slot := by
        have hc := hfirst hback
        rw [hpa, hqb] at hc
        exact of_decide_eq_true hc
      have hdiff : p.slot ≠ q.slot := fun he =>
        hab.1 (h.sound.slot_inj (Dict.mem_entries_iff.1 hp) (Dict.mem_entries_iff.1 hq) he)
      rw [h.keys_eq]
      exact idxOf_lt_of_slot_lt h.increasing i.cards.nodup hp hq (Nat.lt_of_le_of_ne hslots hdiff)

end Search

section Act

/-- What an operation on an index with a roster comes to. -/
structure Follows (i : Index) (m : Roster) (op : Operation) (r : Answer × Index) : Prop where
  indexing : r.2.indexing = i.indexing
  answers : Roster.Answers i.indexing m op r.1
  keeps : r.2.Keeps (Roster.after i.indexing m op)

theorem keeps_ofIndexing (x : Indexing) : (ofIndexing x).Keeps .empty :=
  ⟨sound_ofIndexing x, rfl, .nil⟩

theorem slots_insert_of_some (hc : i.cards.get? key = some p) :
    slots (i.cards.insert key ⟨p.slot, card⟩) = slots i.cards :=
  Dict.map_assign_of_lookup hc rfl

theorem slots_insert_of_none (hc : i.cards.get? key = none) :
    slots (i.cards.insert key ⟨i.nextSlot, card⟩) = slots i.cards ++ [i.nextSlot] := by
  have he : (i.cards.insert key ⟨i.nextSlot, card⟩).entries =
      i.cards.entries ++ [(key, ⟨i.nextSlot, card⟩)] := Dict.assign_of_notMem (Dict.get?_eq_none_iff.1 hc)
  simp [slots, he]

theorem Keeps.store (h : i.Keeps m) (key : Key) (card : Card Record) :
    (i.store key card).Keeps (m.insert key card) := by
  refine ⟨h.sound.store key card, ?_, ?_⟩
  · rw [← h.cards]
    unfold Index.store
    split <;> exact Dict.map_insert ..
  · unfold Index.store
    split
    · next old hc =>
      rw [slots_insert_of_some hc]
      exact h.increasing
    · next hc =>
      rw [slots_insert_of_none hc, List.pairwise_append]
      refine ⟨h.increasing, List.pairwise_singleton .., fun slot hs next hn => ?_⟩
      rw [List.mem_singleton.1 hn]
      exact lt_of_mem_slots h.sound hs

theorem Keeps.updateEntry (h : i.Keeps m) (hc : i.cards.get? key = some p) (entry : Record) :
    Keeps { i with cards := i.cards.insert key ⟨p.slot, p.card.withEntry entry⟩ }
      (m.insert key (p.card.withEntry entry)) := by
  refine ⟨h.sound.updateEntry hc entry, ?_, ?_⟩
  · rw [← h.cards]
    exact Dict.map_insert ..
  · rw [slots_insert_of_some hc]
    exact h.increasing

theorem Keeps.remove (h : i.Keeps m) (hc : i.cards.get? key = some p) :
    Keeps { i with
      cards := i.cards.erase key
      postings := i.postings.erase p.slot p.card.terms } (m.erase key) := by
  refine ⟨h.sound.remove hc, ?_, ?_⟩
  · rw [← h.cards]
    exact Dict.map_erase ..
  · exact h.increasing.sublist (List.filter_sublist.map _)

theorem Keeps.get?_of_some (h : i.Keeps m) (hc : i.cards.get? key = some p) :
    m.get? key = some p.card := by
  rw [← h.view_eq, view_of_some hc]

theorem Keeps.get?_of_none (h : i.Keeps m) (hc : i.cards.get? key = none) : m.get? key = none := by
  rw [← h.view_eq, view_of_none hc]

/-- An operation that fails as the roster says. -/
theorem follows_error (h : i.Keeps m) {e : Error} (hop : op.isRead = false)
    (he : Roster.write i.indexing m op = .error e) : i.Follows m op (.error e, i) := by
  have ha : Roster.after i.indexing m op = m := by unfold Roster.after; rw [he]
  refine ⟨rfl, ?_, by rw [ha]; exact h⟩
  cases op <;> first | exact (congrArg (·.map Prod.fst) he).symm | cases hop

/-- An operation that succeeds as the roster says. -/
theorem follows_ok {reply : Reply} {j : Index} {m' : Roster} (hj : j.Keeps m')
    (hx : j.indexing = i.indexing) (hop : op.isRead = false)
    (hw : Roster.write i.indexing m op = .ok (reply, m')) : i.Follows m op (.ok reply, j) := by
  have ha : Roster.after i.indexing m op = m' := by unfold Roster.after; rw [hw]
  refine ⟨hx, ?_, by rw [ha]; exact hj⟩
  cases op <;> first | exact (congrArg (·.map Prod.fst) hw).symm | cases hop

theorem follows_add (h : i.Keeps m) (key : Key) (record entry : Record) :
    i.Follows m (.add key record entry) (i.act (.add key record entry)) := by
  change i.Follows m _ (i.kept (i.add key record entry))
  unfold add
  cases hc : i.indexing.card record entry with
  | error e => exact follows_error h rfl (by simp only [Roster.write, hc]; rfl)
  | ok card =>
    exact follows_ok (h.store key card) (indexing_store i key card) rfl
      (by simp only [Roster.write, hc]; rfl)

theorem follows_update (h : i.Keeps m) (key : Key) (record entry : Record) :
    i.Follows m (.update key record entry) (i.act (.update key record entry)) := by
  change i.Follows m _ (i.kept (i.update key record entry))
  unfold update contains Dict.contains
  cases hc : i.indexing.card record entry with
  | error e => exact follows_error h rfl (by simp only [Roster.write, hc]; rfl)
  | ok card =>
    cases hp : i.cards.get? key with
    | none =>
      have hm := h.get?_of_none hp
      exact follows_error h rfl (by simp only [Roster.write, hc, Dict.contains, hm]; rfl)
    | some p =>
      have hm := h.get?_of_some hp
      exact follows_ok (h.store key card) (indexing_store i key card) rfl
        (by simp only [Roster.write, hc, Dict.contains, hm]; rfl)

theorem follows_updateEntry (h : i.Keeps m) (key : Key) (entry : Record) :
    i.Follows m (.updateEntry key entry) (i.act (.updateEntry key entry)) := by
  change i.Follows m _ (i.kept (i.updateEntry key entry))
  unfold Index.updateEntry
  cases hp : i.cards.get? key with
  | none => exact follows_error h rfl (by simp only [Roster.write, h.get?_of_none hp])
  | some p =>
    exact follows_ok (h.updateEntry hp entry) rfl rfl
      (by simp only [Roster.write, h.get?_of_some hp])

theorem follows_remove (h : i.Keeps m) (key : Key) :
    i.Follows m (.remove key) (i.act (.remove key)) := by
  unfold act Index.remove
  dsimp only
  cases hp : i.cards.get? key with
  | none =>
    have hw : Roster.write i.indexing m (.remove key) = .error (.unknownKey key) := by
      simp only [Roster.write, h.get?_of_none hp]
    exact follows_error h rfl hw
  | some p =>
    have hw : Roster.write i.indexing m (.remove key) =
        .ok (.entry (some p.card.entry), m.erase key) := by
      simp only [Roster.write, h.get?_of_some hp]
    exact follows_ok (h.remove hp) rfl rfl hw

/-- An operation on an index does what it does on the roster. -/
theorem follows_act (h : i.Keeps m) (op : Operation) : i.Follows m op (i.act op) := by
  cases op with
  | add key record entry => exact follows_add h key record entry
  | update key record entry => exact follows_update h key record entry
  | updateEntry key entry => exact follows_updateEntry h key entry
  | remove key => exact follows_remove h key
  | get key =>
    refine ⟨rfl, ?_, h⟩
    change _ = _
    rw [← h.view_eq]
    unfold view
    rw [Option.map_map]
    rfl
  | search query => exact ⟨rfl, ⟨_, rfl, h.lists_search query⟩, h⟩
  | clear => exact follows_ok (keeps_ofIndexing i.indexing) rfl rfl rfl
  | cleanup => exact follows_ok ⟨h.sound.cleanup, h.cards, h.increasing⟩ rfl rfl rfl
  | _ => exact follows_ok h rfl rfl rfl

end Act

section Runs

/-- An index after operations one after the other. -/
def actAll (i : Index) (ops : List Operation) : Index := ops.foldl (fun i op => (i.act op).2) i

end Runs

end Index

/-- A roster after operations one after the other. -/
def Roster.afterAll (x : Indexing) (m : Roster) (ops : List Operation) : Roster :=
  ops.foldl (·.after x) m

namespace Index

section Runs

variable {i : Index} {m : Roster}

theorem Keeps.actAll (h : i.Keeps m) (ops : List Operation) :
    (i.actAll ops).indexing = i.indexing ∧
      (i.actAll ops).Keeps (Roster.afterAll i.indexing m ops) := by
  induction ops generalizing i m with
  | nil => exact ⟨rfl, h⟩
  | cons op rest ih =>
    have hf := follows_act h op
    obtain ⟨hx, hk⟩ := ih hf.keeps
    rw [hf.indexing] at hx hk
    exact ⟨hx, hk⟩

end Runs

end Index

end Cardfile
