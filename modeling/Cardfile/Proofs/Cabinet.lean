import Cardfile.Cabinet
import Cardfile.Proofs.Roster
import Cardfile.Proofs.Slots

/-! # The cabinet and its roster

A cabinet keeps the slots of its keys apart from the cards in the slots. Whatever is done with it,
both stay in step with each other and with the postings, so it does what an index does that has them
in one dictionary. Thus it does what its roster says, and an operation that fails leaves it as it
was.
-/

namespace Cardfile

variable {i : Index} {m : Roster} {c : Cabinet} {x : Indexing} {key : Key} {card : Card Record}
  {p : Placed Record} {slot : Slot} {op : Operation} {postings : Postings} {ops : List Operation}

/-- Candidates that are met in order give what the entries give that are candidates. -/
theorem Dict.filterMap_get?_eq {ν : Type} {d : Dict Slot ν} {l : List Slot}
    (hl : l.Pairwise (· < ·)) (hd : d.keys.Pairwise (· < ·)) :
    (l.filterMap fun n => (d.get? n).map (n, ·)) = d.entries.filter (·.1 ∈ l) := by
  have hleft : ((l.filterMap fun n => (d.get? n).map (n, ·)).map Prod.fst).Pairwise (· < ·) := by
    refine List.Pairwise.sublist (map_filterMap_sublist _ Prod.fst id ?_ l) (by simpa using hl)
    intro n e he
    obtain ⟨v, -, rfl⟩ := Option.map_eq_some_iff.1 he
    rfl
  have hright : ((d.entries.filter (·.1 ∈ l)).map Prod.fst).Pairwise (· < ·) :=
    hd.sublist (List.filter_sublist.map _)
  have nodup : ∀ {l : List (Slot × ν)}, (l.map Prod.fst).Pairwise (· < ·) → l.Nodup :=
    fun h => .of_map _ (h.imp Nat.ne_of_lt)
  have hperm := List.perm_ext_iff_of_nodup (nodup hleft) (nodup hright)
  rw [List.pairwise_map] at hleft hright
  refine (hperm.2 fun ⟨n, v⟩ => ?_).eq_of_pairwise
    (fun a b _ _ hab hba => absurd hab (Nat.lt_asymm hba)) hleft hright
  simp only [List.mem_filterMap, Option.map_eq_some_iff, Prod.mk.injEq, List.mem_filter,
    Dict.mem_entries_iff, decide_eq_true_eq]
  constructor
  · rintro ⟨_, hn, _, hv, rfl, rfl⟩
    exact ⟨hv, hn⟩
  · rintro ⟨hv, hn⟩
    exact ⟨n, hn, v, hv, rfl, rfl⟩

namespace Index

/-- The postings name no slot for a term that the card in the slot has not. -/
def Exact (i : Index) : Prop :=
  ∀ slot term, slot ∈ (i.postings.slotsOf term).toList →
    ∃ key p, i.cards.get? key = some p ∧ p.slot = slot ∧ term ∈ p.card.terms.toList

section Exact

/-- A slot of the others is still that of the same card when another card comes in. -/
theorem Exact.put (h : i.Exact) {next : Slot}
    (hposted : ∀ {slot term}, slot ∈ (postings.slotsOf term).toList →
      slot = p.slot ∧ term ∈ p.card.terms.toList ∨ slot ∈ (i.postings.slotsOf term).toList ∧
        ∀ old, i.cards.get? key = some old → old.slot = slot → term ∉ old.card.terms.toList) :
    Exact { i with cards := i.cards.insert key p, postings := postings, nextSlot := next } := by
  intro slot term hs
  rcases hposted hs with ⟨rfl, ht⟩ | ⟨hold, hne⟩
  · exact ⟨key, p, (Dict.get?_insert ..).trans (if_pos rfl), rfl, ht⟩
  · obtain ⟨key', q, hq, hslot, ht⟩ := h slot term hold
    have hkey : key ≠ key' := by
      rintro rfl
      exact hne q hq hslot ht
    exact ⟨key', q, (Dict.get?_insert ..).trans ((if_neg hkey).trans hq), hslot, ht⟩

theorem Exact.store (h : i.Exact) (key : Key) (card : Card Record) : (i.store key card).Exact := by
  unfold Index.store
  cases hc : i.cards.get? key with
  | some old =>
    refine h.put fun {slot term} hs => ?_
    rcases Postings.mem_slotsOf_insert.1 hs with hs | hs
    · obtain ⟨hold, hne⟩ := Postings.mem_slotsOf_erase.1 hs
      refine .inr ⟨hold, fun old' ho hslot ht => ?_⟩
      cases hc.symm.trans ho
      exact hne ⟨hslot.symm, ht⟩
    · exact .inl hs
  | none =>
    refine h.put fun {slot term} hs => ?_
    rcases Postings.mem_slotsOf_insert.1 hs with hs | hs
    · exact .inr ⟨hs, fun old ho => by cases hc.symm.trans ho⟩
    · exact .inl hs

theorem Exact.updateEntry (h : i.Exact) (hc : i.cards.get? key = some p) (entry : Record) :
    Exact { i with cards := i.cards.insert key ⟨p.slot, p.card.withEntry entry⟩ } := by
  refine h.put fun {slot term} hs => ?_
  by_cases hold : slot = p.slot ∧ term ∈ p.card.terms.toList
  · exact .inl hold
  · refine .inr ⟨hs, fun old ho hslot ht => ?_⟩
    cases hc.symm.trans ho
    exact hold ⟨hslot.symm, ht⟩

theorem Exact.remove (h : i.Exact) (hc : i.cards.get? key = some p) :
    Exact { i with
      cards := i.cards.erase key
      postings := i.postings.erase p.slot p.card.terms } := by
  intro slot term hs
  obtain ⟨hold, hne⟩ := Postings.mem_slotsOf_erase.1 hs
  obtain ⟨key', q, hq, hslot, ht⟩ := h slot term hold
  have hkey : key ≠ key' := by
    rintro rfl
    cases hc.symm.trans hq
    exact hne ⟨hslot.symm, ht⟩
  exact ⟨key', q, (Dict.get?_erase ..).trans ((if_neg hkey).trans hq), hslot, ht⟩

theorem Exact.act (h : i.Exact) (op : Operation) : (i.act op).2.Exact := by
  have kept : ∀ {r : Except Error Index}, (∀ j, r = .ok j → j.Exact) → (i.kept r).2.Exact := by
    intro r hr
    cases r with
    | error e => exact h
    | ok j => exact hr j rfl
  cases op with
  | add key record entry =>
    refine kept fun j hj => ?_
    unfold add at hj
    cases hc : i.indexing.card record entry with
    | error e =>
      rw [hc] at hj
      cases hj
    | ok card =>
      rw [hc] at hj
      cases hj
      exact h.store key card
  | update key record entry =>
    refine kept fun j hj => ?_
    unfold update at hj
    cases hc : i.indexing.card record entry with
    | error e =>
      rw [hc] at hj
      cases hj
    | ok card =>
      rw [hc] at hj
      dsimp only [bind, Except.bind] at hj
      split at hj
      · cases hj
        exact h.store key card
      · cases hj
  | updateEntry key entry =>
    refine kept fun j hj => ?_
    unfold Index.updateEntry at hj
    cases hc : i.cards.get? key with
    | none =>
      rw [hc] at hj
      cases hj
    | some p =>
      rw [hc] at hj
      cases hj
      exact h.updateEntry hc entry
  | remove key =>
    unfold Index.act Index.remove
    dsimp only
    cases hc : i.cards.get? key with
    | none => exact h
    | some p => exact h.remove hc
  | clear => exact fun slot term hs => absurd hs List.not_mem_nil
  | cleanup => exact fun slot term hs => h slot term (Postings.mem_slotsOf_compact.1 hs)
  | _ => exact h

theorem Exact.actAll (h : i.Exact) (ops : List Operation) : (i.actAll ops).Exact := by
  induction ops generalizing i with
  | nil => exact h
  | cons op rest ih => exact ih (h.act op)

end Exact

end Index

namespace Cabinet

/-- An operation that gives nothing back but whether it was done. -/
def told (r : Except Error Unit × Cabinet) : Answer × Cabinet := (r.1.map fun _ => .done, r.2)

/-- An operation with its answer; a removal is answered by the summary that was there. -/
def act (c : Cabinet) : Operation → Answer × Cabinet
  | .add key record entry => told (c.add key record entry)
  | .update key record entry => told (c.update key record entry)
  | .updateEntry key entry => told (c.updateEntry key entry)
  | .remove key => ((c.remove key).1.map fun entry => .entry (some entry), (c.remove key).2)
  | .get key => (.ok (.entry (c.get? key)), c)
  | .search query => (.ok (.hits (c.search query)), c)
  | .clear => (.ok .done, c.clear)
  | .cleanup => (.ok .done, c.cleanup)
  | _ => (.ok .done, c)

/-- A cabinet after operations one after the other. -/
def actAll (c : Cabinet) (ops : List Operation) : Cabinet := ops.foldl (fun c op => (c.act op).2) c

/-- The same cards, with the slot of a key and the card in the slot in one dictionary. -/
structure Merges (c : Cabinet) (i : Index) : Prop where
  indexing : c.indexing = i.indexing
  postings : c.postings = i.postings
  nextSlot : c.nextSlot = i.nextSlot
  splits : Splits Placed.slot Placed.card i.cards c.slots c.cards

/-- What the parts of a cabinet say of each other. -/
structure Consistent (c : Cabinet) : Prop where
  slot_lt : ∀ {key slot}, c.slots.get? key = some slot → slot < c.nextSlot
  filed_iff : ∀ {key slot}, c.slots.get? key = some slot ↔
    ∃ card, c.cards.get? slot = some ⟨key, card⟩
  posted_iff : ∀ {slot term}, slot ∈ (c.postings.slotsOf term).toList ↔
    ∃ filed, c.cards.get? slot = some filed ∧ term ∈ filed.contents.terms.toList

section Merges

theorem merges_ofIndexing (x : Indexing) : (ofIndexing x).Merges (Index.ofIndexing x) :=
  ⟨rfl, rfl, rfl, .empty⟩

theorem Merges.consistent (h : c.Merges i) (hs : i.Sound) (he : i.Exact) : c.Consistent where
  slot_lt {key slot} hslot := by
    rw [h.splits.get?_slots, Option.map_eq_some_iff] at hslot
    obtain ⟨p, hp, rfl⟩ := hslot
    exact h.nextSlot ▸ hs.slot_lt hp
  filed_iff {key slot} := by
    rw [h.splits.get?_slots, Option.map_eq_some_iff]
    constructor
    · rintro ⟨p, hp, rfl⟩
      exact ⟨p.card, h.splits.get?_filed hp⟩
    · rintro ⟨card, hc⟩
      obtain ⟨p, hp, hslot, -⟩ := h.splits.mem_filed.1 hc
      exact ⟨p, hp, hslot⟩
  posted_iff {slot term} := by
    rw [h.postings]
    constructor
    · intro hm
      obtain ⟨key, p, hp, rfl, ht⟩ := he slot term hm
      exact ⟨_, h.splits.get?_filed hp, ht⟩
    · rintro ⟨filed, hf, ht⟩
      obtain ⟨p, hp, rfl, hcard⟩ := h.splits.mem_filed.1 hf
      exact hs.posted hp term (hcard.symm ▸ ht)

theorem Merges.get?_eq (h : c.Merges i) (key : Key) : c.get? key = i.get? key := by
  unfold get? Index.get?
  rw [h.splits.get?_slots]
  cases hp : i.cards.get? key with
  | none => rfl
  | some p =>
    simp only [Option.map_some, Option.bind_eq_bind, Option.bind_some, h.splits.get?_filed hp]
    rfl

theorem Merges.contains_eq (h : c.Merges i) (key : Key) : c.contains key = i.contains key := by
  unfold contains Index.contains Dict.contains
  rw [h.splits.get?_slots]
  cases i.cards.get? key <;> rfl

/-- Going through the slots in order is going through the cards in order. -/
theorem Merges.search_eq (h : c.Merges i) (hi : (Index.slots i.cards).Pairwise (· < ·))
    (query : String) : c.search query = i.search query := by
  have hkeys : c.cards.keys.Pairwise (· < ·) := by
    unfold Dict.keys
    rw [h.splits.filed, List.map_map]
    exact hi
  have hfound : ∀ groups,
      ((i.postings.candidates groups).toList.filterMap fun slot => do
        let filed ← c.cards.get? slot
        i.indexing.hit? groups filed.key (some slot) filed.contents) =
      (i.cards.entries.filter fun e => (i.postings.candidates groups).contains e.2.slot).filterMap
        fun e => i.indexing.hit? groups e.1 (some e.2.slot) e.2.card := by
    intro groups
    have hslots := Dict.filterMap_get?_eq (i.postings.candidates groups).increasing hkeys
    rw [h.splits.filed, List.filter_map] at hslots
    have hthen := congrArg (List.filterMap fun e : Slot × Filed (Card Record) =>
      i.indexing.hit? groups e.2.key (some e.1) e.2.contents) hslots
    rw [List.filterMap_filterMap, List.filterMap_map] at hthen
    refine Eq.trans (List.filterMap_congr fun slot _ => ?_) hthen
    cases c.cards.get? slot <;> rfl
  unfold search Index.search
  rw [h.indexing, h.postings]
  dsimp only
  cases hq : i.indexing.analyzer.queryGroups query with
  | nil =>
    have hnone : (i.postings.candidates []).toList = [] := rfl
    simp [OrderedSet.contains, hnone]
  | cons group rest => exact congrArg Hit.ranked (hfound (group :: rest))

theorem Merges.store (h : c.Merges i) (hs : i.Sound) (key : Key) (card : Card Record) :
    (c.store key card).Merges (i.store key card) := by
  unfold Cabinet.store allot unpost Index.store
  rw [h.splits.get?_slots]
  cases hp : i.cards.get? key with
  | some old =>
    dsimp only [Option.map_some]
    rw [h.splits.get?_filed hp]
    refine ⟨h.indexing, ?_, h.nextSlot, h.splits.replace (p := ⟨old.slot, card⟩) hp rfl⟩
    dsimp only
    rw [h.postings]
  | none =>
    dsimp only [Option.map_none]
    rw [h.nextSlot, h.postings]
    exact ⟨h.indexing, rfl, rfl, h.splits.add (p := ⟨i.nextSlot, card⟩) hp fun hq =>
      Nat.ne_of_lt (hs.slot_lt hq)⟩

/-- What an operation on a cabinet comes to, beside the same on an index. -/
structure Matches (c : Cabinet) (r : Answer × Cabinet) (q : Answer × Index) : Prop where
  answer : r.1 = q.1
  merges : r.2.Merges q.2
  unchanged : ∀ e, r.1 = .error e → r.2 = c

theorem matches_error (h : c.Merges i) (e : Error) : c.Matches (.error e, c) (.error e, i) :=
  ⟨rfl, h, fun _ _ => rfl⟩

theorem matches_ok {d : Cabinet} {j : Index} (h : d.Merges j) (reply : Reply) :
    c.Matches (.ok reply, d) (.ok reply, j) :=
  ⟨rfl, h, fun _ he => by cases he⟩

theorem Merges.add (h : c.Merges i) (hs : i.Sound) (key : Key) (record entry : Record) :
    c.Matches (c.act (.add key record entry)) (i.act (.add key record entry)) := by
  change c.Matches (told (c.add key record entry)) (i.kept (i.add key record entry))
  unfold Cabinet.add Index.add
  rw [h.indexing]
  cases i.indexing.card record entry with
  | error e => exact matches_error h e
  | ok card => exact matches_ok (h.store hs key card) _

theorem Merges.update (h : c.Merges i) (hs : i.Sound) (key : Key) (record entry : Record) :
    c.Matches (c.act (.update key record entry)) (i.act (.update key record entry)) := by
  have hc : c.slots.contains key = i.contains key := h.contains_eq key
  change c.Matches (told (c.update key record entry)) (i.kept (i.update key record entry))
  unfold Cabinet.update Index.update
  rw [h.indexing, hc]
  cases i.indexing.card record entry with
  | error e => exact matches_error h e
  | ok card =>
    cases hk : i.contains key with
    | true => exact matches_ok (h.store hs key card) _
    | false => exact matches_error h _

theorem Merges.updateEntry (h : c.Merges i) (key : Key) (entry : Record) :
    c.Matches (c.act (.updateEntry key entry)) (i.act (.updateEntry key entry)) := by
  change c.Matches (told (c.updateEntry key entry)) (i.kept (i.updateEntry key entry))
  unfold Cabinet.updateEntry Index.updateEntry
  rw [h.splits.get?_slots]
  cases hp : i.cards.get? key with
  | none => exact matches_error h _
  | some p =>
    dsimp only [Option.map_some]
    rw [h.splits.get?_filed hp]
    have hm : Merges { c with cards := c.cards.insert p.slot ⟨key, p.card.withEntry entry⟩ }
        { i with cards := i.cards.insert key ⟨p.slot, p.card.withEntry entry⟩ } :=
      ⟨h.indexing, h.postings, h.nextSlot, h.splits.replace hp rfl⟩
    exact matches_ok hm _

/-- A key that has a slot has a card there, so it is not given up for nothing. -/
theorem Merges.remove (h : c.Merges i) (key : Key) :
    c.Matches (c.act (.remove key)) (i.act (.remove key)) := by
  unfold act Cabinet.remove Index.act Index.remove
  dsimp only
  rw [h.splits.get?_slots]
  cases hp : i.cards.get? key with
  | none => exact matches_error h _
  | some p =>
    dsimp only [Option.map_some]
    rw [h.splits.get?_filed hp]
    have hm : Merges
        { c with
          slots := c.slots.erase key
          cards := c.cards.erase p.slot
          postings := c.postings.erase p.slot p.card.terms }
        { i with
          cards := i.cards.erase key
          postings := i.postings.erase p.slot p.card.terms } :=
      ⟨h.indexing, congrArg (Postings.erase · p.slot p.card.terms) h.postings, h.nextSlot,
        h.splits.erase hp⟩
    exact matches_ok hm _

/-- A cabinet does what the index does with its slots and cards in one dictionary. -/
theorem Merges.act (h : c.Merges i) (hk : i.Keeps m) (op : Operation) :
    c.Matches (c.act op) (i.act op) := by
  cases op with
  | add key record entry => exact h.add hk.sound key record entry
  | update key record entry => exact h.update hk.sound key record entry
  | updateEntry key entry => exact h.updateEntry key entry
  | remove key => exact h.remove key
  | get key =>
    have hg : (.ok (.entry (c.get? key)) : Answer) = .ok (.entry (i.get? key)) := by
      rw [h.get?_eq]
    exact ⟨hg, h, fun _ _ => rfl⟩
  | search query =>
    have hh : (.ok (.hits (c.search query)) : Answer) = .ok (.hits (i.search query)) := by
      rw [h.search_eq hk.increasing]
    exact ⟨hh, h, fun _ _ => rfl⟩
  | clear =>
    have hm : c.clear.Merges i.clear := by
      unfold clear Index.clear
      rw [h.indexing]
      exact merges_ofIndexing _
    exact matches_ok hm _
  | cleanup =>
    have hm : c.cleanup.Merges i.cleanup :=
      ⟨h.indexing, congrArg Postings.compact h.postings, h.nextSlot, h.splits⟩
    exact matches_ok hm _
  | _ => exact ⟨rfl, h, fun _ _ => rfl⟩

theorem Merges.actAll (h : c.Merges i) (hk : i.Keeps m) (ops : List Operation) :
    (c.actAll ops).Merges (i.actAll ops) := by
  induction ops generalizing c i m with
  | nil => exact h
  | cons op rest ih => exact ih (h.act hk op).merges (Index.follows_act hk op).keeps

end Merges

section Runs

/-- Whatever is done with a cabinet, its slots, cards and postings stay in step, it answers as its
roster does, and what fails leaves it as it was. -/
theorem acts_as_roster (x : Indexing) (ops : List Operation) :
    let c := (ofIndexing x).actAll ops
    let m := Roster.afterAll x .empty ops
    c.Consistent ∧ c.size = m.size ∧
      ∀ op, Roster.Answers x m op (c.act op).1 ∧
        ∀ e, (c.act op).1 = .error e → (c.act op).2 = c := by
  intro c m
  have hempty := Index.keeps_ofIndexing x
  obtain ⟨hx, hk⟩ := hempty.actAll ops
  have hexact : ((Index.ofIndexing x).actAll ops).Exact :=
    Index.Exact.actAll (fun _ _ hs => absurd hs List.not_mem_nil) ops
  have hc : c.Merges ((Index.ofIndexing x).actAll ops) :=
    (merges_ofIndexing x).actAll hempty ops
  refine ⟨hc.consistent hk.sound hexact, ?_, fun op => ⟨?_, (hc.act hk op).unchanged⟩⟩
  · have hm : _ = m := hk.cards
    rw [← hm, Dict.size_map]
    exact hc.splits.size_eq
  · have ha := (Index.follows_act hk op).answers
    rw [hx] at ha
    exact (hc.act hk op).answer.symm ▸ ha

end Runs

end Cabinet

end Cardfile
