import Cardfile.Proofs.Scenes
import Cardfile.Proofs.Slots
import Cardfile.Proofs.Trimming
import Cardfile.Versions.Archive

/-! # The archive and the version store

An archive to which the same is done as to a version store tells the same: it has the slots of keys
and the chains in the slots apart, where the store has both in one dictionary.
-/

namespace Cardfile

variable {ε : Type} {a : Archive ε} {s : VersionStore ε} {key : Key} {slot : Slot} {c : Chain ε}
  {w : Write ε} {ws : List (Write ε)} {time : Stamp}

namespace VersionStore

/-- The chain of a key; that of a new one is empty. -/
def ready (s : VersionStore ε) (key : Key) : Chain ε := (s.chain? key).getD ⟨s.nextSlot, []⟩

/-- The store with a chain for a key. -/
def opened (s : VersionStore ε) (key : Key) : VersionStore ε :=
  match s.chain? key with
  | some _ => s
  | none => { s with chains := s.chains.insert key (s.ready key), nextSlot := s.nextSlot + 1 }

theorem clock_opened (s : VersionStore ε) : (s.opened key).clock = s.clock := by
  unfold opened
  cases s.chain? key <;> rfl

/-- A write pushes its version onto the chain of its key. -/
theorem put_eq : s.put w =
    { s.opened w.1 with
      chains := (s.opened w.1).chains.insert w.1 ((s.ready w.1).push ⟨s.clock, w.2⟩)
      postings :=
        match w.2 with
        | some card => (s.opened w.1).postings.insert (s.ready w.1).slot card.terms
        | none => (s.opened w.1).postings } := by
  unfold put opened ready
  cases s.chain? w.1 with
  | some c => rfl
  | none =>
    dsimp only [Option.getD_none]
    rw [Dict.insert_insert]
    rfl

end VersionStore

namespace Archive

/-- The same versions, with the slot of a key and the chain in the slot in one dictionary. -/
structure Mirrors (a : Archive ε) (s : VersionStore ε) : Prop where
  splits : Splits Chain.slot Chain.versions s.chains a.slots a.chains
  postings : a.postings = s.postings
  log : a.log = s.log
  nextSlot : a.nextSlot = s.nextSlot
  clock : a.clock = s.clock

section Reads

theorem Mirrors.slotOf?_eq (h : a.Mirrors s) (key : Key) : a.slotOf? key = s.slotOf? key :=
  h.splits.get?_slots key

theorem Mirrors.keyOf?_eq (h : a.Mirrors s) (slot : Slot) : a.keyOf? slot = s.keyOf? slot := by
  unfold keyOf? VersionStore.keyOf? VersionStore.inSlot?
  rw [h.splits.get?_eq_find?, Option.map_map]
  rfl

theorem Mirrors.chainIn?_eq (h : a.Mirrors s) (slot : Slot) :
    a.chainIn? slot = (s.inSlot? slot).map Prod.snd := by
  unfold chainIn? VersionStore.inSlot?
  rw [h.splits.get?_eq_find?, Option.map_map]
  refine Option.map_congr fun e he => ?_
  have hslot : e.2.slot = slot := by simpa using List.find?_some he
  exact hslot ▸ rfl

theorem Mirrors.chainIn?_of_some (h : a.Mirrors s) (hc : s.chain? key = some c) :
    a.chainIn? c.slot = some c := by
  unfold chainIn?
  rw [h.splits.get?_filed hc]
  rfl

theorem Mirrors.latestInSlot?_eq (h : a.Mirrors s) (slot : Slot) :
    a.latestInSlot? slot = s.latestInSlot? slot := by
  unfold latestInSlot? VersionStore.latestInSlot?
  rw [h.chainIn?_eq]
  cases s.inSlot? slot <;> rfl

theorem Mirrors.latest?_eq (h : a.Mirrors s) (key : Key) : a.latest? key = s.latest? key := by
  unfold latest? VersionStore.latest?
  rw [h.slotOf?_eq, VersionStore.slotOf?]
  cases hc : s.chain? key with
  | none => rfl
  | some c =>
    simp only [Option.map_some, Option.bind_eq_bind, Option.bind_some, latestInSlot?,
      h.chainIn?_of_some hc]

theorem Mirrors.atInSlot?_eq (h : a.Mirrors s) (slot : Slot) (time : Stamp) :
    a.atInSlot? slot time = s.atInSlot? slot time := by
  unfold atInSlot? VersionStore.atInSlot?
  rw [h.chainIn?_eq]
  cases s.inSlot? slot <;> rfl

theorem Mirrors.at?_eq (h : a.Mirrors s) (key : Key) (time : Stamp) :
    a.at? key time = s.at? key time := by
  unfold at? VersionStore.at?
  rw [h.slotOf?_eq, VersionStore.slotOf?]
  cases hc : s.chain? key with
  | none => rfl
  | some c =>
    simp only [Option.map_some, Option.bind_eq_bind, Option.bind_some, atInSlot?,
      h.chainIn?_of_some hc]

theorem Mirrors.lastCommit_eq (h : a.Mirrors s) (key : Key) :
    a.lastCommit key = s.lastCommit key := by
  unfold lastCommit VersionStore.lastCommit
  rw [h.slotOf?_eq, VersionStore.slotOf?]
  cases hc : s.chain? key with
  | none => rfl
  | some c => rw [Option.map_some, Option.bind_some, h.chainIn?_of_some hc]

theorem Mirrors.allChains_eq (h : a.Mirrors s) : a.allChains = s.chains.values := by
  unfold allChains
  rw [h.splits.filed, List.map_map]
  rfl

theorem Mirrors.termsSince_eq (h : a.Mirrors s) (slot : Slot) (time : Stamp) :
    a.termsSince slot time = s.termsSince slot time := by
  unfold termsSince VersionStore.termsSince
  rw [h.chainIn?_eq]
  cases s.inSlot? slot <;> rfl

end Reads

section Writes

theorem mirrors_empty : (empty : Archive ε).Mirrors .empty := ⟨.empty, rfl, rfl, rfl, rfl⟩

theorem Mirrors.clear (h : a.Mirrors s) : a.clear.Mirrors s.clear :=
  ⟨.empty, rfl, rfl, rfl, congrArg Nat.succ h.clock⟩

theorem Mirrors.put_fst (h : a.Mirrors s) (w : Write ε) :
    (s.put w).slotOf? w.1 = some (a.put w).1 := by
  have hslot : a.slots.get? w.1 = s.slotOf? w.1 := h.slotOf?_eq w.1
  rw [VersionStore.slotOf?_put, if_pos rfl]
  change some _ = some (a.allot w.1).1
  unfold allot
  rw [hslot, ← h.nextSlot]
  cases s.slotOf? w.1 <;> rfl

theorem Mirrors.allot (h : a.Mirrors s) (hs : s.Sound) (key : Key) :
    (s.opened key).chain? key = some (s.ready key) ∧ (a.allot key).1 = (s.ready key).slot ∧
      (a.allot key).2.Mirrors (s.opened key) := by
  have hslot : a.slots.get? key = (s.chain? key).map Chain.slot := h.splits.get?_slots key
  unfold Archive.allot VersionStore.opened VersionStore.ready
  rw [hslot]
  cases hc : s.chain? key with
  | some c => exact ⟨hc, rfl, h⟩
  | none =>
    have hsplits := h.splits.add (p := ⟨s.nextSlot, []⟩) hc fun hq => Nat.ne_of_lt (hs.slot_lt hq)
    dsimp only [Option.map_none]
    rw [h.nextSlot]
    exact ⟨(Dict.get?_insert ..).trans (if_pos rfl), rfl, hsplits, h.postings, h.log, rfl, h.clock⟩

theorem Mirrors.push (h : a.Mirrors s) (hc : s.chain? key = some c) (v : Version ε) :
    (a.push c.slot v).Mirrors { s with chains := s.chains.insert key (c.push v) } := by
  unfold Archive.push
  rw [h.splits.get?_filed hc]
  exact ⟨h.splits.replace hc rfl, h.postings, h.log, h.nextSlot, h.clock⟩

theorem Mirrors.put (h : a.Mirrors s) (hs : s.Sound) (w : Write ε) :
    (a.put w).2.Mirrors (s.put w) := by
  obtain ⟨hchain, hslot, hm⟩ := h.allot hs w.1
  have hclock : (a.allot w.1).2.clock = s.clock := hm.clock.trans s.clock_opened
  rw [VersionStore.put_eq, ← hclock]
  unfold Archive.put
  dsimp only
  rw [hslot]
  cases w.2 with
  | none => exact hm.push hchain _
  | some card =>
    have hposted : Mirrors
        { (a.allot w.1).2 with
          postings := (a.allot w.1).2.postings.insert (s.ready w.1).slot card.terms }
        { s.opened w.1 with
          postings := (s.opened w.1).postings.insert (s.ready w.1).slot card.terms } :=
      ⟨hm.splits, congrArg (Postings.insert · _ _) hm.postings, hm.log, hm.nextSlot, hm.clock⟩
    exact hposted.push hchain _

/-- The slots come in the order of the writes, and they are those that the keys have in the end. -/
theorem Mirrors.putAll (h : a.Mirrors s) (hs : s.Sound) (ws : List (Write ε)) :
    (a.putAll ws).1 = ws.filterMap (fun w => (ws.foldl VersionStore.put s).slotOf? w.1) ∧
      (a.putAll ws).2.Mirrors (ws.foldl VersionStore.put s) := by
  induction ws generalizing a s with
  | nil => exact ⟨rfl, h⟩
  | cons w rest ih =>
    obtain ⟨hslots, hrest⟩ := ih (h.put hs w) (hs.put w)
    refine ⟨?_, hrest⟩
    have hslot := VersionStore.slotOf?_puts_of_some (h.put_fst w) rest
    rw [List.foldl_cons, List.filterMap_cons, hslot, ← hslots]
    rfl

theorem Mirrors.apply (h : a.Mirrors s) (hs : s.Sound) (ws : List (Write ε)) :
    (a.apply ws).Mirrors (s.apply ws) := by
  have htick : { a with clock := a.clock + 1 }.Mirrors { s with clock := s.clock + 1 } :=
    ⟨h.splits, h.postings, h.log, h.nextSlot, congrArg Nat.succ h.clock⟩
  obtain ⟨hslots, hputs⟩ := htick.putAll hs.tick ws
  refine ⟨hputs.splits, hputs.postings, ?_, hputs.nextSlot, hputs.clock⟩
  change (_, _) :: _ = (_, _) :: _
  rw [hputs.clock, hslots, hputs.log]

end Writes

section Prunings

theorem Mirrors.trimmed (h : a.Mirrors s) (time : Stamp) :
    (a.trimmed time).Mirrors { s with chains := s.chains.map fun _ c => c.pruned time } :=
  ⟨h.splits.map (Chain.pruned · time) (fun _ => rfl) (fun _ => rfl), h.postings, h.log,
    h.nextSlot, h.clock⟩

theorem Mirrors.discard (h : a.Mirrors s) (hc : s.chain? key = some c) :
    (a.discard c.slot).Mirrors { s with chains := s.chains.erase key } := by
  unfold Archive.discard
  rw [h.splits.get?_filed hc]
  exact ⟨h.splits.erase hc, h.postings, h.log, h.nextSlot, h.clock⟩

/-- Each chain that is discarded is still there when its turn comes. -/
theorem Mirrors.discards (h : a.Mirrors s) {dead : List (Key × Chain ε)}
    (hn : (dead.map Prod.fst).Nodup) (hd : ∀ e ∈ dead, s.chain? e.1 = some e.2) :
    ((dead.map (·.2.slot)).foldl Archive.discard a).Mirrors
      { s with chains := (dead.map Prod.fst).foldl Dict.erase s.chains } := by
  induction dead generalizing a s with
  | nil => exact h
  | cons e rest ih =>
    obtain ⟨hfirst, hrest⟩ := List.nodup_cons.1 hn
    refine ih (h.discard (hd e List.mem_cons_self)) hrest fun e' he' => ?_
    have hne : e.1 ≠ e'.1 := fun he => hfirst (he ▸ List.mem_map_of_mem he')
    exact (Dict.get?_erase ..).trans ((if_neg hne).trans (hd e' (List.mem_cons_of_mem _ he')))

theorem Mirrors.discardDead (h : a.Mirrors s) (time : Stamp) :
    ((a.deadSlots time).foldl Archive.discard a).Mirrors
      { s with chains := s.chains.filter fun _ c => !c.isDead time } := by
  let dead := s.chains.entries.filter (·.2.isDead time)
  have hslots : a.deadSlots time = dead.map (·.2.slot) := by
    unfold deadSlots
    rw [h.allChains_eq, Dict.values, List.filter_map, List.map_map]
    rfl
  have hn : (dead.map Prod.fst).Nodup := (List.filter_sublist.map _).nodup s.chains.nodup
  have hd := h.discards hn fun e he => Dict.mem_entries_iff.1 (List.mem_filter.1 he).1
  rw [hslots]
  convert hd using 2
  rw [Dict.foldl_erase]
  refine Dict.ext_entries (List.filter_congr fun e he => ?_)
  have hiff : e.1 ∈ dead.map Prod.fst ↔ e.2.isDead time = true := by
    constructor
    · intro hm
      obtain ⟨e', he', hkey⟩ := List.mem_map.1 hm
      obtain ⟨hmem, hdead⟩ := List.mem_filter.1 he'
      obtain rfl := List.inj_on_of_nodup_map s.chains.nodup hmem he hkey
      exact hdead
    · exact fun hdead => List.mem_map_of_mem (List.mem_filter.2 ⟨he, hdead⟩)
  by_cases hdead : e.2.isDead time = true <;> simp [hiff, hdead]

theorem Mirrors.pruned (h : a.Mirrors s) (time : Stamp) :
    (a.pruned time).Mirrors (s.pruned time) := by
  have hkept := (h.trimmed time).discardDead time
  refine ⟨hkept.splits, ?_, ?_, hkept.nextSlot, hkept.clock⟩
  · exact congrArg (List.foldl Chain.post Postings.empty) hkept.allChains_eq
  · exact congrArg (List.filter _) hkept.log

/-- Counted over all chains first and over the dead ones then, or chain by chain. -/
theorem sum_dropped (time : Stamp) (cs : List (Chain ε)) :
    cs.foldr (fun c n => (Version.stale time c.versions).length + n) 0 +
        ((cs.map (·.pruned time)).filter (·.isDead time)).foldr
          (fun c n => c.versions.length + n) 0 =
      cs.foldr (fun c n => c.dropped time + n) 0 := by
  induction cs with
  | nil => rfl
  | cons c rest ih =>
    have hdropped : c.dropped time = (Version.stale time c.versions).length +
        if (c.pruned time).isDead time then (c.pruned time).versions.length else 0 := rfl
    rw [List.map_cons, List.foldr_cons, List.foldr_cons, hdropped, ← ih, List.filter_cons]
    by_cases hdead : (c.pruned time).isDead time = true
    · rw [if_pos hdead, if_pos hdead, List.foldr_cons]
      omega
    · rw [if_neg hdead, if_neg hdead]
      omega

theorem Mirrors.dropped_eq (h : a.Mirrors s) (time : Stamp) : a.dropped time = s.dropped time := by
  unfold Archive.dropped VersionStore.dropped
  rw [(h.trimmed time).allChains_eq, h.allChains_eq, ← sum_dropped]
  simp [Dict.values, Dict.map, Function.comp_def]

end Prunings

section Reached

/-- What an archive and a version store tell in the same way. -/
structure Agrees (a : Archive ε) (s : VersionStore ε) : Prop where
  slotOf : a.slotOf? = s.slotOf?
  keyOf : a.keyOf? = s.keyOf?
  latest : a.latest? = s.latest?
  latestInSlot : a.latestInSlot? = s.latestInSlot?
  atTime : a.at? = s.at?
  atInSlot : a.atInSlot? = s.atInSlot?
  lastCommit : a.lastCommit = s.lastCommit
  candidates : a.postings.candidates = s.postings.candidates
  termsSince : a.termsSince = s.termsSince
  committedAfter : a.committedAfter = s.committedAfter
  liveCount : a.liveCount = s.liveCount
  dropped : a.dropped = s.dropped
  clock : a.clock = s.clock

theorem Mirrors.agrees (h : a.Mirrors s) : a.Agrees s where
  slotOf := funext h.slotOf?_eq
  keyOf := funext h.keyOf?_eq
  latest := funext h.latest?_eq
  latestInSlot := funext h.latestInSlot?_eq
  atTime := funext fun key => funext (h.at?_eq key)
  atInSlot := funext fun slot => funext (h.atInSlot?_eq slot)
  lastCommit := funext h.lastCommit_eq
  candidates := congrArg Postings.candidates h.postings
  termsSince := funext fun slot => funext (h.termsSince_eq slot)
  committedAfter := by
    unfold Archive.committedAfter VersionStore.committedAfter
    rw [h.log]
  liveCount := congrArg (List.countP Chain.isLive) h.allChains_eq
  dropped := funext h.dropped_eq
  clock := h.clock

/-- The archives that commits of distinct keys lead to, with prunings and clearings among them. -/
inductive Reached : Archive ε → Prop
  | empty : Reached empty
  | apply {a : Archive ε} {ws : List (Write ε)} :
      Reached a → (ws.map Prod.fst).Nodup → Reached (a.apply ws)
  | pruned {a : Archive ε} (time : Stamp) : Reached a → Reached (a.pruned time)
  | clear {a : Archive ε} : Reached a → Reached a.clear

theorem Reached.exists_mirrored (h : a.Reached) : ∃ s, VersionStore.Reached s ∧ a.Mirrors s := by
  induction h with
  | empty => exact ⟨_, .empty, mirrors_empty⟩
  | apply _ hn ih =>
    obtain ⟨s, hs, hm⟩ := ih
    exact ⟨_, hs.apply hn, hm.apply hs.sound _⟩
  | pruned time _ ih =>
    obtain ⟨s, hs, hm⟩ := ih
    exact ⟨_, hs.pruned time, hm.pruned time⟩
  | clear _ ih =>
    obtain ⟨s, hs, hm⟩ := ih
    exact ⟨_, hs.clear, hm.clear⟩

/-- Each version store that commits lead to is an archive in which each key and what is kept of it
have been put together. -/
theorem exists_mirrors (h : VersionStore.Reached s) : ∃ a : Archive ε, a.Reached ∧ a.Mirrors s := by
  induction h with
  | empty => exact ⟨_, .empty, mirrors_empty⟩
  | apply hs hn ih =>
    obtain ⟨a, ha, hm⟩ := ih
    exact ⟨_, ha.apply hn, hm.apply hs.sound _⟩
  | pruned time _ ih =>
    obtain ⟨a, ha, hm⟩ := ih
    exact ⟨_, ha.pruned time, hm.pruned time⟩
  | clear _ ih =>
    obtain ⟨a, ha, hm⟩ := ih
    exact ⟨_, ha.clear, hm.clear⟩

end Reached

end Archive

section Moves

theorem SharedIndex.StoreMove.reached {i : SharedIndex} {store : VersionStore Record}
    (h : i.StoreMove store) (hr : i.store.Reached) : store.Reached := by
  cases h with
  | kept => exact hr
  | applied writes hn => exact hr.apply hn
  | pruned => exact hr.pruned _
  | cleared => exact hr.clear

theorem SharedIndex.reached_ofIndex (o : KeyOrder) (p : Index) : (ofIndex o p).store.Reached := by
  unfold ofIndex
  dsimp only
  split
  · exact .empty
  · refine VersionStore.Reached.empty.apply ?_
    rw [List.map_map]
    exact p.cards.nodup

theorem Scene.Tidy.reached_after {x : Scene} (h : x.Tidy) (hr : x.index.store.Reached)
    (moves : List Move) : (x.after moves).index.store.Reached := by
  induction moves generalizing x with
  | nil => exact hr
  | cons m rest ih => exact ih (h.take m) ((h.publishes m).move.reached hr)

/-- Whatever moves are made, the store is one that an archive agrees with. -/
theorem Scene.exists_agrees (o : KeyOrder) (p : Index) (mode : Isolation) (moves : List Move) :
    ∃ a : Archive Record, a.Reached ∧ a.Agrees ((opening o p mode).after moves).index.store := by
  have hr := (tidy_opening o p mode).reached_after (SharedIndex.reached_ofIndex o p) moves
  obtain ⟨a, ha, hm⟩ := Archive.exists_mirrors hr
  exact ⟨a, ha, hm.agrees⟩

end Moves

end Cardfile
