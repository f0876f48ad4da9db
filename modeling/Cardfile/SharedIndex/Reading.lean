import Cardfile.SharedIndex.State

/-! # Reading in a transaction

A transaction sees its own writes, and of the others what its level lets it see. Reading a key
goes to its chain. A search goes to the postings, and keys whose visible value is not the committed
one are treated apart.
-/

namespace Cardfile.SharedIndex

/-- What another transaction has written to a key and not committed. -/
def dirty? (i : SharedIndex) (t : Transaction Record) (key : Key) : Option Staged :=
  match i.pending.get? key with
  | some (owner, value) => if owner = t.id then none else some value
  | none => none

/-- The value of a key that a transaction has not written itself. -/
def committedOrDirty (i : SharedIndex) (t : Transaction Record) (key : Key) : Staged :=
  match t.level with
  | .none => (i.dirty? t key).getD (i.store.latest? key)
  | .readUncommitted => (i.dirty? t key).getD (i.store.latest? key)
  | .readCommitted => i.store.latest? key
  | .repeatableRead =>
    match t.pins.get? key with
    | some pin => pin.value
    | none => i.store.latest? key
  | .serializable => i.store.at? key t.start

/-- The value of a key in a transaction. -/
def seen (i : SharedIndex) (t : Transaction Record) (key : Key) : Staged :=
  (t.ownWrite? key).getD (i.committedOrDirty t key)

/-- What a transaction keeps in mind after it has read a key: the value, so as to read it again,
or the key, so as to check it when it commits. -/
def remember (i : SharedIndex) (t : Transaction Record) (key : Key) : Transaction Record :=
  if (t.ownWrite? key).isSome then t
  else
    match t.level with
    | .repeatableRead =>
      { t with pins := t.pins.insertNew key ⟨i.store.lastCommit key, i.store.latest? key⟩ }
    | .serializable => { t with reads := t.reads.insert key }
    | _ => t

def get (i : SharedIndex) (t : Transaction Record) (key : Key) :
    Option Record × Transaction Record :=
  ((i.seen t key).map Card.entry, i.remember t key)

def overlay {ν : Type} (d : Dict Key ν) (l : List (Key × ν)) : Dict Key ν :=
  l.foldl (fun d e => d.insert e.1 e.2) d

/-- The keys whose value does not come from the last commit or the snapshot, with the value. -/
def overrides (i : SharedIndex) (t : Transaction Record) : Dict Key Staged :=
  let others : Dict Key Staged :=
    if t.level.readsDirty then
      (i.pending.filter fun _ p => p.1 ≠ t.id).map fun _ p => p.2
    else .empty
  let pinned := if t.level = .repeatableRead then t.pins.entries else []
  overlay (overlay others (pinned.map fun e => (e.1, e.2.value))) t.writes.entries

/-- The version of a chain that a transaction reads. -/
def current? (t : Transaction Record) (c : Chain Record) : Staged := do
  (← if t.level = .serializable then c.at? t.start else c.latest?).value

/-- Hits among the keys that are not overridden, each with the pin that reading it would set. -/
def storedHits (i : SharedIndex) (t : Transaction Record) (query : List TermSet) :
    List (Hit Record × Pin Record) :=
  let overrides := i.overrides t
  let candidates := i.store.postings.candidates query
  i.store.chains.entries.filterMap fun (key, c) =>
    if !candidates.contains c.slot || overrides.contains key then none
    else do
      let card ← current? t c
      let hit ← i.indexing.hit? query key (some c.slot) card
      pure (hit, ⟨i.store.lastCommit key, some card⟩)

/-- Hits among the keys that are overridden. -/
def overriddenHits (i : SharedIndex) (t : Transaction Record) (query : List TermSet) :
    List (Hit Record) :=
  (i.order.entries i.store.clock (i.overrides t)).filterMap fun (key, value) => do
    i.indexing.hit? query key (i.store.slotOf? key) (← value)

/-- What a transaction keeps in mind of a search: the values of the hits, or their keys and the
terms that it searched for. -/
def rememberSearch (t : Transaction Record) (query : List TermSet)
    (stored : List (Hit Record × Pin Record)) (all : List (Hit Record)) : Transaction Record :=
  match t.level with
  | .repeatableRead =>
    { t with pins := stored.foldl (fun pins h => pins.insertNew h.1.key h.2) t.pins }
  | .serializable =>
    { t with reads := t.reads.insertAll (all.map Hit.key), searches := t.searches ++ [query] }
  | _ => t

def search (i : SharedIndex) (t : Transaction Record) (query : List TermSet) :
    List (Hit Record) × Transaction Record :=
  let stored := i.storedHits t query
  let all := stored.map Prod.fst ++ i.overriddenHits t query
  (Hit.ranked all, rememberSearch t query stored all)

end Cardfile.SharedIndex
