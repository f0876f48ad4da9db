import Cardfile.Indexing
import Cardfile.Postings

/-! # The index

A cabinet in which the slot of a key and the card in the slot are in one dictionary, in the order in
which the keys came in.
-/

namespace Cardfile

structure Placed (ε : Type) where
  slot : Slot
  card : Card ε

structure Index where
  indexing : Indexing
  cards : Dict Key (Placed Record)
  postings : Postings
  nextSlot : Slot

namespace Index

def ofIndexing (x : Indexing) : Index := ⟨x, .empty, .empty, 0⟩

instance : Inhabited Index := ⟨ofIndexing .usual⟩

def size (i : Index) : Nat := i.cards.size

def get? (i : Index) (key : Key) : Option Record := (i.cards.get? key).map (·.card.entry)

def contains (i : Index) (key : Key) : Bool := i.cards.contains key

/-- Puts a card in the place of the one under its key, or in the next slot. -/
def store (i : Index) (key : Key) (card : Card Record) : Index :=
  match i.cards.get? key with
  | some old =>
    { i with
      cards := i.cards.insert key ⟨old.slot, card⟩
      postings := (i.postings.erase old.slot old.card.terms).insert old.slot card.terms }
  | none =>
    { i with
      cards := i.cards.insert key ⟨i.nextSlot, card⟩
      postings := i.postings.insert i.nextSlot card.terms
      nextSlot := i.nextSlot + 1 }

def add (i : Index) (key : Key) (record entry : Record) : Except Error Index := do
  pure (i.store key (← i.indexing.card record entry))

def update (i : Index) (key : Key) (record entry : Record) : Except Error Index := do
  let card ← i.indexing.card record entry
  if i.contains key then pure (i.store key card) else throw (.unknownKey key)

def updateEntry (i : Index) (key : Key) (entry : Record) : Except Error Index :=
  match i.cards.get? key with
  | some old =>
    .ok { i with cards := i.cards.insert key ⟨old.slot, old.card.withEntry entry⟩ }
  | none => .error (.unknownKey key)

def remove (i : Index) (key : Key) : Except Error (Record × Index) :=
  match i.cards.get? key with
  | some old =>
    .ok (old.card.entry,
      { i with
        cards := i.cards.erase key
        postings := i.postings.erase old.slot old.card.terms })
  | none => .error (.unknownKey key)

/-- Only cards in candidate slots are scored. -/
def search (i : Index) (query : String) : List (Hit Record) :=
  let groups := i.indexing.analyzer.queryGroups query
  let candidates := i.postings.candidates groups
  Hit.ranked <| (i.cards.entries.filter fun e => candidates.contains e.2.slot).filterMap fun e =>
    i.indexing.hit? groups e.1 (some e.2.slot) e.2.card

def clear (i : Index) : Index := ofIndexing i.indexing

def cleanup (i : Index) : Index := { i with postings := i.postings.compact }

end Index

end Cardfile
