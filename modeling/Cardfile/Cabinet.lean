import Cardfile.Indexing
import Cardfile.Postings

/-! # The cabinet

Cards in numbered slots, found by the terms of their records. A list says which slot a key has; a
key that comes in gets the next slot and keeps it until it is removed. The postings name cards by
their slots.
-/

namespace Cardfile

structure Cabinet where
  indexing : Indexing
  slots : Dict Key Slot
  cards : Dict Slot (Filed (Card Record))
  postings : Postings
  nextSlot : Slot

namespace Cabinet

def ofIndexing (x : Indexing) : Cabinet := ⟨x, .empty, .empty, .empty, 0⟩

def usual : Cabinet := ofIndexing .usual

instance : Inhabited Cabinet := ⟨usual⟩

def ofConfig (c : Config) : Except Error Cabinet := ofIndexing <$> Indexing.ofConfig c

def size (c : Cabinet) : Nat := c.cards.size

def isEmpty (c : Cabinet) : Bool := c.size = 0

def get? (c : Cabinet) (key : Key) : Option Record := do
  let slot ← c.slots.get? key
  let filed ← c.cards.get? slot
  pure filed.contents.entry

def contains (c : Cabinet) (key : Key) : Bool := c.slots.contains key

/-- Settings stay as they are once there are cards, whose terms were found by them. -/
def changeSettings (c : Cabinet) (change : Analyzer.Settings → Analyzer.Settings) :
    Except Error Cabinet :=
  if c.cards.isEmpty then do
    pure { c with indexing := ← c.indexing.withSettings (change c.indexing.settings) }
  else .error .settingsFixed

def setStopWords (c : Cabinet) (words : List String) : Except Error Cabinet :=
  c.changeSettings ({ · with stopWords := words })

def setSynonyms (c : Cabinet) (table : Synonyms) : Except Error Cabinet :=
  c.changeSettings ({ · with synonyms := table })

/-- Takes the terms of the card in a slot out of the postings, if there is one. -/
def unpost (c : Cabinet) (slot : Slot) : Cabinet :=
  match c.cards.get? slot with
  | some old => { c with postings := c.postings.erase slot old.contents.terms }
  | none => c

/-- The slot of a key. A new key gets the next one; an old card is on its way out. -/
def allot (c : Cabinet) (key : Key) : Slot × Cabinet :=
  match c.slots.get? key with
  | some slot => (slot, c.unpost slot)
  | none => (c.nextSlot,
      { c with slots := c.slots.insert key c.nextSlot, nextSlot := c.nextSlot + 1 })

/-- Files a card in the slot of its key. -/
def store (c : Cabinet) (key : Key) (card : Card Record) : Cabinet :=
  let (slot, c) := c.allot key
  { c with
    postings := c.postings.insert slot card.terms
    cards := c.cards.insert slot ⟨key, card⟩ }

def add (c : Cabinet) (key : Key) (record entry : Record) : Except Error Unit × Cabinet :=
  match c.indexing.card record entry with
  | .ok card => (.ok (), c.store key card)
  | .error e => (.error e, c)

def update (c : Cabinet) (key : Key) (record entry : Record) : Except Error Unit × Cabinet :=
  match c.indexing.card record entry with
  | .ok card =>
    if c.slots.contains key then (.ok (), c.store key card) else (.error (.unknownKey key), c)
  | .error e => (.error e, c)

def updateEntry (c : Cabinet) (key : Key) (entry : Record) : Except Error Unit × Cabinet :=
  match c.slots.get? key with
  | none => (.error (.unknownKey key), c)
  | some slot =>
    match c.cards.get? slot with
    | some filed =>
      (.ok (), { c with cards := c.cards.insert slot ⟨filed.key, filed.contents.withEntry entry⟩ })
    | none => (.error (.unknownKey key), c)

/-- The key gives its slot back before the card is looked for. -/
def remove (c : Cabinet) (key : Key) : Except Error Record × Cabinet :=
  match c.slots.get? key with
  | none => (.error (.unknownKey key), c)
  | some slot =>
    let c := { c with slots := c.slots.erase key }
    match c.cards.get? slot with
    | none => (.error (.unknownKey key), c)
    | some filed => (.ok filed.contents.entry,
        { c with
          cards := c.cards.erase slot
          postings := c.postings.erase slot filed.contents.terms })

/-- Goes through the candidate slots in order and passes over empty ones. -/
def search (c : Cabinet) (query : String) : List (Hit Record) :=
  match c.indexing.analyzer.queryGroups query with
  | [] => Hit.ranked []
  | groups => Hit.ranked <| (c.postings.candidates groups).toList.filterMap fun slot => do
      let filed ← c.cards.get? slot
      c.indexing.hit? groups filed.key (some slot) filed.contents

def clear (c : Cabinet) : Cabinet := ofIndexing c.indexing

def cleanup (c : Cabinet) : Cabinet := { c with postings := c.postings.compact }

end Cabinet

end Cardfile
