import Cardfile.Versions.Store

/-! # The archive

All states that keys have been in, kept apart from the list that says which slot a key has. The
chains are filed under their slots, which is where searches and the commit log look for them.
-/

namespace Cardfile

structure Archive (ε : Type) where
  slots : Dict Key Slot
  chains : Dict Slot (Filed (List (Version ε)))
  postings : Postings
  /-- The slots written by each commit, the latest commit first. -/
  log : List (Stamp × List Slot)
  nextSlot : Slot
  clock : Stamp

/-- What is filed in a slot, as a chain. -/
def Filed.chain {ε : Type} (slot : Slot) (f : Filed (List (Version ε))) : Chain ε :=
  ⟨slot, f.contents⟩

namespace Archive

variable {ε : Type}

def empty : Archive ε := ⟨.empty, .empty, .empty, [], 0, 0⟩

instance : Inhabited (Archive ε) := ⟨empty⟩

def slotOf? (a : Archive ε) (key : Key) : Option Slot := a.slots.get? key

def keyOf? (a : Archive ε) (slot : Slot) : Option Key := (a.chains.get? slot).map Filed.key

def chainIn? (a : Archive ε) (slot : Slot) : Option (Chain ε) :=
  (a.chains.get? slot).map (Filed.chain slot)

def latestInSlot? (a : Archive ε) (slot : Slot) : Option (Card ε) := do
  (← (← a.chainIn? slot).latest?).value

def latest? (a : Archive ε) (key : Key) : Option (Card ε) := do
  a.latestInSlot? (← a.slotOf? key)

def atInSlot? (a : Archive ε) (slot : Slot) (time : Stamp) : Option (Card ε) := do
  (← (← a.chainIn? slot).at? time).value

def at? (a : Archive ε) (key : Key) (time : Stamp) : Option (Card ε) := do
  a.atInSlot? (← a.slotOf? key) time

/-- The stamp of the newest version of a key, zero if it has none. -/
def lastCommit (a : Archive ε) (key : Key) : Stamp :=
  ((((a.slotOf? key).bind a.chainIn?).bind Chain.latest?).map Version.stamp).getD 0

/-- The chains in the order of the list. -/
def allChains (a : Archive ε) : List (Chain ε) := a.chains.entries.map fun e => e.2.chain e.1

def liveCount (a : Archive ε) : Nat := a.allChains.countP Chain.isLive

def termsSince (a : Archive ε) (slot : Slot) (time : Stamp) : TermSet :=
  match a.chainIn? slot with
  | some c => c.termsSince time
  | none => .empty

/-- The slots written by commits after a time. -/
def committedAfter (a : Archive ε) (time : Stamp) : SlotSet :=
  .ofList ((a.log.filter (time < ·.1)).flatMap Prod.snd)

/-- The slot of a key; a new key gets the next one, with no versions in it. -/
def allot (a : Archive ε) (key : Key) : Slot × Archive ε :=
  match a.slots.get? key with
  | some slot => (slot, a)
  | none => (a.nextSlot,
      { a with
        slots := a.slots.insert key a.nextSlot
        chains := a.chains.insert a.nextSlot ⟨key, []⟩
        nextSlot := a.nextSlot + 1 })

/-- Adds a version to the chain in a slot, if there is one. -/
def push (a : Archive ε) (slot : Slot) (v : Version ε) : Archive ε :=
  match a.chains.get? slot with
  | some f => { a with chains := a.chains.insert slot ⟨f.key, v :: f.contents⟩ }
  | none => a

/-- Adds a version at the present time, and tells in which slot. -/
def put (a : Archive ε) (w : Write ε) : Slot × Archive ε :=
  let (slot, a) := a.allot w.1
  let a := match w.2 with
    | some card => { a with postings := a.postings.insert slot card.terms }
    | none => a
  (slot, a.push slot ⟨a.clock, w.2⟩)

/-- Adds versions one after the other, with their slots in the same order. -/
def putAll (a : Archive ε) : List (Write ε) → List Slot × Archive ε
  | [] => ([], a)
  | w :: rest =>
    let (slot, a) := a.put w
    let (slots, a) := a.putAll rest
    (slot :: slots, a)

/-- Commits writes together. -/
def apply (a : Archive ε) (writes : List (Write ε)) : Archive ε :=
  let (touched, a) := { a with clock := a.clock + 1 }.putAll writes
  { a with log := (a.clock, touched) :: a.log }

/-- Takes a chain out, and the slot from its key. -/
def discard (a : Archive ε) (slot : Slot) : Archive ε :=
  match a.chains.get? slot with
  | some f => { a with slots := a.slots.erase f.key, chains := a.chains.erase slot }
  | none => a

/-- The chains without the versions that nobody can read who reads at a time or later. -/
def trimmed (a : Archive ε) (time : Stamp) : Archive ε :=
  { a with chains := a.chains.map fun _ f => ⟨f.key, Version.reachable time f.contents⟩ }

def deadSlots (a : Archive ε) (time : Stamp) : List Slot :=
  (a.allChains.filter (·.isDead time)).map Chain.slot

/-- Without the versions that nobody can read who reads at a time or later. -/
def pruned (a : Archive ε) (time : Stamp) : Archive ε :=
  let a := a.trimmed time
  let a := (a.deadSlots time).foldl discard a
  { a with
    postings := a.allChains.foldl Chain.post .empty
    log := a.log.filter (time < ·.1) }

/-- How many versions pruning takes away: those that chains lose, and all of the dead chains. -/
def dropped (a : Archive ε) (time : Stamp) : Nat :=
  let lost := a.allChains.foldr (fun c n => (Version.stale time c.versions).length + n) 0
  let dead := (a.trimmed time).allChains.filter (·.isDead time)
  lost + dead.foldr (fun c n => c.versions.length + n) 0

/-- Stamps go on rising, so that none is used twice. -/
def clear (a : Archive ε) : Archive ε := { empty with clock := a.clock + 1 }

end Archive

end Cardfile
