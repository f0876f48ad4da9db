import Cardfile.Error
import Cardfile.Versions.Chain

/-! # The version store

All states that keys have been in and that may still be read. A commit gets the next stamp and
brings one version for each write. The postings cover every version that is kept, so whoever
searches looks again at the version that counts for them. The slot of a key and the versions in the
slot are in one dictionary.
-/

namespace Cardfile

/-- A write gives a key a card or removes it. -/
abbrev Write (ε : Type) := Key × Option (Card ε)

structure VersionStore (ε : Type) where
  chains : Dict Key (Chain ε)
  postings : Postings
  /-- The slots written by each commit, the latest commit first. -/
  log : List (Stamp × List Slot)
  nextSlot : Slot
  clock : Stamp

namespace VersionStore

variable {ε : Type}

def empty : VersionStore ε := ⟨.empty, .empty, [], 0, 0⟩

instance : Inhabited (VersionStore ε) := ⟨empty⟩

def chain? (s : VersionStore ε) (key : Key) : Option (Chain ε) := s.chains.get? key

def slotOf? (s : VersionStore ε) (key : Key) : Option Slot := (s.chain? key).map Chain.slot

/-- The key in a slot and its chain. -/
def inSlot? (s : VersionStore ε) (slot : Slot) : Option (Key × Chain ε) :=
  s.chains.entries.find? (·.2.slot = slot)

def keyOf? (s : VersionStore ε) (slot : Slot) : Option Key := (s.inSlot? slot).map Prod.fst

def latest? (s : VersionStore ε) (key : Key) : Option (Card ε) := do
  (← (← s.chain? key).latest?).value

def latestInSlot? (s : VersionStore ε) (slot : Slot) : Option (Card ε) := do
  (← (← s.inSlot? slot).2.latest?).value

def at? (s : VersionStore ε) (key : Key) (time : Stamp) : Option (Card ε) := do
  (← (← s.chain? key).at? time).value

def atInSlot? (s : VersionStore ε) (slot : Slot) (time : Stamp) : Option (Card ε) := do
  (← (← s.inSlot? slot).2.at? time).value

/-- The stamp of the newest version of a key, zero if it has none. -/
def lastCommit (s : VersionStore ε) (key : Key) : Stamp :=
  (((s.chain? key).bind Chain.latest?).map Version.stamp).getD 0

def liveCount (s : VersionStore ε) : Nat := s.chains.values.countP Chain.isLive

def termsSince (s : VersionStore ε) (slot : Slot) (time : Stamp) : TermSet :=
  match s.inSlot? slot with
  | some found => found.2.termsSince time
  | none => .empty

/-- The slots written by commits after a time. -/
def committedAfter (s : VersionStore ε) (time : Stamp) : SlotSet :=
  .ofList ((s.log.filter (time < ·.1)).flatMap Prod.snd)

/-- Adds a version at the present time; a new key gets the next slot. -/
def put (s : VersionStore ε) (w : Write ε) : VersionStore ε :=
  let v : Version ε := ⟨s.clock, w.2⟩
  let post (slot : Slot) : Postings :=
    match w.2 with
    | some card => s.postings.insert slot card.terms
    | none => s.postings
  match s.chain? w.1 with
  | some c => { s with chains := s.chains.insert w.1 (c.push v), postings := post c.slot }
  | none =>
    { s with
      chains := s.chains.insert w.1 ⟨s.nextSlot, [v]⟩
      postings := post s.nextSlot
      nextSlot := s.nextSlot + 1 }

/-- Commits writes together. -/
def apply (s : VersionStore ε) (writes : List (Write ε)) : VersionStore ε :=
  let s := writes.foldl put { s with clock := s.clock + 1 }
  { s with log := (s.clock, writes.filterMap fun w => s.slotOf? w.1) :: s.log }

/-- Without the versions that nobody can read who reads at a time or later. -/
def pruned (s : VersionStore ε) (time : Stamp) : VersionStore ε :=
  let chains := (s.chains.map fun _ c => c.pruned time).filter fun _ c => !c.isDead time
  { s with
    chains := chains
    postings := chains.values.foldl Chain.post .empty
    log := s.log.filter (time < ·.1) }

/-- How many versions pruning takes away. -/
def dropped (s : VersionStore ε) (time : Stamp) : Nat :=
  s.chains.values.foldr (fun c n => c.dropped time + n) 0

/-- Stamps go on rising, so that none is used twice. -/
def clear (s : VersionStore ε) : VersionStore ε := { empty with clock := s.clock + 1 }

end VersionStore

end Cardfile
