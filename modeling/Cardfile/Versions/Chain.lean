import Cardfile.Card
import Cardfile.Postings

/-! # Version chains

The states that a key has been in, newest first. Each has the stamp of the commit that brought it;
a state without a card says that the key was removed.
-/

namespace Cardfile

/-- The time of a commit. Commits are counted on without end, where a counter of 64 bits is used up
after `2 ^ 64` of them. -/
abbrev Stamp := Nat

structure Version (ε : Type) where
  stamp : Stamp
  value : Option (Card ε)

structure Chain (ε : Type) where
  slot : Slot
  versions : List (Version ε)

namespace Version

variable {ε : Type}

/-- The version that is current at a time. -/
def at? (time : Stamp) (vs : List (Version ε)) : Option (Version ε) :=
  vs.find? fun v => v.stamp ≤ time

/-- The versions that can be read at a time or later. -/
def reachable (time : Stamp) : List (Version ε) → List (Version ε)
  | [] => []
  | v :: rest => if time < v.stamp then v :: reachable time rest else [v]

/-- The versions that cannot be read any more from a time on. -/
def stale (time : Stamp) : List (Version ε) → List (Version ε)
  | [] => []
  | v :: rest => if time < v.stamp then stale time rest else rest

end Version

namespace Chain

variable {ε : Type}

def latest? (c : Chain ε) : Option (Version ε) := c.versions.head?

def at? (c : Chain ε) (time : Stamp) : Option (Version ε) := Version.at? time c.versions

/-- Whether the key has a card now. -/
def isLive (c : Chain ε) : Bool := (c.latest?.bind Version.value).isSome

def push (c : Chain ε) (v : Version ε) : Chain ε := { c with versions := v :: c.versions }

def pruned (c : Chain ε) (time : Stamp) : Chain ε :=
  { c with versions := Version.reachable time c.versions }

/-- Whether the key is removed for all who read at a time or later. -/
def isDead (c : Chain ε) (time : Stamp) : Bool :=
  match c.versions with
  | [] => true
  | [v] => v.value.isNone && v.stamp ≤ time
  | _ => false

/-- How many versions pruning takes from a chain, all of them if the key is dead. -/
def dropped (c : Chain ε) (time : Stamp) : Nat :=
  let kept := c.pruned time
  (Version.stale time c.versions).length + if kept.isDead time then kept.versions.length else 0

/-- The terms that the key had at a time or has had since. -/
def termsSince (c : Chain ε) (time : Stamp) : TermSet :=
  let current := (c.at? time).map Version.stamp
  let touched := c.versions.filter fun v => time < v.stamp || current = some v.stamp
  .ofList ((touched.filterMap Version.value).flatMap (·.terms.toList))

/-- Enters all versions into the postings. -/
def post (p : Postings) (c : Chain ε) : Postings :=
  (c.versions.filterMap Version.value).foldl (fun p card => p.insert c.slot card.terms) p

end Chain

end Cardfile
