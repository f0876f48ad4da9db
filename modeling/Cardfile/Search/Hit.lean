import Cardfile.Error
import Cardfile.Search.Relevance

/-! # Hits

The answer to a search is a list of hits, the most relevant first and among equals the one that
came into the index first.
-/

namespace Cardfile

/-- A hit without a sequence number has not come into the index yet. -/
structure Hit (ε : Type) where
  key : Key
  entry : ε
  score : Relevance
  sequence : Option Nat

namespace Hit

variable {ε : Type}

def comesFirst : Option Nat → Option Nat → Bool
  | _, none => true
  | none, some _ => false
  | some m, some n => m ≤ n

/-- Whether `a` may stand before `b`. -/
def precedes (a b : Hit ε) : Bool :=
  if a.score.le b.score then b.score.le a.score && comesFirst a.sequence b.sequence else true

def ranked (hits : List (Hit ε)) : List (Hit ε) := hits.mergeSort precedes

end Hit

end Cardfile
