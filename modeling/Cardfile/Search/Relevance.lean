import Cardfile.OrderedSet
import Cardfile.Real64

/-! # Relevance

How well a record fits a query: how many words of the query it has, itself or by an expansion, and
how it is rated.
-/

namespace Cardfile

structure Relevance where
  matched : Nat
  rating : Real64
  deriving DecidableEq

/-- More words come first; for as many words, the higher rating. -/
def Relevance.le (a b : Relevance) : Bool :=
  a.matched < b.matched || (a.matched = b.matched && a.rating.rank ≤ b.rating.rank)

/-- What is relevant at all: a record with one word of the query, or only one with all of them. -/
structure Scorer where
  requireAll : Bool
  deriving DecidableEq

namespace Scorer

def usual : Scorer := ⟨false⟩

def name (_ : Scorer) : String := "match_degree"

def matched (query : List TermSet) (terms : TermSet) : Nat := query.countP (·.meets terms)

def score (s : Scorer) (query : List TermSet) (terms : TermSet) (rating : Real64) :
    Option Relevance :=
  let n := matched query terms
  if n = 0 || (s.requireAll && n < query.length) then none else some ⟨n, rating⟩

end Scorer

end Cardfile
