import Cardfile.Config
import Cardfile.Mapping
import Cardfile.Search.Hit

/-! # Indexing

What stands between a record and its terms, and between a query and a score: the mappings, the
analyzer with the settings that it was made from, the scorer.
-/

namespace Cardfile

def Analyzer.Settings.ofConfig (c : Config) : Analyzer.Settings :=
  ⟨c.stopWords, c.synonyms, c.stemming, c.maxTokenLength⟩

structure Indexing where
  settings : Analyzer.Settings
  analyzer : Analyzer
  mappings : Mappings
  scorer : Scorer

namespace Indexing

def usual : Indexing := ⟨.usual, .plain, .empty, .usual⟩

instance : Inhabited Indexing := ⟨usual⟩

def ofSettings (s : Analyzer.Settings) : Except Error Indexing := do
  pure { usual with settings := s, analyzer := ← Analyzer.ofSettings s }

def ofConfig (c : Config) : Except Error Indexing := ofSettings (.ofConfig c)

/-- Another analyzer in place of the old one, which is right only if nothing is indexed. -/
def withSettings (x : Indexing) (s : Analyzer.Settings) : Except Error Indexing := do
  pure { x with settings := s, analyzer := ← Analyzer.ofSettings s }

def register (x : Indexing) (type : String) (mapping : Mapping) : Indexing :=
  { x with mappings := x.mappings.register type mapping }

def declareSupertype (x : Indexing) (type supertype : String) : Indexing :=
  { x with mappings := x.mappings.declareSupertype type supertype }

def card (x : Indexing) (r : Record) (entry : Record) : Except Error (Card Record) := do
  pure ⟨← x.mappings.extract x.analyzer r, entry⟩

/-- The rating is read from the summary, so a new summary moves a card among the hits. -/
def score (x : Indexing) (query : List TermSet) (c : Card Record) : Option Relevance :=
  x.scorer.score query c.terms (c.entry.rating c.ratingField)

/-- The hit for a card, if it is relevant. -/
def hit? (x : Indexing) (query : List TermSet) (key : Key) (sequence : Option Nat)
    (c : Card Record) : Option (Hit Record) :=
  (x.score query c).map fun s => ⟨key, c.entry, s, sequence⟩

end Indexing

end Cardfile
