import Cardfile.Analysis.Stage
import Cardfile.Error
import Cardfile.OrderedSet
import Cardfile.Stemming.Language
import Cardfile.Text.Words

/-! # Analyzers

An analyzer cuts a text into words and sends their tokens through its stages. A record is known by
the set of its terms; a query is a list of groups of terms, one for each word that is left.
-/

namespace Cardfile

structure Analyzer where
  name : String
  words : String → List (Nat × String)
  maxLength : Nat
  stages : List Stage

namespace Analyzer

def tokens (a : Analyzer) (text : String) : List Token :=
  a.stages.foldl (fun ts s => s.apply ts) (Token.ofWords a.maxLength (a.words text))

def terms (a : Analyzer) (text : String) : TermSet :=
  .ofList ((a.tokens text).map Token.text)

/-- The texts of neighbouring tokens with the same position. -/
def groups : List Token → List (Nat × TermSet)
  | [] => []
  | t :: ts =>
    match groups ts with
    | [] => [(t.position, .ofList [t.text])]
    | (p, g) :: rest =>
      if p = t.position then (p, g.insert t.text) :: rest
      else (t.position, .ofList [t.text]) :: (p, g) :: rest

/-- Enters the text of a token at its position, the positions in order. -/
def enter (t : Token) : List (Nat × TermSet) → List (Nat × TermSet)
  | [] => [(t.position, .ofList [t.text])]
  | (p, g) :: rest =>
    if t.position < p then (t.position, .ofList [t.text]) :: (p, g) :: rest
    else if p = t.position then (p, g.insert t.text) :: rest
    else (p, g) :: enter t rest

/-- The texts of the tokens with the same position, wherever they stand. -/
def byPosition (ts : List Token) : List (Nat × TermSet) := ts.foldl (fun gs t => enter t gs) []

def queryGroups (a : Analyzer) (query : String) : List TermSet :=
  (groups (a.tokens query)).map Prod.snd

def tokenizer (_ : Analyzer) : String := "standard"

/-- What may be set about analysis. -/
structure Settings where
  stopWords : List String
  synonyms : Synonyms
  stemming : Option String
  maxLength : Nat

def Settings.usual : Settings := ⟨[], .empty, none, 255⟩

/-- Words in lowercase and nothing else. -/
def plain : Analyzer := ⟨"plain", Text.words, Settings.usual.maxLength, [.lowercase]⟩

/-- Settings that are empty have no stage. Stop words are taken out after the expansions came in,
so an expansion that is one does not stay. -/
def ofParts (words : String → List (Nat × String)) (stem : Option (String → String))
    (stopWords : List String) (synonyms : Synonyms) (maxLength : Nat) : Analyzer :=
  ⟨"standard", words, maxLength,
    [.lowercase] ++
    (if synonyms.isEmpty then [] else [.synonyms synonyms.lowercase]) ++
    (if stopWords.isEmpty then [] else [.stopWords (stopWords.map Text.lowercase)]) ++
    (match stem with
      | none => []
      | some stem => [.stemmer stem])⟩

def stemOf (stemming : Option String) : Except Error (Option (String → String)) :=
  match stemming with
  | none => .ok none
  | some name =>
    match Stemming.Language.ofName? name.toLower with
    | some language => .ok (some language.stem)
    | none => .error (.unknownLanguage name.toLower)

def ofSettings (s : Settings) : Except Error Analyzer := do
  pure (ofParts Text.words (← stemOf s.stemming) s.stopWords s.synonyms s.maxLength)

end Analyzer

end Cardfile
