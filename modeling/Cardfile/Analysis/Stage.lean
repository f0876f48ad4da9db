import Cardfile.Analysis.Synonyms
import Cardfile.Analysis.Token

/-! # Stages of analysis

A stage turns the tokens of a text into others. Each token is treated alone, so the tokens of a
word stay together and the words stay in order.
-/

namespace Cardfile

inductive Stage
  | lowercase
  | synonyms (table : Synonyms)
  | stopWords (words : List String)
  | stemmer (stem : String → String)

namespace Stage

def name : Stage → String
  | lowercase => "lowercase"
  | synonyms _ => "synonyms"
  | stopWords _ => "stop_words"
  | stemmer _ => "stemmer"

/-- What becomes of one token. Expansions come before their word, which is not its own. -/
def expand : Stage → Token → List Token
  | lowercase, t => [t.withText (Text.lowercase t.text)]
  | synonyms table, t =>
    ((((table.get? t.text).getD []).filter (· ≠ t.text)).map t.expansion) ++ [t]
  | stopWords words, t => if t.text ∈ words then [] else [t]
  | stemmer stem, t => [t.withText (stem t.text)]

def apply (s : Stage) (ts : List Token) : List Token := ts.flatMap s.expand

end Stage

end Cardfile
