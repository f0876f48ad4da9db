import Cardfile.Dict
import Cardfile.Text.Letter

/-! # Synonyms

A word has expansions, the texts that stand for it in a search as well as the word does.
-/

namespace Cardfile

abbrev Synonyms := Dict String (List String)

/-- The table as it is used on lowercase words. Of two words that differ in case only, the later
one gives the expansions. -/
def Synonyms.lowercase (table : Synonyms) : Synonyms :=
  .ofList (table.entries.map fun e => (Text.lowercase e.1, e.2.map Text.lowercase))

end Cardfile
