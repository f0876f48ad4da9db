import Cardfile.Stemming.Dutch
import Cardfile.Stemming.English
import Cardfile.Stemming.French
import Cardfile.Stemming.German
import Cardfile.Stemming.Italian
import Cardfile.Stemming.Portuguese
import Cardfile.Stemming.Spanish

/-! # Languages with a stemmer

A language is named in English or by its code, in any case.
-/

namespace Cardfile.Stemming

inductive Language
  | english | french | german | spanish | italian | dutch | portuguese
  deriving DecidableEq

def Language.ofName? (name : String) : Option Language :=
  match name with
  | "english" => some .english
  | "en" => some .english
  | "french" => some .french
  | "fr" => some .french
  | "german" => some .german
  | "de" => some .german
  | "spanish" => some .spanish
  | "es" => some .spanish
  | "italian" => some .italian
  | "it" => some .italian
  | "dutch" => some .dutch
  | "nl" => some .dutch
  | "portuguese" => some .portuguese
  | "pt" => some .portuguese
  | _ => none

def Language.stem : Language → String → String
  | .english => English.stem
  | .french => French.stem
  | .german => German.stem
  | .spanish => Spanish.stem
  | .italian => Italian.stem
  | .dutch => Dutch.stem
  | .portuguese => Portuguese.stem

end Cardfile.Stemming
