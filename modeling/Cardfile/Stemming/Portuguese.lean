import Cardfile.Stemming.Suffix

/-! # Portuguese words -/

namespace Cardfile.Stemming.Portuguese

def isVowel : Char → Bool := isOneOf "aeiouáéíóúâêô"

/-- A nasal vowel is written as the vowel and a tilde. -/
def splitNasal : Char → Letters
  | 'ã' => ['a', '~']
  | 'õ' => ['o', '~']
  | c => [c]

def joinNasal : Letters → Letters
  | 'a' :: '~' :: rest => 'ã' :: joinNasal rest
  | 'o' :: '~' :: rest => 'õ' :: joinNasal rest
  | c :: rest => c :: joinNasal rest
  | [] => []

def regions (w : Letters) : Regions := .ofVerb isVowel w (verbRegion isVowel w)

inductive Noun
  | cut | log | u | ente | amente | mente | idade | iva | ira

def nouns : Suffixes Noun := .ofRows [
  ("eza ezas ico ica icos icas ismo ismos ável ível ista istas oso osa osos osas amento " ++
   "amentos imento imentos adora ador aça~o adoras adores aço~es ante antes ância", .cut),
  ("logia logias", .log), ("uça~o uço~es", .u), ("ência ências", .ente), ("amente", .amente),
  ("mente", .mente), ("idade idades", .idade), ("iva ivo ivas ivos", .iva), ("ira iras", .ira)]

/-- Cuts what may stand before the ending of an adverb. -/
def trimAdverb (r : Regions) (w : Letters) : Letters :=
  match cutLongest? 0 "iv os ic ad" w with
  | some (stem, suffix) =>
    if !r.inSecond stem then w
    else if suffix = ['i', 'v'] then r.cutSecond "at" stem
    else stem
  | none => w

def cutNoun? (r : Regions) (w : Letters) : Option Letters :=
  match nouns.longest? 0 w with
  | none => none
  | some (stem, kind) =>
    let second := r.inSecond stem
    match kind with
    | .cut => stemIf second stem
    | .log => stemIf second (add stem "log")
    | .u => stemIf second (add stem "u")
    | .ente => stemIf second (add stem "ente")
    | .amente => stemIf (r.inFirst stem) (trimAdverb r stem)
    | .mente => stemIf second (r.cutLongestSecond "ante avel ível" stem)
    | .idade => stemIf second (r.cutLongestSecond "abil ic iv" stem)
    | .iva => stemIf second (r.cutSecond "at" stem)
    | .ira => stemIf (r.inVerb stem && endsWith stem "e") (add stem "ir")

def verbs : Suffixes Unit := .ofRows [
  ("ada ida ia aria eria iria ará ara erá era irá ava asse esse isse aste este iste ei arei " ++
   "erei irei am iam ariam eriam iriam aram eram iram avam em arem erem irem assem essem " ++
   "issem ado ido ando endo indo ara~o era~o ira~o ar er ir as adas idas ias arias erias " ++
   "irias arás aras erás eras irás avas es ardes erdes irdes ares eres ires asses esses " ++
   "isses astes estes istes is ais eis íeis aríeis eríeis iríeis áreis areis éreis ereis " ++
   "íreis ireis ásseis ésseis ísseis áveis ados idos ámos amos íamos aríamos eríamos iríamos " ++
   "áramos éramos íramos ávamos emos aremos eremos iremos ássemos êssemos íssemos imos armos " ++
   "ermos irmos eu iu ou ira iras", ())]

def cutVerb? (r : Regions) (w : Letters) : Option Letters :=
  (verbs.longest? r.verb w).map Prod.fst

/-- Behind a `c` a final `i` is cut too. -/
def cutI (r : Regions) (w : Letters) : Letters :=
  if endsWith w "ci" && r.inVerb w.dropLast then w.dropLast else w

def cutResidue (r : Regions) (w : Letters) : Letters :=
  match cutLongest? 0 "os a i o á í ó" w with
  | some (stem, _) => if r.inVerb stem then stem else w
  | none => w

def cutForm (r : Regions) (w : Letters) : Letters :=
  match cutLongest? 0 "e é ê ç" w with
  | some (stem, ['ç']) => add stem "c"
  | some (stem, _) =>
    if !r.inVerb stem then w
    else if (endsWith stem "gu" || endsWith stem "ci") && r.inVerb stem.dropLast then
      stem.dropLast
    else stem
  | none => w

def stem (word : String) : String :=
  let w := word.toList.flatMap splitNasal
  let r := regions w
  let w := match (cutNoun? r w).or (cutVerb? r w) with
    | some w => cutI r w
    | none => cutResidue r w
  String.ofList (joinNasal (cutForm r w))

end Cardfile.Stemming.Portuguese
