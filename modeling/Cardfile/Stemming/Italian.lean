import Cardfile.Stemming.Suffix

/-! # Italian words -/

namespace Cardfile.Stemming.Italian

def isVowel : Char → Bool := isOneOf "aeiouàèìòù"

/-- Accents all lean one way. -/
def leveled : Char → Char :=
  replaceChar [('á', 'à'), ('é', 'è'), ('í', 'ì'), ('ó', 'ò'), ('ú', 'ù')]

def markQu : Letters → Letters
  | 'q' :: 'u' :: rest => 'q' :: 'U' :: markQu rest
  | c :: rest => c :: markQu rest
  | [] => []

/-- A `u` or an `i` between vowels is written large. -/
def mark : Letters → Letters
  | a :: b :: c :: rest =>
    if isVowel a && b = 'u' && isVowel c then a :: 'U' :: c :: mark rest
    else if isVowel a && b = 'i' && isVowel c then a :: 'I' :: c :: mark rest
    else a :: mark (b :: c :: rest)
  | w => w

def unmark : Char → Char := replaceChar [('I', 'i'), ('U', 'u')]

def regions (w : Letters) : Regions := .ofVerb isVowel w (verbRegion isVowel w)

def pronouns : Suffixes Unit := .ofRows [
  ("ci gli la le li lo mi ne si ti vi sene gliela gliele glieli glielo gliene mela mele meli " ++
   "melo mene tela tele teli telo tene cela cele celi celo cene vela vele veli velo vene", ())]

def carriers : Suffixes Bool := .ofRows [("ando endo", true), ("ar er ir", false)]

/-- Cuts a pronoun from the verb that carries it; an infinitive gets its `e` back. -/
def cutPronoun (r : Regions) (w : Letters) : Letters :=
  match pronouns.longest? 0 w with
  | none => w
  | some (verb, _) =>
    match carriers.longest? 0 verb with
    | none => w
    | some (stem, gerund) =>
      if !r.inVerb stem then w else if gerund then verb else add verb "e"

inductive Noun
  | cut | agent | log | u | ente | amento | amente | ità | ivo

def nouns : Suffixes Noun := .ofRows [
  ("anza anze ico ici ica ice iche ichi ismo ismi abile abili ibile ibili ista iste isti istà " ++
   "istè istì oso osi osa ose mente atrice atrici ante anti", .cut),
  ("azione azioni atore atori", .agent), ("logia logie", .log),
  ("uzione uzioni usione usioni", .u), ("enza enze", .ente),
  ("amento amenti imento imenti", .amento), ("amente", .amente), ("ità", .ità),
  ("ivo ivi iva ive", .ivo)]

/-- Cuts what may stand before the ending of an adverb. -/
def trimAdverb (r : Regions) (w : Letters) : Letters :=
  match cutLongest? 0 "iv os ic abil" w with
  | some (stem, suffix) =>
    if !r.inSecond stem then w
    else if suffix = ['i', 'v'] then r.cutSecond "at" stem
    else stem
  | none => w

def trimTendency (r : Regions) (w : Letters) : Letters :=
  match cut? "at" w with
  | some stem => if r.inSecond stem then r.cutSecond "ic" stem else w
  | none => w

def cutNoun? (r : Regions) (w : Letters) : Option Letters :=
  match nouns.longest? 0 w with
  | none => none
  | some (stem, kind) =>
    let second := r.inSecond stem
    match kind with
    | .cut => stemIf second stem
    | .agent => stemIf second (r.cutSecond "ic" stem)
    | .log => stemIf second (add stem "log")
    | .u => stemIf second (add stem "u")
    | .ente => stemIf second (add stem "ente")
    | .amento => stemIf (r.inVerb stem) stem
    | .amente => stemIf (r.inFirst stem) (trimAdverb r stem)
    | .ità => stemIf second (r.cutLongestSecond "abil ic iv" stem)
    | .ivo => stemIf second (trimTendency r stem)

def verbs : Suffixes Unit := .ofRows [
  ("ammo ando ano are arono asse assero assi assimo ata ate ati ato ava avamo avano avate avi " ++
   "avo emmo enda ende endi endo erà erai eranno ere erebbe erebbero erei eremmo eremo ereste " ++
   "eresti erete erò erono essero ete eva evamo evano evate evi evo Yamo iamo immo irà irai " ++
   "iranno ire irebbe irebbero irei iremmo iremo ireste iresti irete irò irono isca iscano " ++
   "isce isci isco iscono issero ita ite iti ito iva ivamo ivano ivate ivi ivo ono uta ute uti " ++
   "uto ar ir", ())]

def cutVerb? (r : Regions) (w : Letters) : Option Letters :=
  (verbs.longest? r.verb w).map Prod.fst

/-- Cuts a final vowel, an `i` before it and the `h` that keeps a `c` or a `g` hard. -/
def cutVowel (r : Regions) (w : Letters) : Letters :=
  let w :=
    if lastIs w (isOneOf "aeioàèìò") && r.inVerb w.dropLast then
      let w := w.dropLast
      if lastIs w (· = 'i') && r.inVerb w.dropLast then w.dropLast else w
    else w
  match w.reverse with
  | 'h' :: c :: rest =>
    if (c = 'c' || c = 'g') && r.inVerb rest then w.dropLast else w
  | _ => w

def stem (word : String) : String :=
  let w := mark (markQu (word.toList.map leveled))
  let r := regions w
  let w := cutPronoun r w
  let w := ((cutNoun? r w).or (cutVerb? r w)).getD w
  String.ofList ((cutVowel r w).map unmark)

end Cardfile.Stemming.Italian
