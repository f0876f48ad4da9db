import Cardfile.Stemming.Suffix

/-! # Spanish words -/

namespace Cardfile.Stemming.Spanish

def isVowel : Char → Bool := isOneOf "aeiouáéíóúü"

def regions (w : Letters) : Regions := .ofVerb isVowel w (verbRegion isVowel w)

def pronouns : Suffixes Unit := .ofRows [
  ("me se sela selo selas selos la le lo las les los nos", ())]

inductive Carrier
  | unaccented (ending : String)
  | same
  | afterU

def carriers : Suffixes Carrier := .ofRows [
  ("iéndo", .unaccented "iendo"), ("ándo", .unaccented "ando"), ("ár", .unaccented "ar"),
  ("ér", .unaccented "er"), ("ír", .unaccented "ir"), ("ando iendo ar er ir", .same),
  ("yendo", .afterU)]

/-- Cuts a pronoun from the verb that carries it. -/
def cutPronoun (r : Regions) (w : Letters) : Letters :=
  match pronouns.longest? 0 w with
  | none => w
  | some (verb, _) =>
    match carriers.longest? 0 verb with
    | none => w
    | some (stem, carrier) =>
      if !r.inVerb stem then w
      else
        match carrier with
        | .unaccented ending => add stem ending
        | .same => verb
        | .afterU => if endsWith stem "u" then verb else w

inductive Noun
  | cut | agent | log | u | ente | amente | mente | idad | iva

def nouns : Suffixes Noun := .ofRows [
  ("anza anzas ico ica icos icas ismo ismos able ables ible ibles ista istas oso osa osos osas " ++
   "amiento amientos imiento imientos", .cut),
  ("adora ador ación adoras adores aciones ante antes ancia ancias", .agent),
  ("logía logías", .log), ("ución uciones", .u), ("encia encias", .ente), ("amente", .amente),
  ("mente", .mente), ("idad idades", .idad), ("iva ivo ivas ivos", .iva)]

/-- Cuts what may stand before the ending of an adverb. -/
def trimAdverb (r : Regions) (w : Letters) : Letters :=
  match cutLongest? 0 "iv os ic ad" w with
  | some (stem, suffix) =>
    if !r.inSecond stem then w
    else if suffix = ['i', 'v'] then r.cutSecond "at" stem
    else stem
  | none => w

def cutNoun? (r : Regions) (w : Letters) : Option Letters :=
  match nouns.longest? 0 w with
  | none => none
  | some (stem, kind) =>
    let second := r.inSecond stem
    match kind with
    | .cut => stemIf second stem
    | .agent => stemIf second (r.cutSecond "ic" stem)
    | .log => stemIf second (add stem "log")
    | .u => stemIf second (add stem "u")
    | .ente => stemIf second (add stem "ente")
    | .amente => stemIf (r.inFirst stem) (trimAdverb r stem)
    | .mente => stemIf second (r.cutLongestSecond "ante able ible" stem)
    | .idad => stemIf second (r.cutLongestSecond "abil ic iv" stem)
    | .iva => stemIf second (r.cutSecond "at" stem)

def yVerbs : Suffixes Unit := .ofRows [
  ("ya ye yan yen yeron yendo yo yó yas yes yais yamos", ())]

def cutYVerb? (r : Regions) (w : Letters) : Option Letters :=
  match yVerbs.longest? r.verb w with
  | some (stem, _) => stemIf (endsWith stem "u") stem
  | none => none

def verbs : Suffixes Bool := .ofRows [
  ("en es éis emos", true),
  ("arían arías arán arás aríais aría aréis aríamos aremos ará aré " ++
   "erían erías erán erás eríais ería eréis eríamos eremos erá eré " ++
   "irían irías irán irás iríais iría iréis iríamos iremos irá iré " ++
   "aba ada ida ía ara iera ad ed id ase iese aste iste an aban ían aran ieran asen iesen " ++
   "aron ieron ado ido ando iendo ió ar er ir as abas adas idas ías aras ieras ases ieses " ++
   "ís áis abais íais arais ierais aseis ieseis asteis isteis ados idos amos ábamos íamos " ++
   "imos áramos iéramos iésemos ásemos", false)]

/-- Behind `gu` the `u` belongs to some endings. -/
def cutVerb? (r : Regions) (w : Letters) : Option Letters :=
  match verbs.longest? r.verb w with
  | some (stem, true) => some (if endsWith stem "gu" then stem.dropLast else stem)
  | some (stem, false) => some stem
  | none => none

def residues : Suffixes Bool := .ofRows [("os a o á í ó", false), ("e é", true)]

def cutResidue (r : Regions) (w : Letters) : Letters :=
  match residues.longest? 0 w with
  | none => w
  | some (stem, dropsU) =>
    if !r.inVerb stem then w
    else if dropsU && endsWith stem "gu" && r.inVerb stem.dropLast then stem.dropLast
    else stem

def unaccent : Char → Char :=
  replaceChar [('á', 'a'), ('é', 'e'), ('í', 'i'), ('ó', 'o'), ('ú', 'u')]

def stem (word : String) : String :=
  let w := word.toList
  let r := regions w
  let w := cutPronoun r w
  let w := (((cutNoun? r w).or (cutYVerb? r w)).or (cutVerb? r w)).getD w
  String.ofList ((cutResidue r w).map unaccent)

end Cardfile.Stemming.Spanish
