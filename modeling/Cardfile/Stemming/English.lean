import Cardfile.Stemming.Suffix

/-! # English words -/

namespace Cardfile.Stemming.English

def isVowel : Char → Bool := isOneOf "aeiouy"

/-- A `y` that is a consonant, at the start or behind a vowel, is written large. -/
def markFrom (afterVowel : Bool) : Letters → Letters
  | [] => []
  | c :: cs =>
    if c = 'y' && afterVowel then 'Y' :: markFrom false cs else c :: markFrom (isVowel c) cs

def mark (w : Letters) : Letters :=
  match w with
  | '\'' :: cs => markFrom true cs
  | cs => markFrom true cs

/-- Some beginnings are kept whole. -/
def firstRegion (w : Letters) : Nat :=
  if "gener".toList.isPrefixOf w || "arsen".toList.isPrefixOf w then 5
  else if "commun".toList.isPrefixOf w then 6
  else pastVowelAndConsonant isVowel 0 w

def regions (w : Letters) : Regions :=
  let first := firstRegion w
  ⟨0, first, pastVowelAndConsonant isVowel first w⟩

/-- Whether a word ends in a short syllable. -/
def endsShort (w : Letters) : Bool :=
  match w.reverse with
  | [c, v] => !isVowel c && isVowel v
  | c :: v :: b :: _ => !isVowel c && !isOneOf "wxY" c && isVowel v && !isVowel b
  | _ => false

def cutApostrophe (w : Letters) : Letters :=
  match cutLongest? 0 "' 's 's'" w with
  | some (stem, _) => stem
  | none => w

inductive Plural
  | keepDouble | shorten | drop | keep

def plurals : Suffixes Plural := .ofRows [
  ("sses", .keepDouble), ("ied ies", .shorten), ("s", .drop), ("us ss", .keep)]

def cutPlural (w : Letters) : Letters :=
  match plurals.longest? 0 w with
  | some (stem, .keepDouble) => add stem "ss"
  | some (stem, .shorten) => if 2 ≤ stem.length then add stem "i" else add stem "ie"
  | some (stem, .drop) => if stem.dropLast.any isVowel then stem else w
  | some (_, .keep) => w
  | none => w

/-- Mends a stem whose past or present ending has been cut. -/
def mend (r : Regions) (stem : Letters) : Letters :=
  if endsWith stem "at" || endsWith stem "bl" || endsWith stem "iz" then add stem "e"
  else
    match stem.reverse with
    | a :: b :: _ =>
      if a = b && isOneOf "bdfgmnprt" a then stem.dropLast
      else if stem.length = r.first && endsShort stem then add stem "e"
      else stem
    | _ => stem

def tenses : Suffixes Bool := .ofRows [("eed eedly", true), ("ed edly ing ingly", false)]

def cutTense (r : Regions) (w : Letters) : Letters :=
  match tenses.longest? 0 w with
  | some (stem, true) => if r.inFirst stem then add stem "ee" else w
  | some (stem, false) => if stem.any isVowel then mend r stem else w
  | none => w

def softenY (w : Letters) : Letters :=
  match w.reverse with
  | y :: c :: _ :: _ => if (y = 'y' || y = 'Y') && !isVowel c then add w.dropLast "i" else w
  | _ => w

/-- What replaces a suffix: a fixed ending, or one on a condition on what stands before it. -/
inductive Ending
  | plain (ending : String)
  | after (letters : String) (ending : String)
  | inSecond

def Ending.replaced (r : Regions) (stem : Letters) : Ending → Option Letters
  | plain ending => some (add stem ending)
  | after letters ending => stemIf (lastIs stem (isOneOf letters)) (add stem ending)
  | inSecond => stemIf (r.inSecond stem) stem

def doubled : Suffixes Ending := .ofRows [
  ("tional", .plain "tion"), ("enci", .plain "ence"), ("anci", .plain "ance"),
  ("abli", .plain "able"), ("entli", .plain "ent"), ("izer ization", .plain "ize"),
  ("ational ation ator", .plain "ate"), ("alism aliti alli", .plain "al"),
  ("fulness", .plain "ful"), ("ousli ousness", .plain "ous"), ("iveness iviti", .plain "ive"),
  ("biliti bli", .plain "ble"), ("ogi", .after "l" "og"), ("fulli", .plain "ful"),
  ("lessli", .plain "less"), ("li", .after "cdeghkmnrt" "")]

def adjectives : Suffixes Ending := .ofRows [
  ("tional", .plain "tion"), ("ational", .plain "ate"), ("alize", .plain "al"),
  ("icate iciti ical", .plain "ic"), ("ful ness", .plain ""), ("ative", .inSecond)]

def derivations : Suffixes Ending := .ofRows [
  ("al ance ence er ic able ible ant ement ment ent ism ate iti ous ive ize", .plain ""),
  ("ion", .after "st" "")]

/-- Replaces the longest of the suffixes if it starts at `region` or later. -/
def replaceIn (suffixes : Suffixes Ending) (r : Regions) (region : Nat) (w : Letters) : Letters :=
  match suffixes.longest? 0 w with
  | some (stem, ending) =>
    if region ≤ stem.length then (ending.replaced r stem).getD w else w
  | none => w

def cutLast (r : Regions) (w : Letters) : Letters :=
  match w.getLast? with
  | some 'e' =>
    let stem := w.dropLast
    if r.inSecond stem || (r.inFirst stem && !endsShort stem) then stem else w
  | some 'l' =>
    let stem := w.dropLast
    if r.inSecond stem && endsWith stem "l" then stem else w
  | _ => w

/-- Words with stems of their own. -/
def exceptions : List (String × String) := [
  ("skis", "ski"), ("skies", "sky"), ("dying", "die"), ("lying", "lie"), ("tying", "tie"),
  ("idly", "idl"), ("gently", "gentl"), ("ugly", "ugli"), ("early", "earli"), ("only", "onli"),
  ("singly", "singl"), ("sky", "sky"), ("news", "news"), ("howe", "howe"), ("atlas", "atlas"),
  ("cosmos", "cosmos"), ("bias", "bias"), ("andes", "andes")]

/-- Words that lose nothing but a plural ending. -/
def invariants : List String :=
  ["inning", "outing", "canning", "herring", "earring", "proceed", "exceed", "succeed"]

def stemLong (w : Letters) : Letters :=
  let w := mark w
  let r := regions w
  let w := cutPlural (cutApostrophe w)
  if invariants.contains (String.ofList w) then w
  else
    let w := softenY (cutTense r w)
    let w := replaceIn adjectives r r.first (replaceIn doubled r r.first w)
    cutLast r (replaceIn derivations r r.second w)

def stem (word : String) : String :=
  match exceptions.lookup word with
  | some s => s
  | none =>
    if word.length < 3 then word
    else String.ofList ((stemLong word.toList).map fun c => if c = 'Y' then 'y' else c)

end Cardfile.Stemming.English
