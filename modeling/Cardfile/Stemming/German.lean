import Cardfile.Stemming.Suffix

/-! # German words -/

namespace Cardfile.Stemming.German

def isVowel : Char → Bool := isOneOf "aeiouyäöü"

def spellOut (c : Char) : Letters := if c = 'ß' then ['s', 's'] else [c]

/-- A `u` or a `y` between vowels is written large. -/
def mark : Letters → Letters
  | a :: b :: c :: rest =>
    if isVowel a && b = 'u' && isVowel c then a :: 'U' :: c :: mark rest
    else if isVowel a && b = 'y' && isVowel c then a :: 'Y' :: c :: mark rest
    else a :: mark (b :: c :: rest)
  | w => w

def unmark : Char → Char :=
  replaceChar [('Y', 'y'), ('U', 'u'), ('ä', 'a'), ('ö', 'o'), ('ü', 'u')]

/-- The first region leaves at least three letters. -/
def regions (w : Letters) : Regions :=
  if w.length < 3 then ⟨w.length, w.length, w.length⟩
  else
    let first := pastVowelAndConsonant isVowel 0 w
    ⟨w.length, max first 3, pastVowelAndConsonant isVowel first w⟩

inductive Inflection
  | cut | cutNiss | afterConsonant

def inflections : Suffixes Inflection := .ofRows [
  ("em ern er", .cut), ("e en es", .cutNiss), ("s", .afterConsonant)]

def cutInflection (r : Regions) (w : Letters) : Letters :=
  match inflections.longest? 0 w with
  | none => w
  | some (stem, kind) =>
    if !r.inFirst stem then w
    else
      match kind with
      | .cut => stem
      | .cutNiss => if endsWith stem "niss" then stem.dropLast else stem
      | .afterConsonant => if lastIs stem (isOneOf "bdfghklmnrt") then stem else w

def comparisons : Suffixes Bool := .ofRows [("en er est", false), ("st", true)]

def cutComparison (r : Regions) (w : Letters) : Letters :=
  match comparisons.longest? 0 w with
  | none => w
  | some (stem, needsConsonant) =>
    if !r.inFirst stem then w
    else if !needsConsonant then stem
    else if lastIs stem (isOneOf "bdfghklmnt") && 4 ≤ stem.length then stem
    else w

inductive Derivation
  | action | quality | manner | state

def derivations : Suffixes Derivation := .ofRows [
  ("end ung", .action), ("ig ik isch", .quality), ("lich heit", .manner), ("keit", .state)]

def cutDerivation (r : Regions) (w : Letters) : Letters :=
  match derivations.longest? 0 w with
  | none => w
  | some (stem, kind) =>
    if !r.inSecond stem then w
    else
      match kind with
      | .action =>
        match cut? "ig" stem with
        | some shorter => if !endsWith shorter "e" && r.inSecond shorter then shorter else stem
        | none => stem
      | .quality => if endsWith stem "e" then w else stem
      | .manner =>
        match (cut? "er" stem).or (cut? "en" stem) with
        | some shorter => if r.inFirst shorter then shorter else stem
        | none => stem
      | .state => r.cutLongestSecond "lich ig" stem

def stem (word : String) : String :=
  let w := mark (word.toList.flatMap spellOut)
  let r := regions w
  String.ofList ((cutDerivation r (cutComparison r (cutInflection r w))).map unmark)

end Cardfile.Stemming.German
