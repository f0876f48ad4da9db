import Cardfile.Stemming.Suffix

/-! # Dutch words -/

namespace Cardfile.Stemming.Dutch

def isVowel : Char → Bool := isOneOf "aeiouyè"

def unaccent : Char → Char :=
  replaceChar [('ä', 'a'), ('á', 'a'), ('ë', 'e'), ('é', 'e'), ('ï', 'i'), ('í', 'i'), ('ö', 'o'),
    ('ó', 'o'), ('ü', 'u'), ('ú', 'u')]

/-- An `i` between vowels and a `y` behind a vowel are written large. -/
def mark : Letters → Letters
  | [] => []
  | [a] => [a]
  | [a, b] => if isVowel a && b = 'y' then [a, 'Y'] else [a, b]
  | a :: b :: c :: rest =>
    if isVowel a && b = 'i' && isVowel c then a :: 'I' :: c :: mark rest
    else if isVowel a && b = 'y' then a :: 'Y' :: mark (c :: rest)
    else a :: mark (b :: c :: rest)

def markStart : Letters → Letters
  | 'y' :: rest => 'Y' :: mark rest
  | w => mark w

def unmark : Char → Char := replaceChar [('Y', 'y'), ('I', 'i')]

/-- How many characters the first `count` bytes of a word reach into. -/
def charactersIn : Nat → Letters → Nat
  | 0, _ => 0
  | _, [] => 0
  | count + 1, c :: rest => charactersIn (count + 1 - c.utf8Size) rest + 1

/-- The first region leaves at least three bytes. -/
def regions (w : Letters) : Regions :=
  let first := pastVowelAndConsonant isVowel 0 w
  ⟨w.length, max first (charactersIn 3 w), pastVowelAndConsonant isVowel first w⟩

def undouble (w : Letters) : Letters :=
  if ["kk", "dd", "tt"].any (endsWith w) then w.dropLast else w

/-- Cuts a final `e` behind a consonant, and tells whether there was one. -/
def cutE (r : Regions) (w : Letters) : Letters × Bool :=
  match cut? "e" w with
  | some stem =>
    if r.inFirst stem && lastIs stem (!isVowel ·) then (undouble stem, true) else (w, false)
  | none => (w, false)

/-- What is left of a word without its ending `en`, if it may be cut. -/
def stemOfEn (r : Regions) (w stem : Letters) : Letters :=
  if r.inFirst stem && lastIs stem (!isVowel ·) && !endsWith stem "gem" then undouble stem else w

inductive Plural
  | heden | en | s

def plurals : Suffixes Plural := .ofRows [("heden", .heden), ("en ene", .en), ("s se", .s)]

def cutPlural (r : Regions) (w : Letters) : Letters :=
  match plurals.longest? 0 w with
  | none => w
  | some (stem, .heden) => if r.inFirst stem then add stem "heid" else w
  | some (stem, .en) => stemOfEn r w stem
  | some (stem, .s) =>
    if r.inFirst stem && lastIs stem fun c => !isVowel c && c ≠ 'j' then stem else w

def cutHeid (r : Regions) (w : Letters) : Letters :=
  match cut? "heid" w with
  | none => w
  | some stem =>
    if r.inSecond stem && !endsWith stem "c" then
      match cut? "en" stem with
      | some shorter => stemOfEn r stem shorter
      | none => stem
    else w

inductive Derivation
  | action | ig | lijk | baar | bar

def derivations : Suffixes Derivation := .ofRows [
  ("end ing", .action), ("ig", .ig), ("lijk", .lijk), ("baar", .baar), ("bar", .bar)]

def cutDerivation (r : Regions) (lostE : Bool) (w : Letters) : Letters :=
  match derivations.longest? 0 w with
  | none => w
  | some (stem, kind) =>
    if !r.inSecond stem then w
    else
      match kind with
      | .action =>
        match cut? "ig" stem with
        | some shorter =>
          if r.inSecond shorter && !endsWith shorter "e" then shorter else undouble stem
        | none => undouble stem
      | .ig => if endsWith stem "e" then w else stem
      | .lijk => (cutE r stem).1
      | .baar => stem
      | .bar => if lostE then stem else w

/-- A double vowel between consonants at the end loses one. -/
def shortenVowel (w : Letters) : Letters :=
  match w.reverse with
  | d :: b :: a :: c :: rest =>
    if !isVowel d && d ≠ 'I' && a = b && isOneOf "aeou" a && !isVowel c then
      (d :: a :: c :: rest).reverse
    else w
  | _ => w

def stem (word : String) : String :=
  let w := markStart (word.toList.map unaccent)
  let r := regions w
  let (w, lostE) := cutE r (cutPlural r w)
  String.ofList ((shortenVowel (cutDerivation r lostE (cutHeid r w))).map unmark)

end Cardfile.Stemming.Dutch
