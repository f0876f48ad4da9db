import Cardfile.Stemming.Suffix

/-! # French words -/

namespace Cardfile.Stemming.French

def isVowel : Char → Bool := isOneOf "aeiouyâàëéêèïîôûù"

/-- Vowel letters that stand for consonants are written large. -/
def mark : Letters → Letters
  | [] => []
  | 'q' :: 'u' :: rest => 'q' :: 'U' :: mark rest
  | [a] => [a]
  | [a, b] =>
    if isVowel a && b = 'y' then [a, 'Y']
    else if a = 'y' && isVowel b then ['Y', b]
    else [a, b]
  | a :: b :: c :: rest =>
    if isVowel a && b = 'u' && isVowel c then a :: 'U' :: c :: mark rest
    else if isVowel a && b = 'i' && isVowel c then a :: 'I' :: c :: mark rest
    else if isVowel a && b = 'y' then a :: 'Y' :: mark (c :: rest)
    else if a = 'y' && isVowel b then 'Y' :: b :: mark (c :: rest)
    else a :: mark (b :: c :: rest)

def unmark : Char → Char := replaceChar [('I', 'i'), ('U', 'u'), ('Y', 'y')]

def verbStart (w : Letters) : Nat :=
  match w with
  | a :: b :: _ :: _ =>
    if isVowel a && isVowel b then 3
    else if ["par", "col", "tap"].any fun s => s.toList.isPrefixOf w then 3
    else pastVowel isVowel 1 w
  | _ => pastVowel isVowel 1 w

def regions (w : Letters) : Regions := .ofVerb isVowel w (verbStart w)

inductive Noun
  | cut | agent | log | u | ent | adverb | quality | tendency | eau | al | euse | verbal
  | amment | emment | ment

def nouns : Suffixes Noun := .ofRows [
  ("ance iqUe isme able iste eux ances iqUes ismes ables istes", .cut),
  ("atrice ateur ation atrices ateurs ations", .agent), ("logie logies", .log),
  ("usion ution usions utions", .u), ("ence ences", .ent), ("ement ements", .adverb),
  ("ité ités", .quality), ("if ive ifs ives", .tendency), ("eaux", .eau), ("aux", .al),
  ("euse euses", .euse), ("issement issements", .verbal), ("amment", .amment),
  ("emment", .emment), ("ment ments", .ment)]

/-- A stem in `ic` loses that in the second region and is spelled out before it. -/
def trimIc (r : Regions) (w : Letters) : Letters :=
  match cut? "ic" w with
  | some stem => if r.inSecond stem then stem else add stem "iqU"
  | none => w

def adverbs : Suffixes String := .ofRows [
  ("iv", "iv"), ("eus", "eus"), ("abl iqU", "cut"), ("ièr Ièr", "ier")]

def trimAdverb (r : Regions) (w : Letters) : Letters :=
  match adverbs.longest? 0 w with
  | some (stem, "iv") => if r.inSecond stem then r.cutSecond "at" stem else w
  | some (stem, "eus") =>
    if r.inSecond stem then stem else if r.inFirst stem then add stem "eux" else w
  | some (stem, "cut") => if r.inSecond stem then stem else w
  | some (stem, _) => if r.inVerb stem then add stem "i" else w
  | none => w

def trimQuality (r : Regions) (w : Letters) : Letters :=
  match cutLongest? 0 "abil ic iv" w with
  | some (stem, 'a' :: _) => if r.inSecond stem then stem else add stem "abl"
  | some (stem, ['i', 'c']) => if r.inSecond stem then stem else add stem "iqU"
  | some (stem, _) => if r.inSecond stem then stem else w
  | none => w

def trimTendency (r : Regions) (w : Letters) : Letters :=
  match cut? "at" w with
  | some stem => if r.inSecond stem then trimIc r stem else w
  | none => w

/-- A word after a step, and whether the step settles its ending. -/
abbrev Step := Letters × Bool

/-- Cuts the ending of a noun or an adjective. Of adverbs only the adverbial ending is cut. -/
def cutNoun (r : Regions) (w : Letters) : Step :=
  match nouns.longest? 0 w with
  | none => (w, false)
  | some (stem, kind) =>
    let settle (condition : Bool) (result : Letters) : Step :=
      if condition then (result, true) else (w, false)
    let second := r.inSecond stem
    match kind with
    | .cut => settle second stem
    | .agent => settle second (trimIc r stem)
    | .log => settle second (add stem "log")
    | .u => settle second (add stem "u")
    | .ent => settle second (add stem "ent")
    | .adverb => settle (r.inVerb stem) (trimAdverb r stem)
    | .quality => settle second (trimQuality r stem)
    | .tendency => settle second (trimTendency r stem)
    | .eau => (add stem "eau", true)
    | .al => settle (r.inFirst stem) (add stem "al")
    | .euse => if second then (stem, true) else settle (r.inFirst stem) (add stem "eux")
    | .verbal => settle (r.inFirst stem && lastIs stem (!isVowel ·)) stem
    | .amment => (if r.inVerb stem then add stem "ant" else w, false)
    | .emment => (if r.inVerb stem then add stem "ent" else w, false)
    | .ment => (if lastIs stem isVowel && r.inVerb stem.dropLast then stem else w, false)

def iVerbs : Suffixes Unit := .ofRows [
  ("îmes ît îtes i ie ies ir ira irai iraIent irais irait iras irent irez iriez irions irons " ++
   "iront is issaIent issais issait issant issante issantes issants isse issent isses issez " ++
   "issiez issions issons it", ())]

/-- The letter before the ending has to be a consonant of the verb region. -/
def cutIVerb? (r : Regions) (w : Letters) : Option Letters :=
  match iVerbs.longest? r.verb w with
  | some (stem, _) => stemIf (r.verb < stem.length && lastIs stem (!isVowel ·)) stem
  | none => none

inductive Verb
  | ions | cut | cutE

def verbs : Suffixes Verb := .ofRows [
  ("ions", .ions),
  ("é ée ées és èrent er era erai eraIent erais erait eras erez eriez erions erons eront ez iez",
    .cut),
  ("âmes ât âtes a ai aIent ais ait ant ante antes ants as asse assent asses assiez assions",
    .cutE)]

def cutVerb? (r : Regions) (w : Letters) : Option Letters :=
  match verbs.longest? r.verb w with
  | some (stem, .ions) => stemIf (r.inSecond stem) stem
  | some (stem, .cut) => some stem
  | some (stem, .cutE) =>
    match cut? "e" stem with
    | some shorter => some (if r.inVerb shorter then shorter else stem)
    | none => some stem
  | none => none

def residues : Suffixes String := .ofRows [
  ("ion", "ion"), ("ier ière Ier Ière", "i"), ("e", "e"), ("ë", "ë")]

def cutResidue (r : Regions) (w : Letters) : Letters :=
  let w := match cut? "s" w with
    | some stem => if lastIs stem (!isOneOf "aiouès" ·) then stem else w
    | none => w
  match residues.longest? r.verb w with
  | some (stem, "ion") =>
    if r.inSecond stem && r.verb < stem.length && lastIs stem (isOneOf "st") then stem else w
  | some (stem, "i") => add stem "i"
  | some (stem, "e") => stem
  | some (stem, _) => if endsWith stem "gu" && r.verb + 2 ≤ stem.length then stem else w
  | none => w

def settleEnd (w : Letters) : Letters :=
  match w.getLast? with
  | some 'Y' => add w.dropLast "i"
  | some 'ç' => add w.dropLast "c"
  | _ => w

def cutEnding (r : Regions) (w : Letters) : Letters :=
  match cutNoun r w with
  | (w, true) => settleEnd w
  | (w, false) =>
    match (cutIVerb? r w).or (cutVerb? r w) with
    | some w => settleEnd w
    | none => cutResidue r w

def undouble (w : Letters) : Letters :=
  if ["enn", "onn", "ett", "ell", "eill"].any (endsWith w) then w.dropLast else w

/-- The accent of an `e` before final consonants is dropped. -/
def unaccent (w : Letters) : Letters :=
  let consonants := w.reverse.takeWhile (!isVowel ·)
  match consonants, w.reverse.dropWhile (!isVowel ·) with
  | _ :: _, c :: rest =>
    (if c = 'é' || c = 'è' then 'e' :: rest else c :: rest).reverse ++ consonants.reverse
  | _, _ => w

def stem (word : String) : String :=
  let w := mark word.toList
  String.ofList ((unaccent (undouble (cutEnding (regions w) w))).map unmark)

end Cardfile.Stemming.French
