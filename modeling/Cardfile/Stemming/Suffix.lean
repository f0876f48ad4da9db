/-! # Suffixes and regions

A stemmer cuts suffixes from a word. Which ones it may cut depends on the regions of the word in
which they lie; a region is given by the number of characters before it.
-/

namespace Cardfile.Stemming

abbrev Letters := List Char

/-- Suffixes, each with what is to be done about it. -/
abbrev Suffixes (α : Type) := List (Letters × α)

/-- Each row lists suffixes that are treated alike, with spaces between them. -/
def Suffixes.ofRows {α : Type} (rows : List (String × α)) : Suffixes α :=
  rows.flatMap fun row => (row.1.splitOn " ").map fun s => (s.toList, row.2)

/-- What comes before a suffix. -/
def stemBefore? (suffix w : Letters) : Option Letters :=
  if suffix.isSuffixOf w then some (w.take (w.length - suffix.length)) else none

def endsWith (w : Letters) (suffix : String) : Bool := suffix.toList.isSuffixOf w

/-- Cuts a suffix from a word that ends with it. -/
def cut? (suffix : String) (w : Letters) : Option Letters := stemBefore? suffix.toList w

/-- The longest suffix of a word that starts at `limit` or later, as what comes before it and what
is to be done. -/
def Suffixes.longest? {α : Type} (limit : Nat) (suffixes : Suffixes α) (w : Letters) :
    Option (Letters × α) :=
  suffixes.foldl
    (fun best entry =>
      match stemBefore? entry.1 w with
      | none => best
      | some stem =>
        if stem.length < limit then best
        else
          match best with
          | none => some (stem, entry.2)
          | some (other, a) =>
            if stem.length < other.length then some (stem, entry.2) else some (other, a))
    none

/-- The longest of a few suffixes. -/
def cutLongest? (limit : Nat) (suffixes : String) (w : Letters) : Option (Letters × Letters) :=
  (Suffixes.ofRows [(suffixes, ())]).longest? limit w |>.map fun p => (p.1, w.drop p.1.length)

/-- The characters past the first vowel and the first other letter behind it. -/
def pastVowelAndConsonant (isVowel : Char → Bool) (start : Nat) (w : Letters) : Nat :=
  match ((w.drop start).dropWhile (!isVowel ·)).dropWhile isVowel with
  | [] => w.length
  | _ :: rest => w.length - rest.length

/-- The characters past the first vowel from `start` on. -/
def pastVowel (isVowel : Char → Bool) (start : Nat) (w : Letters) : Nat :=
  match (w.drop start).dropWhile (!isVowel ·) with
  | [] => w.length
  | _ :: rest => w.length - rest.length

def pastConsonant (isVowel : Char → Bool) (start : Nat) (w : Letters) : Nat :=
  pastVowel (!isVowel ·) start w

/-- The regions that a stemmer looks at: that of verb endings and two more. -/
structure Regions where
  verb : Nat
  first : Nat
  second : Nat

/-- The second region stands to the first as the first to the word. -/
def Regions.ofVerb (isVowel : Char → Bool) (w : Letters) (verb : Nat) : Regions :=
  let first := pastVowelAndConsonant isVowel 0 w
  ⟨verb, first, pastVowelAndConsonant isVowel first w⟩

/-- The region of verb endings starts behind the second vowel if the second letter is no vowel,
behind the first other letter if the word starts with two vowels, else behind the third letter. -/
def verbRegion (isVowel : Char → Bool) (w : Letters) : Nat :=
  match w with
  | a :: b :: rest =>
    if !isVowel b then pastVowel isVowel 2 w
    else if isVowel a then pastConsonant isVowel 2 w
    else if rest.isEmpty then w.length else 3
  | _ => w.length

def Regions.inVerb (r : Regions) (stem : Letters) : Bool := r.verb ≤ stem.length

def Regions.inFirst (r : Regions) (stem : Letters) : Bool := r.first ≤ stem.length

def Regions.inSecond (r : Regions) (stem : Letters) : Bool := r.second ≤ stem.length

/-- Cuts a suffix that lies in the second region, else leaves the word. -/
def Regions.cutSecond (r : Regions) (suffix : String) (w : Letters) : Letters :=
  match cut? suffix w with
  | some stem => if r.inSecond stem then stem else w
  | none => w

/-- Cuts the longest of the suffixes if it lies in the second region. -/
def Regions.cutLongestSecond (r : Regions) (suffixes : String) (w : Letters) : Letters :=
  match cutLongest? 0 suffixes w with
  | some (stem, _) => if r.inSecond stem then stem else w
  | none => w

def add (stem : Letters) (ending : String) : Letters := stem ++ ending.toList

/-- A stem on a condition. -/
def stemIf (condition : Bool) (stem : Letters) : Option Letters :=
  if condition then some stem else none

/-- Replaces single characters. -/
def replaceChar (table : List (Char × Char)) (c : Char) : Char := (table.lookup c).getD c

def isOneOf (letters : String) (c : Char) : Bool := letters.toList.contains c

/-- Whether the last character satisfies a test. -/
def lastIs (w : Letters) (p : Char → Bool) : Bool := (w.getLast?.map p).getD false

end Cardfile.Stemming
