/-! # Runs of code points

A property of characters is written as runs: how many code points in a row carry a label. The
text form is one word per run, its length in base 36 before a capitalised label; a set needs no
labels, its runs lie outside and inside by turns.
-/

namespace Cardfile

/-- The value of a digit of base 36, letters in lower case. -/
def digit36? (c : Char) : Option Nat :=
  if c.isDigit then some (c.toNat - '0'.toNat)
  else if c.isLower then some (c.toNat - 'a'.toNat + 10)
  else none

/-- The number that a text starts with, continued from `n`, and what follows it. -/
def readNumber36 (n : Nat) : List Char → Nat × List Char
  | [] => (n, [])
  | c :: cs =>
    match digit36? c with
    | some d => readNumber36 (36 * n + d) cs
    | none => (n, c :: cs)

/-- The last position between `lo` and `hi` whose entry is at most `x`, if the one at `lo` is. -/
def lastAtMost (entries : Array Nat) (x lo hi : Nat) : Nat :=
  if hi ≤ lo + 1 then lo
  else
    let mid := (lo + hi) / 2
    if entries.getD mid 0 ≤ x then lastAtMost entries x mid hi else lastAtMost entries x lo mid
  termination_by hi - lo

/-- A label for every code point, constant on each run. -/
structure Runs (α : Type) where
  starts : Array Nat
  labels : Array α

namespace Runs

variable {α : Type}

def addWord (label : List Char → α) (found : Nat × Runs α) (word : String) : Nat × Runs α :=
  let (length, rest) := readNumber36 0 word.toList
  (found.1 + length, ⟨found.2.starts.push found.1, found.2.labels.push (label rest)⟩)

def ofText (label : List Char → α) (text : String) : Runs α :=
  ((text.splitOn " ").foldl (addWord label) (0, ⟨#[], #[]⟩)).2

def get (runs : Runs α) (c : Char) (default : α) : α :=
  runs.labels.getD (lastAtMost runs.starts c.toNat 0 runs.starts.size) default

end Runs

/-- A set of code points, given by where membership changes. -/
structure CodeSet where
  changes : Array Nat

namespace CodeSet

def addWord (found : Nat × Array Nat) (word : String) : Nat × Array Nat :=
  let next := found.1 + (readNumber36 0 word.toList).1
  (next, found.2.push next)

def ofText (text : String) : CodeSet :=
  ⟨((text.splitOn " ").foldl addWord (0, #[0])).2⟩

/-- A code point is in the set after an odd number of changes. -/
def contains (s : CodeSet) (c : Char) : Bool :=
  lastAtMost s.changes c.toNat 0 s.changes.size % 2 = 1

end CodeSet

/-- Code points `step` apart that a case mapping moves by one distance. -/
structure CaseRun where
  first : Nat
  count : Nat
  step : Nat
  target : Nat

namespace CaseRun

def maps (run : CaseRun) (x : Nat) : Bool :=
  run.first ≤ x && (x - run.first) % run.step = 0 && (x - run.first) / run.step < run.count

def apply (run : CaseRun) (x : Nat) : Nat := run.target + (x - run.first)

def ofWords : List String → List CaseRun
  | a :: n :: s :: t :: rest =>
    let num (w : String) := (readNumber36 0 w.toList).1
    ⟨num a, num n, num s, num t⟩ :: ofWords rest
  | _ => []

end CaseRun

end Cardfile
