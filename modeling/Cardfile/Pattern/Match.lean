import Cardfile.Pattern.CharSet

/-! # Matching

A pattern leads from places in a text to places in it. The places are given by marks, one before
each character and one at the end, and the pattern moves all of them at once.
-/

namespace Cardfile

/-- What holds at a place, given the characters before and after it. -/
abbrev Condition := Option Char → Option Char → Bool

inductive Pattern
  | empty
  | set (s : Pattern.CharSet)
  | condition (holds : Condition)
  | sequence (p q : Pattern)
  | choice (p q : Pattern)
  | repetition (least : Nat) (most : Option Nat) (p : Pattern)

namespace Pattern

/-- Whether all matches are empty. -/
def onlyEmpty : Pattern → Bool
  | empty => true
  | set _ => false
  | condition _ => true
  | sequence p q => p.onlyEmpty && q.onlyEmpty
  | choice p q => p.onlyEmpty && q.onlyEmpty
  | repetition _ most p => most = some 0 || p.onlyEmpty

/-- Repeats a pattern; what can only match nothing need not be repeated. -/
def repeated (least : Nat) (most : Option Nat) (p : Pattern) : Pattern :=
  if p.onlyEmpty then repetition (min least 1) (some ((most.map (min · 1)).getD 1)) p
  else repetition least most p

/-- An estimate of how many states a matcher of the pattern has. -/
def cost : Pattern → Nat
  | empty => 1
  | set s => s.cost
  | condition _ => 1
  | sequence p q => p.cost + q.cost
  | choice p q => p.cost + q.cost + 1
  | repetition least most p =>
    match most with
    | none => (max least 1) * p.cost + 1
    | some most => least * p.cost + (most - least) * (p.cost + 1)

/-- A pattern may have as many states as ten megabytes hold. -/
def maxCost : Nat := 10 * 0x100000 / 32

/-- The conditions' surroundings of every place in a text. -/
def surroundings (before : Option Char) : List Char → List (Option Char × Option Char)
  | [] => [(before, none)]
  | c :: cs => (before, some c) :: surroundings (some c) cs

/-- Marks that one of the two has. -/
def merge (a b : List Bool) : List Bool := List.zipWith (· || ·) a b

/-- Adds the marks that `step` leads to, up to `count` times or until there are no new ones. -/
def spread (step : List Bool → List Bool) : Nat → List Bool → List Bool
  | 0, marks => marks
  | count + 1, marks =>
    let next := merge marks (step marks)
    if next = marks then marks else spread step count next

/-- Moves the marks on a text over a match of the pattern. As many rounds as there are places
reach all that unbounded repetition can reach. -/
def advance (text : List Char) : Pattern → List Bool → List Bool
  | empty, marks => marks
  | set s, marks => false :: List.zipWith (fun mark c => mark && s.contains c) marks text
  | condition holds, marks =>
    List.zipWith (fun mark at' => mark && holds at'.1 at'.2) marks (surroundings none text)
  | sequence p q, marks => advance text q (advance text p marks)
  | choice p q, marks => merge (advance text p marks) (advance text q marks)
  | repetition least most p, marks =>
    let rounds := match most with
      | none => text.length + 1
      | some most => most - least
    spread (advance text p) rounds (Nat.repeat (advance text p) least marks)

/-- Whether the pattern matches somewhere in the text. -/
def isMatch (p : Pattern) (text : List Char) : Bool :=
  (advance text p (List.replicate (text.length + 1) true)).any id

end Pattern

end Cardfile
