import Cardfile.Pattern.Escape

/-! # Bracketed classes

A class lists letters, ranges and other classes between brackets. The operators `&&`, `--` and
`~~` stand between lists and group to the left.
-/

namespace Cardfile.Pattern

def asciiClassOfName? (name : List Char) : Option AsciiClass :=
  match String.ofList name with
  | "alnum" => some .alnum
  | "alpha" => some .alpha
  | "ascii" => some .ascii
  | "blank" => some .blank
  | "cntrl" => some .cntrl
  | "digit" => some .digit
  | "graph" => some .graph
  | "lower" => some .lower
  | "print" => some .print
  | "punct" => some .punct
  | "space" => some .space
  | "upper" => some .upper
  | "word" => some .word
  | "xdigit" => some .xdigit
  | _ => none

/-- What follows the bracket of a class such as `[:alpha:]` or `[:^alpha:]`. -/
def asciiClass? : List Char → Option (ClassExpr × List Char)
  | ':' :: cs =>
    let negated := cs.head? = some '^'
    let named := if negated then cs.drop 1 else cs
    let name := named.takeWhile (· ≠ ':')
    match named.drop name.length with
    | ':' :: ']' :: rest => (asciiClassOfName? name).map fun kind => (.ascii kind negated, rest)
    | _ => none
  | _ => none

/-- The next character that counts after the first one. In a verbose pattern a mark for a comment
hides only itself and the blanks after it. -/
def peekSecond (verbose : Bool) (cs : List Char) : Option Char :=
  let rest := cs.drop 1
  if verbose then
    match rest.dropWhile Text.isBlank with
    | '#' :: more =>
      match more.dropWhile Text.isBlank with
      | c :: _ => some c
      | [] => rest.head?
    | c :: _ => some c
    | [] => rest.head?
  else rest.head?

def classPrimitive? (verbose : Bool) : List Char → Option (Primitive × List Char)
  | [] => none
  | '\\' :: rest => escape? verbose rest
  | c :: rest => some (plainLetter c, rest)

/-- An item or a range of letters. A minus sign before a bracket or another minus sign makes no
range. -/
def classItem? (verbose : Bool) (cs : List Char) : Option (ClassExpr × List Char) := do
  let (first, rest) ← classPrimitive? verbose cs
  match skip verbose rest with
  | [] => none
  | '-' :: more =>
    let second := peekSecond verbose ('-' :: more)
    if second = some ']' || second = some '-' then pure (← first.toClass?, '-' :: more)
    else do
      let (last, rest) ← classPrimitive? verbose (skip verbose more)
      let a ← first.toLetter?
      let b ← last.toLetter?
      if a.char ≤ b.char then pure (.range a b, rest) else none
  | rest => pure (← first.toClass?, rest)

/-- A set operation that waits for its right side. -/
abbrev Pending := Option (SetOperation × ClassExpr)

def Pending.apply (p : Pending) (right : ClassExpr) : ClassExpr :=
  match p with
  | none => right
  | some (op, left) => .combine op left right

/-- Minus signs at the start of a class are letters. -/
def leadingMinus (verbose : Bool) (fuel : Nat) (cs : List Char) :
    List ClassExpr × List Char :=
  match fuel with
  | 0 => ([], cs)
  | fuel + 1 =>
    match cs with
    | '-' :: rest =>
      let (items, rest) := leadingMinus verbose fuel (skip verbose rest)
      (.letter ⟨'-', false⟩ :: items, rest)
    | _ => ([], cs)

/-- The start of a class after its bracket: whether it is negated, and the minus signs or the
bracket that are letters because they come first. -/
def classStart (verbose : Bool) (cs : List Char) : Bool × List ClassExpr × List Char :=
  let cs := skip verbose cs
  let (negated, cs) := match cs with
    | '^' :: rest => (true, skip verbose rest)
    | _ => (false, cs)
  let (items, cs) := leadingMinus verbose (cs.length + 1) cs
  match cs with
  | ']' :: rest =>
    if items.isEmpty then (negated, [.letter ⟨']', false⟩], skip verbose rest)
    else (negated, items, cs)
  | _ => (negated, items, cs)

/-- The rest of a class up to its closing bracket. `done` holds the items since the last operator,
last item first. -/
def classRest? (fuel : Nat) (verbose : Bool) (pending : Pending) (done : List ClassExpr)
    (cs : List Char) : Option (ClassExpr × List Char) :=
  match fuel with
  | 0 => none
  | fuel + 1 =>
    let left := pending.apply (.ofItems done.reverse)
    match skip verbose cs with
    | [] => none
    | ']' :: rest => some (left, rest)
    | '[' :: rest =>
      match asciiClass? rest with
      | some (item, rest) => classRest? fuel verbose pending (item :: done) rest
      | none => do
        let (negated, items, rest) := classStart verbose rest
        let (body, rest) ← classRest? fuel verbose none items.reverse rest
        classRest? fuel verbose pending (.bracket negated body :: done) rest
    | '&' :: '&' :: rest => classRest? fuel verbose (some (.both, left)) [] rest
    | '-' :: '-' :: rest => classRest? fuel verbose (some (.without, left)) [] rest
    | '~' :: '~' :: rest => classRest? fuel verbose (some (.either, left)) [] rest
    | rest => do
      let (item, rest) ← classItem? verbose rest
      classRest? fuel verbose pending (item :: done) rest

/-- A class after its opening bracket. -/
def bracket? (verbose : Bool) (cs : List Char) : Option (Expr × List Char) := do
  let (negated, items, rest) := classStart verbose cs
  let (body, rest) ← classRest? (rest.length + 1) verbose none items.reverse rest
  pure (.bracket negated body, rest)

end Cardfile.Pattern
