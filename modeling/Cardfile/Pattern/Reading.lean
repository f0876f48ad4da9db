import Cardfile.Pattern.Bracket

/-! # Reading patterns

A pattern is a list of branches, each a sequence of items; an item in parentheses is again a list
of branches. A repetition applies to the item before it.
-/

namespace Cardfile.Pattern

def flagOf? : Char → Option Flag
  | 'i' => some .ignoreCase
  | 'm' => some .multiLine
  | 's' => some .dotAll
  | 'U' => some .swapGreed
  | 'u' => some .unicode
  | 'R' => some .lineFeeds
  | 'x' => some .verbose
  | _ => none

/-- Flags up to a colon or a parenthesis, which stays. Each is given once, and one minus sign may
stand before those that are cleared. -/
def flagChanges? (value : Bool) (seen : List Flag) :
    List Char → Option (FlagChanges × List Char)
  | [] => none
  | ':' :: rest => some ([], ':' :: rest)
  | ')' :: rest => some ([], ')' :: rest)
  | '-' :: rest => do
    let (changes, rest) ← if value then flagChanges? false seen rest else none
    if changes.isEmpty then none else pure (changes, rest)
  | c :: rest => do
    let flag ← flagOf? c
    if seen.contains flag then none
    let (changes, rest) ← flagChanges? value (flag :: seen) rest
    pure ((flag, value) :: changes, rest)

def isNameStart (c : Char) : Bool := c = '_' || Text.isAlphabetic c

def isNameRest (c : Char) : Bool :=
  c = '_' || c = '.' || c = '[' || c = ']' || Text.isAlphanumeric c

/-- The name of a group up to its closing angle. -/
def groupName? (cs : List Char) : Option (List Char × List Char) :=
  let name := cs.takeWhile (· ≠ '>')
  match name, cs.drop name.length with
  | first :: others, _ :: rest =>
    if isNameStart first && others.all isNameRest then some (name, rest) else none
  | _, _ => none

/-- What an opening parenthesis begins. -/
inductive Opening
  | flags (changes : FlagChanges)
  | group (capture : Capture) (changes : FlagChanges)

def namedOpening? (cs : List Char) : Option (Opening × List Char) :=
  (groupName? cs).map fun p => (.group (.named p.1) [], p.2)

/-- What follows an opening parenthesis. There is no looking around. -/
def opening? (cs : List Char) : Option (Opening × List Char) :=
  match cs with
  | '?' :: '=' :: _ => none
  | '?' :: '!' :: _ => none
  | '?' :: '<' :: '=' :: _ => none
  | '?' :: '<' :: '!' :: _ => none
  | '?' :: 'P' :: '<' :: rest => namedOpening? rest
  | '?' :: '<' :: rest => namedOpening? rest
  | '?' :: rest => do
    let (changes, rest) ← flagChanges? true [] rest
    match rest with
    | ':' :: rest => pure (.group .none changes, rest)
    | _ :: rest => if changes.isEmpty then none else pure (.flags changes, rest)
    | [] => none
  | rest => some (.group .numbered [], rest)

/-- The digits of a count, blanks and comments between them passed over. -/
def countDigits (fuel : Nat) (verbose : Bool) (cs : List Char) : List Char × List Char :=
  match fuel with
  | 0 => ([], cs)
  | fuel + 1 =>
    match cs with
    | [] => ([], [])
    | c :: rest =>
      if c.isDigit then
        let (ds, rest) := countDigits fuel verbose (skip verbose rest)
        (c :: ds, rest)
      else ([], c :: rest)

/-- Blanks around a count are allowed everywhere. -/
def skipBlanks (verbose : Bool) (fuel : Nat) (cs : List Char) : List Char :=
  match fuel with
  | 0 => cs
  | fuel + 1 =>
    match cs with
    | [] => []
    | c :: rest => if Text.isBlank c then skipBlanks verbose fuel (skip verbose rest) else c :: rest

/-- A count below `2 ^ 32` with blanks around it. -/
def count (verbose : Bool) (cs : List Char) : Option Nat × List Char :=
  let (ds, rest) := countDigits (cs.length + 1) verbose (cs.dropWhile Text.isBlank)
  let n := ds.foldl (fun n c => 10 * n + (c.toNat - '0'.toNat)) 0
  (if ds.isEmpty || 0x100000000 ≤ n then none else some n,
    skipBlanks verbose (rest.length + 1) rest)

/-- The counts of a repetition after its opening brace, up to and with the closing one. -/
def bounds? (verbose : Bool) (cs : List Char) : Option ((Nat × Option Nat) × List Char) := do
  let (least, rest) := count verbose (skip verbose cs)
  let least ← least
  match rest with
  | '\x7d' :: rest => pure ((least, some least), rest)
  | ',' :: rest =>
    match skip verbose rest with
    | '\x7d' :: rest => pure ((least, none), rest)
    | rest =>
      let (most, rest) := count verbose rest
      let most ← most
      match rest with
      | '\x7d' :: rest => if least ≤ most then pure ((least, some most), rest) else none
      | _ => none
  | _ => none

/-- A question mark after a repetition only changes which match is preferred. -/
def skipLazy : List Char → List Char
  | '?' :: rest => rest
  | rest => rest

/-- Repeats the last item, if it is one that can be repeated. -/
def repeatLast? (least : Nat) (most : Option Nat) : List Expr → Option (List Expr)
  | [] => none
  | .flags _ :: _ => none
  | e :: done => some (.repetition least most e :: done)

mutual

/-- Branches up to the end of the text or a closing parenthesis, which stays. -/
def branches? (fuel : Nat) (verbose : Bool) (cs : List Char) : Option (List Expr × List Char) :=
  match fuel with
  | 0 => none
  | fuel + 1 => do
    let (branch, verbose, rest) ← items? fuel verbose [] cs
    match rest with
    | '|' :: rest => do
      let (others, rest) ← branches? fuel verbose rest
      pure (branch :: others, rest)
    | _ => pure ([branch], rest)

/-- The items of a branch; `done` holds those already read, last item first. Flags hold from
where they stand to the end of the parenthesis around them. -/
def items? (fuel : Nat) (verbose : Bool) (done : List Expr) (cs : List Char) :
    Option (Expr × Bool × List Char) :=
  match fuel with
  | 0 => none
  | fuel + 1 =>
    match skip verbose cs with
    | [] => some (.ofItems done.reverse, verbose, [])
    | ')' :: rest => some (.ofItems done.reverse, verbose, ')' :: rest)
    | '|' :: rest => some (.ofItems done.reverse, verbose, '|' :: rest)
    | '(' :: rest => do
      let (opening, rest) ← opening? (skip verbose rest)
      match opening with
      | .flags changes =>
        items? fuel ((changes.value? .verbose).getD verbose) (.flags changes :: done) rest
      | .group capture changes =>
        let (body, rest) ← branches? fuel ((changes.value? .verbose).getD verbose) rest
        match rest with
        | ')' :: rest => items? fuel verbose (.group capture changes (.ofBranches body) :: done) rest
        | _ => none
    | '[' :: rest => do
      let (e, rest) ← bracket? verbose rest
      items? fuel verbose (e :: done) rest
    | '?' :: rest => do items? fuel verbose (← repeatLast? 0 (some 1) done) (skipLazy rest)
    | '*' :: rest => do items? fuel verbose (← repeatLast? 0 none done) (skipLazy rest)
    | '+' :: rest => do items? fuel verbose (← repeatLast? 1 none done) (skipLazy rest)
    | '\x7b' :: rest => do
      let ((least, most), rest) ← bounds? verbose rest
      items? fuel verbose (← repeatLast? least most done) (skipLazy (skip verbose rest))
    | '\\' :: rest => do
      let (p, rest) ← escape? verbose rest
      items? fuel verbose (p.toExpr :: done) rest
    | '.' :: rest => items? fuel verbose (.dot :: done) rest
    | '^' :: rest => items? fuel verbose (.assertion .lineStart :: done) rest
    | '$' :: rest => items? fuel verbose (.assertion .lineEnd :: done) rest
    | c :: rest => items? fuel verbose (.letter ⟨c, false⟩ :: done) rest

end

/-- How deep the parts of a pattern may stand inside each other. -/
def Expr.maxNesting : Nat := 250

/-- The expression that a text writes. Group names are distinct. -/
def Expr.ofText? (cs : List Char) : Option Expr := do
  let (body, rest) ← branches? (2 * cs.length + 2) false cs
  let e := Expr.ofBranches body
  if rest.isEmpty && e.groupNames.Nodup && e.depth ≤ Expr.maxNesting then some e else none

end Cardfile.Pattern
