import Cardfile.Pattern.Expr
import Cardfile.Text.Letter
import Cardfile.Text.Blank

/-! # Escapes in patterns

Readers take a part from the front of a text and give back the rest. Where the pattern is verbose,
blanks and comments are passed over between its parts.
-/

namespace Cardfile.Pattern

/-- Passes over blanks and over comments, which run to the end of the line. -/
def skipFilling (inComment : Bool) : List Char → List Char
  | [] => []
  | c :: cs =>
    if inComment then skipFilling (c != '\n') cs
    else if Text.isBlank c then skipFilling false cs
    else if c = '#' then skipFilling true cs
    else c :: cs

def skip (verbose : Bool) (cs : List Char) : List Char :=
  if verbose then skipFilling false cs else cs

/-- What an escape stands for. -/
inductive Primitive
  | letter (l : Letter)
  | assertion (a : Assertion)
  | shorthand (kind : Shorthand) (negated : Bool)
  | property (query : Query) (negated : Bool)

def Primitive.toExpr : Primitive → Expr
  | letter l => .letter l
  | assertion a => .assertion a
  | shorthand kind negated => .shorthand kind negated
  | property query negated => .property query negated

/-- Assertions cannot stand in a class. -/
def Primitive.toClass? : Primitive → Option ClassExpr
  | letter l => some (.letter l)
  | assertion _ => none
  | shorthand kind negated => some (.shorthand kind negated)
  | property query negated => some (.property query negated)

def Primitive.toLetter? : Primitive → Option Letter
  | letter l => some l
  | _ => none

def hexDigit? (c : Char) : Option Nat :=
  if c.isDigit then some (c.toNat - '0'.toNat)
  else if 'a' ≤ c && c ≤ 'f' then some (c.toNat - 'a'.toNat + 10)
  else if 'A' ≤ c && c ≤ 'F' then some (c.toNat - 'A'.toNat + 10)
  else none

/-- The character of a code, which is no half of a pair. -/
def charOfCode? (n : Nat) : Option Char :=
  if n < 0xD800 || (0xE000 ≤ n && n < 0x110000) then some (Char.ofNat n) else none

/-- A fixed number of hexadecimal digits. -/
def hexDigits? (verbose : Bool) (value : Nat) : Nat → List Char → Option (Nat × List Char)
  | 0, cs => some (value, cs)
  | count + 1, cs =>
    match cs with
    | [] => none
    | c :: rest => do hexDigits? verbose (16 * value + (← hexDigit? c)) count (skip verbose rest)

/-- Characters up to the closing brace, which is taken as well. -/
def bracedText? (fuel : Nat) (verbose : Bool) (cs : List Char) :
    Option (List Char × List Char) :=
  match fuel with
  | 0 => none
  | fuel + 1 =>
    match skip verbose cs with
    | [] => none
    | '\x7d' :: rest => some ([], rest)
    | c :: rest => (bracedText? fuel verbose rest).map fun p => (c :: p.1, p.2)

def hexValue? : Nat → List Char → Option Nat
  | value, [] => some value
  | value, c :: cs => do hexValue? (16 * value + (← hexDigit? c)) cs

/-- A character by its code, with `count` digits or with any number of them in braces. -/
def codeEscape? (verbose : Bool) (count : Nat) (cs : List Char) : Option (Letter × List Char) :=
  match skip verbose cs with
  | '\x7b' :: rest => do
    let (digits, rest) ← bracedText? (rest.length + 1) verbose rest
    if digits.isEmpty then none
    let c ← charOfCode? (← hexValue? 0 digits)
    pure (⟨c, false⟩, skip verbose rest)
  | rest => do
    let (value, rest) ← hexDigits? verbose 0 count rest
    pure (⟨← charOfCode? value, count = 2⟩, rest)

/-- A name and a value may be joined by `!=`, `:` or `=`. -/
def queryOf (text : List Char) : Query :=
  match Text.splitOnce? ['!', '='] text with
  | some (name, value) => .valued name value
  | none =>
    match Text.splitOnce? [':'] text with
    | some (name, value) => .valued name value
    | none =>
      match Text.splitOnce? ['='] text with
      | some (name, value) => .valued name value
      | none => .named text

/-- A query in braces or one of a single letter. -/
def query? (verbose : Bool) (cs : List Char) : Option (Query × List Char) :=
  match skip verbose cs with
  | [] => none
  | '\\' :: _ => none
  | '\x7b' :: rest =>
    (bracedText? (rest.length + 1) verbose rest).map fun p => (queryOf p.1, p.2)
  | c :: rest => some (.named [c], skip verbose rest)

def isBoundaryLetter (c : Char) : Bool := c.isAlpha || c = '-'

/-- Letters of the name of a boundary, up to the first other character. -/
def boundaryName (fuel : Nat) (verbose : Bool) (cs : List Char) : List Char × List Char :=
  match fuel with
  | 0 => ([], cs)
  | fuel + 1 =>
    match cs with
    | [] => ([], [])
    | c :: rest =>
      if isBoundaryLetter c then
        let (name, rest) := boundaryName fuel verbose (skip verbose rest)
        (c :: name, rest)
      else ([], c :: rest)

def boundaryOfName? (name : List Char) : Option Assertion :=
  match String.ofList name with
  | "start" => some .wordStart
  | "end" => some .wordEnd
  | "start-half" => some .wordStartHalf
  | "end-half" => some .wordEndHalf
  | _ => none

/-- What follows `\b`: the name of a boundary in braces, unless the braces hold a count. -/
def boundary? (verbose : Bool) (cs : List Char) : Option (Assertion × List Char) :=
  match cs with
  | '\x7b' :: rest =>
    match skip verbose rest with
    | [] => none
    | c :: rest' =>
      if isBoundaryLetter c then do
        let (name, rest) := boundaryName (rest.length + 1) verbose (c :: rest')
        let a ← boundaryOfName? name
        match rest with
        | '\x7d' :: rest => pure (a, rest)
        | _ => none
      else some (.boundary, cs)
  | _ => some (.boundary, cs)

def isMeta (c : Char) : Bool :=
  c = '\\' || c = '.' || c = '+' || c = '*' || c = '?' || c = '(' || c = ')' || c = '|' ||
  c = '[' || c = ']' || c.toNat = 0x7b || c.toNat = 0x7d || c = '^' || c = '$' || c = '#' ||
  c = '&' || c = '-' || c = '~'

/-- ASCII characters other than letters, digits and angles may have a backslash without need. -/
def isEscapable (c : Char) : Bool :=
  isMeta c || (c.toNat < 128 && !c.isAlphanum && c ≠ '<' && c ≠ '>')

def plainLetter (c : Char) : Primitive := .letter ⟨c, false⟩

/-- What follows a backslash. -/
def escape? (verbose : Bool) : List Char → Option (Primitive × List Char)
  | [] => none
  | c :: rest =>
    match c with
    | 'x' => (codeEscape? verbose 2 rest).map fun p => (.letter p.1, p.2)
    | 'u' => (codeEscape? verbose 4 rest).map fun p => (.letter p.1, p.2)
    | 'U' => (codeEscape? verbose 8 rest).map fun p => (.letter p.1, p.2)
    | 'p' => (query? verbose rest).map fun p => (.property p.1 false, p.2)
    | 'P' => (query? verbose rest).map fun p => (.property p.1 true, p.2)
    | 'd' => some (.shorthand .digit false, rest)
    | 's' => some (.shorthand .space false, rest)
    | 'w' => some (.shorthand .word false, rest)
    | 'D' => some (.shorthand .digit true, rest)
    | 'S' => some (.shorthand .space true, rest)
    | 'W' => some (.shorthand .word true, rest)
    | 'a' => some (plainLetter '\x07', rest)
    | 'f' => some (plainLetter '\x0c', rest)
    | 't' => some (plainLetter '\t', rest)
    | 'n' => some (plainLetter '\n', rest)
    | 'r' => some (plainLetter '\r', rest)
    | 'v' => some (plainLetter '\x0b', rest)
    | 'A' => some (.assertion .textStart, rest)
    | 'z' => some (.assertion .textEnd, rest)
    | 'b' => (boundary? verbose rest).map fun p => (.assertion p.1, p.2)
    | 'B' => some (.assertion .noBoundary, rest)
    | '<' => some (.assertion .wordStart, rest)
    | '>' => some (.assertion .wordEnd, rest)
    | c => if isEscapable c then some (plainLetter c, rest) else none

end Cardfile.Pattern
