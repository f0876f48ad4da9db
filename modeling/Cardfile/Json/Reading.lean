import Cardfile.Json

/-! # Reading JSON

A text is one value with blanks around it. Each reader takes a value from the front of a text and
gives back the rest.
-/

namespace Cardfile.Json

def isBlank (c : Char) : Bool := c = ' ' || c = '\n' || c = '\t' || c = '\r'

def skip (cs : List Char) : List Char := cs.dropWhile isBlank

def hexDigit? (c : Char) : Option Nat :=
  if c.isDigit then some (c.toNat - '0'.toNat)
  else if 'a' ≤ c && c ≤ 'f' then some (c.toNat - 'a'.toNat + 10)
  else if 'A' ≤ c && c ≤ 'F' then some (c.toNat - 'A'.toNat + 10)
  else none

def hex4? : List Char → Option (Nat × List Char)
  | a :: b :: c :: d :: rest => do
    let n := 4096 * (← hexDigit? a) + 256 * (← hexDigit? b) + 16 * (← hexDigit? c) + (← hexDigit? d)
    pure (n, rest)
  | _ => none

def escape? (c : Char) : Option Char :=
  match c with
  | '"' => some '"'
  | '\\' => some '\\'
  | '/' => some '/'
  | 'b' => some '\x08'
  | 'f' => some '\x0c'
  | 'n' => some '\n'
  | 'r' => some '\r'
  | 't' => some '\t'
  | _ => none

/-- A piece of a text: a character, or a unit that may be half of a pair. -/
inductive Piece
  | char (c : Char)
  | unit (n : Nat)

/-- The pieces of a text up to the closing quote. -/
def pieces? (fuel : Nat) (cs : List Char) : Option (List Piece × List Char) :=
  match fuel with
  | 0 => none
  | fuel + 1 =>
    match cs with
    | [] => none
    | '"' :: rest => some ([], rest)
    | '\\' :: 'u' :: rest => do
      let (n, rest) ← hex4? rest
      let (ps, rest) ← pieces? fuel rest
      pure (.unit n :: ps, rest)
    | '\\' :: c :: rest => do
      let d ← escape? c
      let (ps, rest) ← pieces? fuel rest
      pure (.char d :: ps, rest)
    | c :: rest => do
      if c.toNat < 32 then none
      let (ps, rest) ← pieces? fuel rest
      pure (.char c :: ps, rest)

/-- Puts pairs together; a half without its other half spoils the text. -/
def assemble? : List Piece → Option (List Char)
  | [] => some []
  | .char c :: rest => (assemble? rest).map (c :: ·)
  | .unit a :: rest =>
    if 0xD800 ≤ a && a < 0xDC00 then
      match rest with
      | .unit b :: rest' =>
        if 0xDC00 ≤ b && b < 0xE000 then
          (assemble? rest').map (Char.ofNat (0x10000 + (a - 0xD800) * 0x400 + (b - 0xDC00)) :: ·)
        else none
      | _ => none
    else if 0xDC00 ≤ a && a < 0xE000 then none
    else (assemble? rest).map (Char.ofNat a :: ·)

/-- The text after an opening quote. -/
def textAfterQuote? (cs : List Char) : Option (Option String × List Char) := do
  let (ps, rest) ← pieces? cs.length cs
  pure ((assemble? ps).map String.ofList, rest)

/-- Digits at the front, at least one. -/
def digits? (cs : List Char) : Option (List Char × List Char) :=
  let ds := cs.takeWhile Char.isDigit
  if ds.isEmpty then none else some (ds, cs.drop ds.length)

def fraction? : List Char → Option (Option (List Char) × List Char)
  | '.' :: cs => (digits? cs).map fun p => (some p.1, p.2)
  | cs => some (none, cs)

def exponent? : List Char → Option (Option (Bool × List Char) × List Char)
  | [] => some (none, [])
  | c :: cs =>
    if c = 'e' || c = 'E' then
      match cs with
      | '-' :: cs => (digits? cs).map fun p => (some (true, p.1), p.2)
      | '+' :: cs => (digits? cs).map fun p => (some (false, p.1), p.2)
      | _ => (digits? cs).map fun p => (some (false, p.1), p.2)
    else some (none, c :: cs)

/-- The digits before the point have no leading zero. -/
def numeral? (negative : Bool) (cs : List Char) : Option (Numeral × List Char) := do
  let (whole, cs) ← digits? cs
  if whole.head? = some '0' && 1 < whole.length then none
  let (fraction, cs) ← fraction? cs
  let (exponent, cs) ← exponent? cs
  pure (⟨negative, whole, fraction, exponent⟩, cs)

def word? (w : List Char) (j : Json) (cs : List Char) : Option (Json × List Char) :=
  if w.isPrefixOf cs then some (j, cs.drop w.length) else none

mutual

/-- A value; the fuel is the number of characters that may be left. -/
def value? (fuel : Nat) (cs : List Char) : Option (Json × List Char) :=
  match fuel with
  | 0 => none
  | fuel + 1 =>
    match skip cs with
    | '"' :: rest => (textAfterQuote? rest).map fun p => (text p.1, p.2)
    | '[' :: rest =>
      match skip rest with
      | ']' :: rest => some (array [], rest)
      | rest => (items fuel rest).map fun p => (array p.1, p.2)
    | '\x7b' :: rest =>
      match skip rest with
      | '\x7d' :: rest => some (object [], rest)
      | rest => (members fuel rest).map fun p => (object p.1, p.2)
    | '-' :: rest => (numeral? true rest).map fun p => (number p.1, p.2)
    | 't' :: rest => word? ['r', 'u', 'e'] (bool true) rest
    | 'f' :: rest => word? ['a', 'l', 's', 'e'] (bool false) rest
    | 'n' :: rest => word? ['u', 'l', 'l'] null rest
    | rest => (numeral? false rest).map fun p => (number p.1, p.2)

/-- The items of an array up to its end. -/
def items (fuel : Nat) (cs : List Char) : Option (List Json × List Char) :=
  match fuel with
  | 0 => none
  | fuel + 1 => do
    let (j, rest) ← value? fuel cs
    match skip rest with
    | ',' :: rest => do
      let (js, rest) ← items fuel rest
      pure (j :: js, rest)
    | ']' :: rest => pure ([j], rest)
    | _ => none

/-- The members of an object up to its end. -/
def members (fuel : Nat) (cs : List Char) : Option (List (Option String × Json) × List Char) :=
  match fuel with
  | 0 => none
  | fuel + 1 =>
    match skip cs with
    | '"' :: rest => do
      let (k, rest) ← textAfterQuote? rest
      match skip rest with
      | ':' :: rest => do
        let (j, rest) ← value? fuel rest
        match skip rest with
        | ',' :: rest => do
          let (ms, rest) ← members fuel rest
          pure ((k, j) :: ms, rest)
        | '\x7d' :: rest => pure ([(k, j)], rest)
        | _ => none
      | _ => none
    | _ => none

end

/-- The tree of a text, if it is JSON. -/
def ofText? (s : String) : Option Json :=
  let cs := s.toList
  match value? (cs.length + 1) cs with
  | some (j, rest) => if (skip rest).isEmpty then some j else none
  | none => none

end Cardfile.Json
