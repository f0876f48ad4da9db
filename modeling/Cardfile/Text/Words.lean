import Cardfile.Text.Letter
import Cardfile.Unicode.WordBreak

/-! # Words of a text

A text is cut between two characters unless a rule keeps them together: letters with letters,
digits with digits, either with the other, an apostrophe or a point between two letters, and so
on. Marks and joiners belong to the character before them. The words are the pieces that hold a
letter or a number, each with the byte at which it starts.
-/

namespace Cardfile.WordBreak

def isLetter (w : WordBreak) : Bool := w = .letter || w = .hebrew

def isLineEnd (w : WordBreak) : Bool := w = .carriageReturn || w = .lineFeed || w = .newline

/-- Marks, formats and joiners are passed over when neighbours are compared. -/
def isAttached (w : WordBreak) : Bool := w = .extend || w = .format || w = .joiner

/-- May stand between two letters of one word. -/
def joinsLetters (w : WordBreak) : Bool :=
  w = .midLetter || w = .midBoth || w = .singleQuote

/-- May stand between two digits of one number. -/
def joinsDigits (w : WordBreak) : Bool :=
  w = .midNumber || w = .midBoth || w = .singleQuote

end Cardfile.WordBreak

namespace Cardfile.Text

/-- What has been read before a place: the class of the character just before it, the classes of
the last two characters that are not passed over, and how many regional signs end there. -/
structure Behind where
  last : WordBreak
  base : WordBreak
  base' : WordBreak
  regionals : Nat

def Behind.start : Behind := ⟨.newline, .newline, .newline, 0⟩

def Behind.push (b : Behind) (w : WordBreak) : Behind :=
  if w.isAttached && !b.last.isLineEnd then { b with last := w }
  else
    { last := w
      base := w
      base' := b.base
      regionals := if w = .regional then b.regionals + 1 else 0 }

/-- The next class that is not passed over. -/
def ahead : List Char → WordBreak
  | [] => .newline
  | c :: cs => if (WordBreak.ofChar c).isAttached then ahead cs else .ofChar c

/-- The rules that look past attached characters: `p'` and `p` come before the place, `n` and `n'`
after it. -/
def joined (p' p n n' : WordBreak) (regionals : Nat) : Bool :=
  (p.isLetter && n.isLetter) ||
  (p.isLetter && n.joinsLetters && n'.isLetter) ||
  (p'.isLetter && p.joinsLetters && n.isLetter) ||
  (p = .hebrew && n = .singleQuote) ||
  (p = .hebrew && n = .doubleQuote && n' = .hebrew) ||
  (p' = .hebrew && p = .doubleQuote && n = .hebrew) ||
  (p = .digit && n = .digit) ||
  (p.isLetter && n = .digit) ||
  (p = .digit && n.isLetter) ||
  (p' = .digit && p.joinsDigits && n = .digit) ||
  (p = .digit && n.joinsDigits && n' = .digit) ||
  (p = .katakana && n = .katakana) ||
  ((p.isLetter || p = .digit || p = .katakana || p = .connector) && n = .connector) ||
  (p = .connector && (n.isLetter || n = .digit || n = .katakana)) ||
  (p = .regional && n = .regional && regionals % 2 = 1)

/-- Whether a word goes on from what is behind to the character `c`, before `rest`. -/
def continues (b : Behind) (c : Char) (rest : List Char) : Bool :=
  let n := WordBreak.ofChar c
  if b.last = .carriageReturn && n = .lineFeed then true
  else if b.last.isLineEnd || n.isLineEnd then false
  else if b.last = .joiner && Property.extendedPictographic.contains c then true
  else if b.last = .blank && n = .blank then true
  else if n.isAttached then true
  else joined b.base' b.base n (ahead rest) b.regionals

/-- Cuts `cs` into pieces; `piece` is the one that is open, last character first, and `offset` the
byte at which it starts. -/
def cut (b : Behind) (offset : Nat) (piece : List Char) : List Char → List (Nat × List Char)
  | [] => if piece.isEmpty then [] else [(offset, piece.reverse)]
  | c :: cs =>
    if piece.isEmpty || continues b c cs then cut (b.push (.ofChar c)) offset (c :: piece) cs
    else
      let size := (piece.map Char.utf8Size).sum
      (offset, piece.reverse) :: cut (b.push (.ofChar c)) (offset + size) [c] cs

/-- The words of a text in text order, each with its byte offset. -/
def words (s : String) : List (Nat × String) :=
  (cut .start 0 [] s.toList).filter (fun p => p.2.any isAlphanumeric)
    |>.map fun p => (p.1, String.ofList p.2)

end Cardfile.Text
