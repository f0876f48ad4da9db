/-! # Tokens

What analysis makes of the words of a text. A token stands for a word: it has the place of the
word among the words of the text and the byte at which the word starts, and it is the word itself
or one of its expansions. Places are counted on without end, where a counter of 32 bits is used up
by a text of `2 ^ 32` words.
-/

namespace Cardfile

inductive TokenKind
  | word | synonym
  deriving DecidableEq

structure Token where
  text : String
  position : Nat
  offset : Nat
  kind : TokenKind
  deriving DecidableEq

namespace Token

/-- A word in more than `maxLength` bytes is passed over and takes no position. -/
def ofWords (maxLength : Nat) (words : List (Nat × String)) : List Token :=
  (words.filter fun w => w.2.utf8ByteSize ≤ maxLength).zipIdx.map fun w =>
    ⟨w.1.2, w.2, w.1.1, .word⟩

/-- The same token with a text of its own. -/
def withText (t : Token) (text : String) : Token := { t with text := text }

def expansion (t : Token) (text : String) : Token := { t with text := text, kind := .synonym }

end Token

end Cardfile
