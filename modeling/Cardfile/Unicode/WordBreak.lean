import Cardfile.Unicode.Runs

/-! # Word break classes

The class of a character decides where a text may be cut into words.
-/

namespace Cardfile

inductive WordBreak
  | other | carriageReturn | lineFeed | newline | extend | format | joiner | blank
  | regional | letter | hebrew | katakana | digit | midLetter | midNumber | midBoth
  | singleQuote | doubleQuote | connector
  deriving DecidableEq

namespace WordBreak

def ofLabel : List Char → WordBreak
  | ['C'] => carriageReturn
  | ['X'] => lineFeed
  | ['Y'] => newline
  | ['E'] => extend
  | ['F'] => format
  | ['Z'] => joiner
  | ['W'] => blank
  | ['R'] => regional
  | ['A'] => letter
  | ['H'] => hebrew
  | ['K'] => katakana
  | ['N'] => digit
  | ['L'] => midLetter
  | ['M'] => midNumber
  | ['B'] => midBoth
  | ['Q'] => singleQuote
  | ['D'] => doubleQuote
  | ['U'] => connector
  | _ => other

def runs : Runs WordBreak := Runs.ofText ofLabel <| String.join [
    "aO 1X 2Y 1C iO 1W 1O 1D 4O 1Q 4O 1M 1O 1B 1O aN 1L 1M 5O qA 4O 1U 1O qA aO 1Y 10O 1A 2O 1F 7O ",
    "1A 1O 1L 2O 1A 5O nA 1O vA 1O dcA 6O yA 34E 5A 1O 2A 2O 4A 1M 1A 6O 1A 1L 3A 1O 1A 1O kA 1O ",
    "2bA 1O 3vA 1O 7E 4mA 1O 12A 2O 4A 1O 1A 1L 15A 1M 1A 6O 19E 1O 1E 1O 2E 1O 2E 1O 1E 8O rH 4O ",
    "4H 1A 1L bO 6N 6O 2M 2O bE 1O 1F 3O 17A lE aN 1O 1N 1M 1O 2A 1E 2rA 1O 1A 7E 1N 1O 6E 2A 2E ",
    "1O 4E 2A aN 3A 2O 1A fO 1F 1A 1E uA rE 2O 2hA bE 1A eO aN xA 9E 2A 2O 1M 1O 1A 2O 1E 2O mA 4E ",
    "1A 9E 1A 3E 1A 5E iO pA 3E 4O bA 5O oA 1O 6A 1O 2N 5O 9E 16A oE 1N xE 1iA 3E 1A iE 1A 7E aA ",
    "2E 2O aN 1O gA 3E 1O 8A 2O 2A 2O mA 1O 7A 1O 1A 3O 4A 2O 1E 1A 7E 2O 2E 2O 3E 1A 8O 1E 4O 2A ",
    "1O 3A 2E 2O aN 2A aO 1A 1O 1E 2O 3E 1O 6A 4O 2A 2O mA 1O 7A 1O 2A 1O 2A 1O 2A 2O 1E 1O 5E 4O ",
    "2E 2O 3E 3O 1E 7O 4A 1O 1A 7O aN 2E 3A 1E bO 3E 1O 9A 1O 3A 1O mA 1O 7A 1O 2A 1O 5A 2O 1E 1A ",
    "8E 1O 3E 1O 3E 2O 1A fO 2A 2E 2O aN 9O 1A 6E 1O 3E 1O 8A 2O 2A 2O mA 1O 7A 1O 2A 1O 5A 2O 1E ",
    "1A 7E 2O 2E 2O 3E 7O 3E 4O 2A 1O 3A 2E 2O aN 1O 1A gO 1E 1A 1O 6A 3O 3A 1O 4A 3O 2A 1O 1A 1O ",
    "2A 3O 2A 3O 3A 3O cA 4O 5E 3O 3E 1O 4E 2O 1A 6O 1E eO aN gO 5E 8A 1O 3A 1O nA 1O gA 2O 1E 1A ",
    "7E 1O 3E 1O 4E 7O 2E 1O 3A 2O 1A 2O 2A 2E 2O aN gO 1A 3E 1O 8A 1O 3A 1O nA 1O aA 1O 5A 2O 1E ",
    "1A 7E 1O 3E 1O 4E 7O 2E 6O 2A 1O 2A 2E 2O aN 1O 2A 1E cO 4E 9A 1O 3A 1O 15A 2E 1A 7E 1O 3E 1O ",
    "4E 1A 5O 3A 1E 7O 3A 2E 2O aN aO 6A 1O 3E 1O iA 3O oA 1O 9A 1O 1A 2O 7A 3O 1E 4O 6E 1O 1E 1O ",
    "8E 6O aN 2O 2E 1pO 1E 2O 7E cO 8E 1O aN 2fO 1E 2O 9E bO 7E 1O aN 12O 1A nO 2E 6O aN bO 1E 1O ",
    "1E 1O 1E 4O 2E 8A 1O 10A 4O kE 1O 2E 5A bE 1O 10E 9O 1E 2sO kE 1O aN cO 4E 4O 3E 1O 3E 2O 7E ",
    "3O 4E dO cE 1O 1E aN 4E 2O 12A 1O 1A 5O 1A 2O 17A 1O 99A 1O 4A 2O 7A 1O 1A 1O 4A 2O 15A 1O 4A ",
    "2O xA 1O 4A 2O 7A 1O 1A 1O 4A 2O fA 1O 1lA 1O 4A 2O 1vA 2O 3E wO gA gO 2eA 2O 6A 3O h8A 2O hA ",
    "1W qA 5O 23A 3O bA 7O iA 4E 9O jA 3E bO iA 2E cO dA 1O 3A 1O 2E 1sO wE 9O 1E 2O aN xO 3E 1F ",
    "1E aN 6O 2hA 7O 5A 2E yA 1E 1A 5O 1yA aO vA 1O cE 4O cE aO aN 3kO aN 12O nA 5E 1lO aE 1O tE ",
    "2O 1E aN 6O aN mO vE 1dO 5E 1bA hE 8A 3O aN hO 9E cO 3E uA dE 2A aN 18A eE cO 10A kE 8O aN 3O ",
    "3A aN 10A 2O bA 5O 17A 2O 3A gO 3E 1O lE 4A 1E 6A 1E 2A 3E 1A 5O 5cA 1sE 7qA 2O 6A 2O 12A 2O ",
    "6A 2O 8A 1O 1A 1O 1A 1O 1A 1O vA 2O 1hA 1O 7A 1O 1A 3O 3A 1O 7A 3O 4A 2O 6A 4O dA 5O 3A 1O 7A ",
    "3O 7W 1O 3W 1O 1E 1Z 2F 8O 2B aO 1B 2O 1L 2Y 5F 1U fO 2U 3O 1M fO 1U aO 1W 5F 1O aF 1O 1A dO ",
    "1A gO dA 1fO xE hO 1A 4O 1A 2O aA 1O 1A 3O 5A 6O 1A 1O 1A 1O 1A 1O 4A 1O bA 2O 4A 5O 5A 4O 1A ",
    "hO 15A mlO 1gA 1eeO 6dA 6O 4A 3E 2A cO 12A 1O 1A 5O 1A 2O 1kA 7O 1A fO 1E nA 9O 7A 1O 7A 1O ",
    "7A 1O 7A 1O 7A 1O 7A 1O 7A 1O 7A 1O wE 1bO 1A cwO 1W 4O 1A 10O 6E 1O 5K 5O 2A 2kO 2E 2K 3O ",
    "2jK 1O 4K 5O 17A 1O 2mA hO wA 1cO gK 5sO 1bK 1O 2gK lgoO wdA 1vO 1aA 2O 7hA 3O gA aN 2A kO ",
    "1bA 4E 1O aE 1O vA 2E 28A 2E mO 5iA 2O 2A 1O 1A 1O 8A lO gA 1E 3A 1E 4A 1E nA 5E 4O 1E jO 1gA ",
    "cO 2E 1eA iE aO aN 6O iE 6A 3O 1A 1O 2A 1E aN sA 8E 2O nA dE cO tA 3O 4E 1bA eE eO 1A aN bO ",
    "1E aO aN 6O 15A eE 9O 3A 1E 8A 2E 2O aN xO 3E 1eO 1E 1O 3E 2O 2E 5O 2E 1O 1E uO bA 5E 2O 3A ",
    "2E aO 6A 2O 6A 2O 6A 9O 7A 1O 7A 1O 1mA 6O 37A 8E 1O 2E 2O aN 6O 8mcA cO nA 4O 1dA 6x0O 7A cO ",
    "5A 5O 1H 1E aH 1O dH 1O 5H 1O 1H 1O 2H 1O 2H 1O aH 2qA xO a3A iO 1sA 2O 1iA 14O cA 4O gE 1M ",
    "2O 1L 1M bO gE 3O 2U oO 3U 1M 1O 1B 1O 1M 1L qO 5A 1O 3rA 2O 1F 7O 1B 4O 1M 1O 1B 1O aN 1L 1M ",
    "5O qA 4O 1U 1O qA bO 1kK 2E vA 3O 6A 2O 6A 2O 6A 2O 3A sO 3F 4O cA 1O qA 1O jA 1O 2A 1O fA 2O ",
    "eA yO 3fA 1xO 1hA 3sO 1E 3mO tA 3O 1dA fO 1E vO wA dO uA 5O 12A 5E 5O uA 2O 10A 4O 8A 1O 5A ",
    "16O 4eA 2O aN 6O 10A 4O 10A 4O 14A 8O 1gA cO bA 1O fA 1O 7A 1O 2A 1O bA 1O fA 1O 7A 1O 2A 3O ",
    "1gA cO 8nA 9O mA aO 8A oO 6A 1O 16A 1O 9A 1xO 6A 2O 1A 1O 18A 1O 2A 3O 1A 2O nA aO nA 9O vA ",
    "1tO jA 1O 2A aO mA aO qA 1yO 1kA 6O 2A 1sO 1A 3E 1O 2E 5O 4E 4A 1O 3A 1O tA 2O 3E 4O 1E wO tA ",
    "3O tA zO 8A 1O sA 2E pO 1iA aO mA aO jA dO iA 32O 21A 1jO 1fA dO 1fA dO 10A 4E 8O aN 6O aN sA ",
    "3O 5E 1O nA 6yO 16A 1O 2E 3O 2A gO 3A 1jO 4E tA aO 1A 8O mA bE vO iA 4E 16O lA rO nA 9O 3E ",
    "1hA fE vO aN 1E 2A 2E 1A 9O 4E 19A bE 2O 1F 4O 1E aO 1F 2O pA 7O aN 6O 3E 10A eE 1O aN 4O 1A ",
    "2E 1A 8O zA 1E 2O 1A 9O 3E 1cA eE 4A 4O 4E 1O 2E aN 1A 1O 1A zO iA 1O pA cE 6O 1E 2A 1E 1qO ",
    "7A 1O 1A 1O 4A 1O fA 1O aA 7O 1bA cE 5O aN 6O 4E 1O 8A 2O 2A 2O mA 1O 7A 1O 2A 1O 5A 1O 2E 1A ",
    "7E 2O 2E 2O 3E 2O 1A 6O 1E 5O 5A 2E 2O 7E 3O 5E bO aA 1O 1A 2O 1A 1O 12A 1O 1A 9E 1O 1E 2O 1E ",
    "1O 4E 1O 5E 1A 1E 1A dO 2E tO 1hA iE 4A 5O aN 4O 1E 3A uO 1cA kE 2A 1O 1A 8O aN 4mO 1bA 7E 2O ",
    "9E nO 4A 2E yO 1cA hE 3O 1A bO aN 12O 17A dE 1A 7O aN 6O kN 1lO fE 4O aN 5iO 18A fE 2tO 1sA ",
    "aN lO 8A 2O 1A 2O 8A 1O 2A 1O oA 6E 1O 2E 2O 4E 1A 1E 1A 2E cO aN 1yO 8A 2O 13A 7E 2O 7E 1A ",
    "1O 1A 1E rO 1A aE 14A 7E 1A 4E 8O 1E 8O 1A bE 1aA gE 3O 1A iO 21A 5jO xA fO aN 6O 9A 1O 11A ",
    "8E 1O 8E 1A fO aN oO uA 2O mE 1O eE 21O 7A 1O 2A 1O 12A 6E 3O 1E 1O 2E 1O 7E 1A 1E 8O aN 6O ",
    "6A 1O 2A 1O wA 5E 1O 2E 1O 5E 1A 7O aN 8mO jA 4E 9O 2E 1A 1E dA 1O yA 7E 3O 5E dO aN 1E 2dO ",
    "1A 27O pmA 2uO 33A hO 5gA 218O 2pA fO tsA gF 1E 6A fE aO 32zA 5O g7A 5a1O uA iE aN 1c6O ftA ",
    "7O vA 1O aN 6O 27A 1O aN 6O uA 2O 5E bO 1cA 7E 9O 4A cO aN 9O lA 5O jA c0O 19A 3O aN 5iO 1sA ",
    "3kO 23A 4O 1E 1A 1jE 7O 4E dA 1sO 2A 1O 1A 1E bO 2E cn2O 4K 1O 7K 1O 2K 1O 1K 7zO 3K 1eO 1K ",
    "eO 4K 23cO 2zA 5O dA 3O 9A 7O aA 3O 2E 1O 4F 37wO aN eeO 1aE 2O nE f2O 5E 3O 6E 8F 8E 2O 7E ",
    "uO 4E 44O 3E cbO 2dA 1O 1zA 1O 2A 2O 1A 2O 2A 2O 4A 1O cA 1O 1A 1O 7A 1O 1tA 1O 4A 2O 8A 1O ",
    "7A 1O sA 1O 4A 1O 5A 1O 1A 3O 7A 1O 9gA 2O pA 1O pA 1O vA 1O pA 1O vA 1O pA 1O vA 1O pA 1O vA ",
    "1O pA 1O 8A 2O 1eN e8O 1jE 4O 1eE 8O 1E eO 1E mO 5E 1O fE uoO vA 6O 6A 5xO 7E 1O hE 2O 7E 1O ",
    "2E 1O 5E 5O 1qA xO 1E 34O 19A 3O 7E 7A 2O aN 4O 1A 8xO uA 1E hO 18A 4E aN d2O sA 4E aN 5yO uA ",
    "2E 1A aN dhO 7A 1O 4A 1O 2A 1O fA 1O 5hA bO 7E 15O 1wA 7E 1A 4O aN x2O 4A 1O rA 1O 2A 1O 1A ",
    "2O 1A 1O aA 1O 4A 1O 1A 1O 1A 6O 1A 4O 1A 1O 1A 1O 1A 1O 3A 1O 2A 1O 1A 2O 1A 1O 1A 1O 1A 1O ",
    "1A 1O 1A 1O 2A 1O 1A 2O 4A 1O 7A 1O 4A 1O 4A 1O 1A 1O aA 1O hA 5O 3A 1O 5A 1O hA hgO qA 6O qA ",
    "6O qA 2kO qR e3O 5E 1kgO aN gvlzO 1F uO 2oE 3kO 6oE 47bkO"]

def ofChar (c : Char) : WordBreak :=
  if c.isAlpha then letter
  else if c.isDigit then digit
  else if c = ' ' then blank
  else runs.get c other

end WordBreak

end Cardfile
