import Cardfile.Text.Letter

/-! # Snake case

A name is cut into words at everything that is neither letter nor number, before a capital that
follows a small letter, and before the last capital of a run that a small letter follows. The
words are written small with underscores between them.
-/

namespace Cardfile.Text

/-- The maximal stretches of letters and numbers. -/
def alphanumericRuns : List Char → List (List Char)
  | [] => [[]]
  | c :: cs =>
    if isAlphanumeric c then
      match alphanumericRuns cs with
      | [] => [[c]]
      | run :: runs => (c :: run) :: runs
    else [] :: alphanumericRuns cs

/-- The case of the characters since the last cut. -/
inductive CaseMode
  | start | small | capital
  deriving DecidableEq

def CaseMode.next (mode : CaseMode) (c : Char) : CaseMode :=
  if isLowercase c then .small else if isUppercase c then .capital else mode

/-- Cuts a stretch into words; `word` holds the current one, last character first. -/
def cutWords (mode : CaseMode) (word : List Char) : List Char → List (List Char)
  | [] => []
  | [c] => [(c :: word).reverse]
  | c :: d :: rest =>
    if mode.next c = .small && isUppercase d then
      (c :: word).reverse :: cutWords .start [] (d :: rest)
    else if mode = .capital && isUppercase c && isLowercase d then
      word.reverse :: cutWords .start [c] (d :: rest)
    else cutWords (mode.next c) (c :: word) (d :: rest)

/-- A capital sigma at the end of a word is final. -/
def smallWord : List Char → List Char
  | [] => []
  | [c] => if c = 'Σ' then ['ς'] else Case.lowercase c
  | c :: cs => Case.lowercase c ++ smallWord cs

def snakeCase (s : String) : String :=
  let words := (alphanumericRuns s.toList).flatMap (cutWords .start [])
  String.intercalate "_" (words.map fun w => String.ofList (smallWord w))

end Cardfile.Text
