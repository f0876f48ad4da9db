import Cardfile.Pattern.Expr
import Cardfile.Text.Blank
import Cardfile.Unicode.Case
import Cardfile.Unicode.Category
import Cardfile.Unicode.Property
import Cardfile.Unicode.Script

/-! # Sets of characters

A set of characters is a test with an estimate of how many states a matcher spends on it. The
named sets are properties, general categories and scripts; their names are compared without
regard to case, blanks, minus signs and underscores.
-/

namespace Cardfile.Pattern

structure CharSet where
  contains : Char → Bool
  cost : Nat

namespace CharSet

def none : CharSet := ⟨fun _ => false, 1⟩

def single (c : Char) : CharSet := ⟨(· == c), c.utf8Size⟩

def range (a b : Char) : CharSet := ⟨fun c => a ≤ c && c ≤ b, 2 * b.utf8Size - 1⟩

def union (s t : CharSet) : CharSet := ⟨fun c => s.contains c || t.contains c, s.cost + t.cost⟩

def complement (s : CharSet) : CharSet := ⟨fun c => !s.contains c, s.cost + 10⟩

def combine (op : SetOperation) (s t : CharSet) : CharSet :=
  match op with
  | .both => ⟨fun c => s.contains c && t.contains c, s.cost + t.cost⟩
  | .without => ⟨fun c => s.contains c && !t.contains c, s.cost + t.cost⟩
  | .either => ⟨fun c => s.contains c != t.contains c, s.cost + t.cost⟩

/-- The letters of ASCII in the other case. -/
def asciiVariants (c : Char) : List Char := [c, c.toLower, c.toUpper]

/-- Adds the characters that differ from a member in case only. -/
def folded (unicode : Bool) (s : CharSet) : CharSet :=
  let variants := if unicode then Case.variants else asciiVariants
  ⟨fun c => (variants c).any s.contains, 2 * s.cost⟩

def ofCodes (s : CodeSet) : CharSet := ⟨s.contains, s.changes.size⟩

def ofCategories (p : Category → Bool) : CharSet := ⟨fun c => p (Category.ofChar c), 300⟩

def ascii (p : Char → Bool) : CharSet := ⟨fun c => c.toNat < 128 && p c, 1⟩

def isAsciiWord (c : Char) : Bool := c.isAlphanum || c = '_'

def isWord (c : Char) : Bool :=
  if c.toNat < 128 then isAsciiWord c
  else
    let category := Category.ofChar c
    Property.alphabetic.contains c || category.group = 'M' || category = ⟨'N', 'd'⟩ ||
      category = ⟨'P', 'c'⟩ || Property.joinControl.contains c

def ofShorthand (unicode : Bool) : Shorthand → CharSet
  | .digit => if unicode then ⟨fun c => Category.ofChar c = ⟨'N', 'd'⟩, 120⟩ else ascii Char.isDigit
  | .space => if unicode then ⟨Text.isBlank, 8⟩ else ascii Text.isBlank
  | .word => if unicode then ⟨isWord, 1400⟩ else ascii isAsciiWord

def isAsciiGraph (c : Char) : Bool := 33 ≤ c.toNat && c.toNat ≤ 126

def ofAsciiClass : AsciiClass → CharSet
  | .alnum => ascii Char.isAlphanum
  | .alpha => ascii Char.isAlpha
  | .ascii => ascii fun _ => true
  | .blank => ascii fun c => c = ' ' || c = '\t'
  | .cntrl => ascii fun c => c.toNat < 32 || c.toNat = 127
  | .digit => ascii Char.isDigit
  | .graph => ascii isAsciiGraph
  | .lower => ascii Char.isLower
  | .print => ascii fun c => c = ' ' || isAsciiGraph c
  | .punct => ascii fun c => isAsciiGraph c && !c.isAlphanum
  | .space => ascii Text.isBlank
  | .upper => ascii Char.isUpper
  | .word => ascii isAsciiWord
  | .xdigit => ascii fun c => c.isDigit || ('a' ≤ c.toLower && c.toLower ≤ 'f')

end CharSet

/-! ## Names of properties -/

def isPrefixed : List Char → Bool
  | 'i' :: 's' :: _ => true
  | 'I' :: 's' :: _ => true
  | 'i' :: 'S' :: _ => true
  | 'I' :: 'S' :: _ => true
  | _ => false

/-- A name in the form in which names are compared. A leading `is` does not count, unless the
name would be a lone `c` without it. -/
def plainName (name : List Char) : String :=
  let kept (cs : List Char) :=
    (cs.filter fun c => c ≠ ' ' && c ≠ '_' && c ≠ '-' && c.toNat < 128).map Char.toLower
  if isPrefixed name then
    let rest := kept (name.drop 2)
    String.ofList (if rest = ['c'] then ['i', 's', 'c'] else rest)
  else String.ofList (kept name)

def plainNameOf (s : String) : String := plainName s.toList

/-- Categories by name and short name; a short name of one letter stands for a group. -/
def categoryNames : List (String × String) := [
  ("l", "letter"), ("lu", "uppercaseletter"), ("ll", "lowercaseletter"),
  ("lt", "titlecaseletter"), ("lm", "modifierletter"), ("lo", "otherletter"),
  ("m", "mark"), ("m", "combiningmark"), ("mn", "nonspacingmark"), ("mc", "spacingmark"),
  ("me", "enclosingmark"), ("n", "number"), ("nd", "decimalnumber"), ("nd", "digit"),
  ("nl", "letternumber"), ("no", "othernumber"), ("p", "punctuation"), ("p", "punct"),
  ("pc", "connectorpunctuation"), ("pd", "dashpunctuation"), ("ps", "openpunctuation"),
  ("pe", "closepunctuation"), ("pi", "initialpunctuation"), ("pf", "finalpunctuation"),
  ("po", "otherpunctuation"), ("s", "symbol"), ("sm", "mathsymbol"), ("sc", "currencysymbol"),
  ("sk", "modifiersymbol"), ("so", "othersymbol"), ("z", "separator"),
  ("zs", "spaceseparator"), ("zl", "lineseparator"), ("zp", "paragraphseparator"),
  ("c", "other"), ("cc", "control"), ("cc", "cntrl"), ("cf", "format"), ("cs", "surrogate"),
  ("co", "privateuse"), ("cn", "unassigned")]

def isCased (category : Category) : Bool :=
  category = ⟨'L', 'u'⟩ || category = ⟨'L', 'l'⟩ || category = ⟨'L', 't'⟩

def categoryOfShort (short : String) : CharSet :=
  match short.toList with
  | [group] => .ofCategories fun category => category.group = group.toUpper
  | [group, kind] => .ofCategories fun category => category = ⟨group.toUpper, kind⟩
  | _ => .none

def categorySet? (name : String) : Option CharSet :=
  match name with
  | "any" => some ⟨fun _ => true, 10⟩
  | "assigned" => some (.ofCategories fun category => category ≠ ⟨'C', 'n'⟩)
  | "ascii" => some (.ascii fun _ => true)
  | "lc" => some (.ofCategories isCased)
  | "casedletter" => some (.ofCategories isCased)
  | _ =>
    (categoryNames.find? fun p => p.1 = name || p.2 = name).map fun p => categoryOfShort p.1

def scriptCode? (name : String) : Option String :=
  match name with
  | "qaai" => some "Zinh"
  | "qaac" => some "Copt"
  | _ =>
    (Script.names.find? fun p => plainNameOf p.1 = name || plainNameOf p.2 = name).map Prod.fst

def scriptSet? (name : String) : Option CharSet :=
  (scriptCode? name).map fun code => ⟨fun c => Script.code c = code, 50⟩

def extensionSet? (name : String) : Option CharSet :=
  (scriptCode? name).map fun code => ⟨fun c => (Script.extensions c).contains code, 50⟩

def propertySet? (name : String) : Option CharSet :=
  (Property.all.find? fun p => plainNameOf p.1 = name || plainNameOf p.2.1 = name).map
    fun p => .ofCodes p.2.2

/-- A name of its own is looked for among the properties, the categories and the scripts. -/
def Query.set? : Query → Option CharSet
  | .named text =>
    let name := plainName text
    -- these abbreviate categories rather than properties
    let properties :=
      if name = "cf" || name = "sc" || name = "lc" then none else propertySet? name
    (properties.or (categorySet? name)).or (scriptSet? name)
  | .valued text value =>
    match plainName text with
    | "gc" => categorySet? (plainName value)
    | "generalcategory" => categorySet? (plainName value)
    | "sc" => scriptSet? (plainName value)
    | "script" => scriptSet? (plainName value)
    | "scx" => extensionSet? (plainName value)
    | "scriptextensions" => extensionSet? (plainName value)
    | _ => none

end Cardfile.Pattern
