/-! # Pattern expressions

A pattern as it is written, with its flags where they stand. Empty parts are sequences without
items.
-/

namespace Cardfile.Pattern

/-- A character; one given by two hexadecimal digits may also stand for a byte. -/
structure Letter where
  char : Char
  isByte : Bool

/-- The classes `\d`, `\s` and `\w`. -/
inductive Shorthand
  | digit | space | word

inductive Assertion
  | lineStart | lineEnd | textStart | textEnd | boundary | noBoundary
  | wordStart | wordEnd | wordStartHalf | wordEndHalf

/-- A question for a property of characters, by its name or by a name and a value. -/
inductive Query
  | named (name : List Char)
  | valued (name value : List Char)

inductive AsciiClass
  | alnum | alpha | ascii | blank | cntrl | digit | graph | lower | print | punct | space | upper
  | word | xdigit

inductive SetOperation
  | both | without | either

inductive ClassExpr
  | letter (l : Letter)
  | range (first last : Letter)
  | shorthand (kind : Shorthand) (negated : Bool)
  | property (query : Query) (negated : Bool)
  | ascii (kind : AsciiClass) (negated : Bool)
  | bracket (negated : Bool) (body : ClassExpr)
  | union (items : List ClassExpr)
  | combine (op : SetOperation) (left right : ClassExpr)

inductive Flag
  | ignoreCase | multiLine | dotAll | swapGreed | unicode | lineFeeds | verbose
  deriving DecidableEq

/-- Flags that are set or, after a minus sign, cleared. -/
abbrev FlagChanges := List (Flag × Bool)

/-- Whether a group keeps what it matches, by its number or by a name. -/
inductive Capture
  | none
  | numbered
  | named (name : List Char)

inductive Expr
  | letter (l : Letter)
  | dot
  | assertion (a : Assertion)
  | shorthand (kind : Shorthand) (negated : Bool)
  | property (query : Query) (negated : Bool)
  | bracket (negated : Bool) (body : ClassExpr)
  | flags (changes : FlagChanges)
  | group (capture : Capture) (changes : FlagChanges) (body : Expr)
  | repetition (least : Nat) (most : Option Nat) (body : Expr)
  | alternation (branches : List Expr)
  | sequence (items : List Expr)

def Capture.name? : Capture → Option (List Char)
  | .named name => some name
  | _ => .none

/-- One item stands for itself. -/
def Expr.ofItems : List Expr → Expr
  | [e] => e
  | items => .sequence items

def Expr.ofBranches : List Expr → Expr
  | [e] => e
  | branches => .alternation branches

def ClassExpr.ofItems : List ClassExpr → ClassExpr
  | [e] => e
  | items => .union items

/-- The flag's new value, if the changes touch it. -/
def FlagChanges.value? (changes : FlagChanges) (flag : Flag) : Option Bool :=
  (changes.find? (·.1 = flag)).map Prod.snd

mutual

/-- How deep brackets, unions and set operations stand inside each other. -/
def ClassExpr.depth : ClassExpr → Nat
  | .bracket _ body => body.depth + 1
  | .union items => if items.isEmpty then 0 else ClassExpr.maxDepth items + 1
  | .combine _ left right => max left.depth right.depth + 1
  | _ => 0

def ClassExpr.maxDepth : List ClassExpr → Nat
  | [] => 0
  | e :: rest => max e.depth (ClassExpr.maxDepth rest)

end

mutual

/-- How deep the parts of an expression stand inside each other. -/
def Expr.depth : Expr → Nat
  | .bracket _ body => body.depth + 1
  | .group _ _ body => body.depth + 1
  | .repetition _ _ body => body.depth + 1
  | .alternation branches => Expr.maxDepth branches + 1
  | .sequence items => if items.isEmpty then 0 else Expr.maxDepth items + 1
  | _ => 0

def Expr.maxDepth : List Expr → Nat
  | [] => 0
  | e :: rest => max e.depth (Expr.maxDepth rest)

end

mutual

/-- The names of the groups. -/
def Expr.groupNames : Expr → List (List Char)
  | .group capture _ body => capture.name?.toList ++ body.groupNames
  | .repetition _ _ body => body.groupNames
  | .alternation branches => Expr.allGroupNames branches
  | .sequence items => Expr.allGroupNames items
  | _ => []

def Expr.allGroupNames : List Expr → List (List Char)
  | [] => []
  | e :: rest => e.groupNames ++ Expr.allGroupNames rest

end

end Cardfile.Pattern
