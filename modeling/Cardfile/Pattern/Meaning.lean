import Cardfile.Pattern.Match
import Cardfile.Pattern.Reading

/-! # The meaning of pattern expressions

The flags that hold where a part stands decide what it matches. Without the flag for Unicode, only
ASCII characters can be named and nothing can be negated.
-/

namespace Cardfile.Pattern

/-- The flags that change what is matched. -/
structure Flags where
  ignoreCase : Bool
  multiLine : Bool
  dotAll : Bool
  unicode : Bool
  lineFeeds : Bool

def Flags.start : Flags := ⟨false, false, false, true, false⟩

def Flags.change (flags : Flags) (change : Flag × Bool) : Flags :=
  match change.1 with
  | .ignoreCase => { flags with ignoreCase := change.2 }
  | .multiLine => { flags with multiLine := change.2 }
  | .dotAll => { flags with dotAll := change.2 }
  | .unicode => { flags with unicode := change.2 }
  | .lineFeeds => { flags with lineFeeds := change.2 }
  | .swapGreed => flags
  | .verbose => flags

def Flags.changeAll (flags : Flags) (changes : FlagChanges) : Flags :=
  changes.foldl Flags.change flags

def Flags.fold (flags : Flags) (s : CharSet) : CharSet :=
  if flags.ignoreCase then s.folded flags.unicode else s

def Flags.negate? (flags : Flags) (negated : Bool) (s : CharSet) : Option CharSet :=
  if !negated then some s else if flags.unicode then some s.complement else none

/-! ## Conditions -/

def isWordAt (unicode : Bool) : Option Char → Bool
  | none => false
  | some c => if unicode then CharSet.isWord c else CharSet.isAsciiWord c

def atTextStart : Condition := fun before _ => before.isNone

def atTextEnd : Condition := fun _ after => after.isNone

/-- After a line end; between a carriage return and a line feed no line starts. -/
def atLineStart (lineFeeds : Bool) : Condition := fun before after =>
  before.isNone || before = some '\n' ||
    (lineFeeds && before = some '\r' && after ≠ some '\n')

def atLineEnd (lineFeeds : Bool) : Condition := fun before after =>
  if lineFeeds then
    after.isNone || after = some '\r' || (after = some '\n' && before ≠ some '\r')
  else after.isNone || after = some '\n'

def Assertion.condition (flags : Flags) : Assertion → Condition
  | .lineStart => if flags.multiLine then atLineStart flags.lineFeeds else atTextStart
  | .lineEnd => if flags.multiLine then atLineEnd flags.lineFeeds else atTextEnd
  | .textStart => atTextStart
  | .textEnd => atTextEnd
  | .boundary => fun a b => isWordAt flags.unicode a != isWordAt flags.unicode b
  | .noBoundary => fun a b => isWordAt flags.unicode a == isWordAt flags.unicode b
  | .wordStart => fun a b => !isWordAt flags.unicode a && isWordAt flags.unicode b
  | .wordEnd => fun a b => isWordAt flags.unicode a && !isWordAt flags.unicode b
  | .wordStartHalf => fun a _ => !isWordAt flags.unicode a
  | .wordEndHalf => fun _ b => !isWordAt flags.unicode b

/-! ## Classes -/

/-- Without the flag for Unicode a letter in a class is an ASCII character. -/
def Letter.inClass? (flags : Flags) (l : Letter) : Option Char :=
  if flags.unicode || l.char.toNat < 128 then some l.char else none

/-- Outside of classes only a byte can fail to be a character. -/
def Letter.set? (flags : Flags) (l : Letter) : Option CharSet :=
  if !flags.unicode && l.isByte && 128 ≤ l.char.toNat then none
  else some (flags.fold (.single l.char))

def shorthandSet? (flags : Flags) (kind : Shorthand) (negated : Bool) : Option CharSet :=
  flags.negate? negated (.ofShorthand flags.unicode kind)

def propertySetOf? (flags : Flags) (query : Query) (negated : Bool) : Option CharSet := do
  let s ← if flags.unicode then query.set? else none
  flags.negate? negated (flags.fold s)

mutual

def ClassExpr.set? (flags : Flags) : ClassExpr → Option CharSet
  | .letter l => (l.inClass? flags).map .single
  | .range a b => do pure (.range (← a.inClass? flags) (← b.inClass? flags))
  | .shorthand kind negated => shorthandSet? flags kind negated
  | .property query negated => propertySetOf? flags query negated
  | .ascii kind negated => flags.negate? negated (flags.fold (.ofAsciiClass kind))
  | .bracket negated body => do flags.negate? negated (flags.fold (← body.set? flags))
  | .union items => ClassExpr.unionSet? flags items
  | .combine op left right => do
    pure (.combine op (flags.fold (← left.set? flags)) (flags.fold (← right.set? flags)))

def ClassExpr.unionSet? (flags : Flags) : List ClassExpr → Option CharSet
  | [] => some .none
  | e :: rest => do pure ((← e.set? flags).union (← ClassExpr.unionSet? flags rest))

end

/-- A point matches any character but the ends of lines. -/
def dotSet? (flags : Flags) : Option CharSet :=
  if !flags.unicode then none
  else if flags.dotAll then some ⟨fun _ => true, 10⟩
  else if flags.lineFeeds then some ⟨fun c => c ≠ '\n' && c ≠ '\r', 10⟩
  else some ⟨(· != '\n'), 10⟩

/-! ## Expressions -/

/-- A group that keeps what it matches marks where that starts and where it ends. -/
def Capture.pattern (capture : Capture) (p : Pattern) : Pattern :=
  match capture with
  | .none => p
  | _ =>
    let mark : Pattern := .condition fun _ _ => true
    .sequence mark (.sequence p mark)

mutual

/-- The pattern of an expression and the flags that hold after it. -/
def Expr.meaning? (flags : Flags) : Expr → Option (Pattern × Flags)
  | .letter l => (l.set? flags).map fun s => (.set s, flags)
  | .dot => (dotSet? flags).map fun s => (.set s, flags)
  | .assertion a => some (.condition (a.condition flags), flags)
  | .shorthand kind negated => (shorthandSet? flags kind negated).map fun s => (.set s, flags)
  | .property query negated => (propertySetOf? flags query negated).map fun s => (.set s, flags)
  | .bracket negated body => do
    let s ← flags.negate? negated (flags.fold (← body.set? flags))
    pure (.set s, flags)
  | .flags changes => some (.empty, flags.changeAll changes)
  | .group capture changes body => do
    let (p, _) ← body.meaning? (flags.changeAll changes)
    pure (capture.pattern p, flags)
  | .repetition least most body => do
    let (p, flags) ← body.meaning? flags
    pure (repeated least most p, flags)
  | .alternation branches => Expr.choiceMeaning? flags branches
  | .sequence items => Expr.sequenceMeaning? flags items

def Expr.sequenceMeaning? (flags : Flags) : List Expr → Option (Pattern × Flags)
  | [] => some (.empty, flags)
  | e :: rest => do
    let (p, flags) ← e.meaning? flags
    let (q, flags) ← Expr.sequenceMeaning? flags rest
    pure (.sequence p q, flags)

def Expr.choiceMeaning? (flags : Flags) : List Expr → Option (Pattern × Flags)
  | [] => some (.set .none, flags)
  | [e] => e.meaning? flags
  | e :: rest => do
    let (p, flags) ← e.meaning? flags
    let (q, flags) ← Expr.choiceMeaning? flags rest
    pure (.choice p q, flags)

end

/-- The pattern that a text writes, unless it is no pattern or too large a one. -/
def ofText? (text : String) : Option Pattern := do
  let (p, _) ← (← Expr.ofText? text.toList).meaning? .start
  if p.cost ≤ maxCost then some p else none

end Cardfile.Pattern
