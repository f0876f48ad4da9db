import Cardfile.Calendar.Reading
import Cardfile.Kind
import Cardfile.Text.Quoted

/-! # Errors

Why an operation fails. Each cause belongs to a kind of error and has a text.
-/

namespace Cardfile

abbrev Key := String

inductive ErrorKind
  | io | parse | notFound | invalidInput | invalidState | configuration | indexMapping
  | unknownKey | deadlock | serializationFailure
  deriving DecidableEq

def ErrorKind.name : ErrorKind → String
  | io => "Io"
  | parse => "Parse"
  | notFound => "NotFound"
  | invalidInput => "InvalidInput"
  | invalidState => "InvalidState"
  | configuration => "Configuration"
  | indexMapping => "IndexMapping"
  | unknownKey => "UnknownKey"
  | deadlock => "Deadlock"
  | serializationFailure => "SerializationFailure"

/-- Why two transactions do not go together. -/
inductive Clash
  | changedSinceRead (key : Key)
  | changedSinceStart (key : Key)
  | onKey (transaction : Nat) (key : Key)
  | onSearch (transaction : Nat) (key : Option Key)
  deriving DecidableEq

inductive Error
  | missingFile
  | malformedJson
  | badTime (fault : Calendar.Fault)
  | badPattern
  | unknownRuleBase (name : String)
  | unreadableRuleBase (path : String)
  | malformedRuleBase
  | unknownRuleKind (name : String)
  | unknownRule (name : String)
  | misplacedRule (name : String) (kind : Kind)
  | unknownLanguage (name : String)
  | modelProblems (problems : List String)
  | definedType (name : String)
  | noEnumeration (name : String)
  | noHierarchy (name : String)
  | closedEnumeration (value : String)
  | closedHierarchy (path : List String)
  | openEnumeration
  | openHierarchy
  | pathLength (path : List String) (levels : Nat)
  | noMapping (recordType : String)
  | absentField (field recordType : String)
  | unknownKey (key : Key)
  | settingsFixed
  | ungrouped
  | alreadyActive
  | noTransaction
  | clearWhileActive
  | ended (transaction : Nat) (state : String)
  | lockTimeout (waiter : Nat) (key : Key) (holder : Nat)
  | clash (cause : Clash)
  deriving DecidableEq

namespace Error

def kind : Error → ErrorKind
  | missingFile => .io
  | malformedJson => .parse
  | badTime _ => .parse
  | badPattern => .invalidInput
  | unknownRuleBase _ => .configuration
  | unreadableRuleBase _ => .configuration
  | malformedRuleBase => .configuration
  | unknownRuleKind _ => .configuration
  | unknownRule _ => .configuration
  | misplacedRule _ _ => .configuration
  | unknownLanguage _ => .configuration
  | modelProblems _ => .configuration
  | definedType _ => .invalidInput
  | noEnumeration _ => .notFound
  | noHierarchy _ => .notFound
  | closedEnumeration _ => .invalidState
  | closedHierarchy _ => .invalidState
  | openEnumeration => .invalidState
  | openHierarchy => .invalidState
  | pathLength _ _ => .invalidInput
  | noMapping _ => .indexMapping
  | absentField _ _ => .indexMapping
  | unknownKey _ => .unknownKey
  | settingsFixed => .invalidState
  | ungrouped => .invalidState
  | alreadyActive => .invalidState
  | noTransaction => .invalidState
  | clearWhileActive => .invalidState
  | ended _ _ => .invalidState
  | lockTimeout _ _ _ => .deadlock
  | clash _ => .serializationFailure

def fileText : String := "No such file or directory (os error 2)"

/-- What is said of every pattern that cannot be compiled. -/
def patternText : String := "<regex error>"

end Error

def Clash.text : Clash → String
  | changedSinceRead key =>
    Text.quote key ++ " was committed by another transaction after this one read it"
  | changedSinceStart key =>
    Text.quote key ++ " was committed by another transaction after this one started"
  | onKey transaction key =>
    "Transaction " ++ toString transaction ++ " conflicts with a concurrent commit on " ++
      Text.quote key
  | onSearch transaction key =>
    "Transaction " ++ toString transaction ++
      " conflicts with a concurrent commit on search results (" ++ (key.map Text.quote).getD "" ++
      ")"

namespace Error

def text : Error → String
  | missingFile => fileText
  | malformedJson => "JSON error"
  | badTime fault => "Invalid date/time: " ++ fault.message
  | badPattern => "Invalid pattern: " ++ patternText
  | unknownRuleBase name => "Unknown rule base: " ++ name
  | unreadableRuleBase path => "Rule base " ++ path ++ " cannot be read: " ++ fileText
  | malformedRuleBase => "Rule base does not parse"
  | unknownRuleKind name => "Unknown declaration kind in rule base: " ++ name
  | unknownRule name => "Unknown rule: " ++ name
  | misplacedRule name kind =>
    "Rule " ++ name ++ " cannot apply to " ++ kind.name ++ " declarations"
  | unknownLanguage name => "No stemmer for language '" ++ name ++ "'"
  | modelProblems problems =>
    "Model has " ++ toString problems.length ++ " problem(s): " ++ String.intercalate "; " problems
  | definedType name => "Type " ++ name ++ " is already defined"
  | noEnumeration name => "No enumeration named " ++ name
  | noHierarchy name => "No hierarchy named " ++ name
  | closedEnumeration value => "Cannot add " ++ value ++ " to a finalized enumeration"
  | closedHierarchy path =>
    "Cannot add " ++ String.intercalate "/" path ++ " to a finalized hierarchy"
  | openEnumeration => "Enumeration is not finalized; its values are open"
  | openHierarchy => "Hierarchy is not finalized; its values are open"
  | pathLength path levels =>
    "Path " ++ String.intercalate "/" path ++ " must have between 1 and " ++ toString levels ++
      " labels"
  | noMapping recordType => "No index mapping for record type '" ++ recordType ++ "'"
  | absentField field recordType =>
    "Mapped field '" ++ field ++ "' not found on record of type '" ++ recordType ++ "'"
  | unknownKey key => "Key " ++ Text.quote key ++ " is not in the index"
  | settingsFixed => "Analysis settings can only change before records are indexed"
  | ungrouped => "Transactional mode is None: operations auto-commit and cannot be grouped"
  | alreadyActive => "A transaction is already active on this thread"
  | noTransaction => "No transaction is active on this thread"
  | clearWhileActive => "Cannot clear while transactions are active"
  | ended transaction state =>
    "Transaction " ++ toString transaction ++ " is not active (" ++ state ++ ")"
  | lockTimeout waiter key holder =>
    "Transaction " ++ toString waiter ++ " timed out waiting for " ++ Text.quote key ++
      " held by transaction " ++ toString holder
  | clash cause => cause.text

def message (e : Error) : String := e.kind.name ++ ": " ++ e.text

end Error

end Cardfile
