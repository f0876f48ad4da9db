import Cardfile.Calendar.Reading
import Cardfile.Error
import Cardfile.Rule

/-! # Flaws

Why a declaration has no normal form, or has one that does not count.
-/

namespace Cardfile

inductive Flaw
  | nameless (kind : Kind)
  | missing (what : String)
  | badLength
  | notCount (what : String) (n : Int)
  | badBounds
  | badRange (text : String)
  | badDate (text : String) (fault : Calendar.Fault)
  | badTime (text : String) (fault : Calendar.Fault)
  | notNames (what : String)
  | notList (what : String)
  | notField
  | namelessField
  | unknownCollection (field kind : String)
  | keylessMap (field : String)
  | unknownMeasure (field measure : String)
  | namelessLabel
  | notLabel
  | badPattern
  | repeatedField (name : String)
  | untypedField (name : String)
  | violated (rule : Rule)
  | repeatedName (name : String)
  deriving DecidableEq

def Flaw.text : Flaw → String
  | nameless kind => kind.name ++ " declaration has no name"
  | missing what => "missing " ++ what
  | badLength => "max_length is not an integer"
  | notCount what n => what ++ " must be a non-negative integer, got " ++ toString n
  | badBounds => "bounds are not numbers"
  | badRange text => "bad range " ++ text
  | badDate text fault => "bad date " ++ text ++ ": " ++ fault.message
  | badTime text fault => "bad time " ++ text ++ ": " ++ fault.message
  | notNames what => what ++ " must be a list of names"
  | notList what => what ++ " must be a list"
  | notField => "fields must be field declarations"
  | namelessField => "field without a name"
  | unknownCollection field kind => "field " ++ field ++ ": unknown collection kind " ++ kind
  | keylessMap field => "field " ++ field ++ ": map without a key type"
  | unknownMeasure field measure => "field " ++ field ++ ": unknown measure " ++ measure
  | namelessLabel => "label node without a label"
  | notLabel => "labels must be names or label nodes"
  | badPattern => "pattern does not compile: " ++ Error.patternText
  | repeatedField name => "field " ++ name ++ " declared more than once"
  | untypedField name => "field " ++ name ++ " has no type"
  | violated rule => "violates " ++ rule.name
  | repeatedName name => "type name " ++ name ++ " is declared more than once"

end Cardfile
