/-! # Kinds

The kinds of declarations, and the small vocabularies that declarations use: basic types,
collections and measures.
-/

namespace Cardfile

inductive Kind
  | decimal | integerRange | realRange | stringPattern | dateRange | timeRange
  | enumeration | hierarchy | component | entity | dimension | fact | view
  deriving DecidableEq

namespace Kind

def all : List Kind := [
  decimal, integerRange, realRange, stringPattern, dateRange, timeRange, enumeration, hierarchy,
  component, entity, dimension, fact, view]

def name : Kind → String
  | decimal => "decimal"
  | integerRange => "integer_range"
  | realRange => "real_range"
  | stringPattern => "string_pattern"
  | dateRange => "date_range"
  | timeRange => "time_range"
  | enumeration => "enumeration"
  | hierarchy => "hierarchy"
  | component => "component"
  | entity => "entity"
  | dimension => "dimension"
  | fact => "fact"
  | view => "view"

def ofName? (name : String) : Option Kind := all.find? (·.name = name)

/-- Types that restrict a basic one. -/
def restricted : List Kind :=
  [decimal, integerRange, realRange, stringPattern, dateRange, timeRange]

/-- Types with fields. -/
def componentFamily : List Kind := [component, entity, dimension, fact, view]

def isComponent (kind : Kind) : Bool := componentFamily.contains kind

end Kind

/-- The basic types. -/
inductive Host
  | int | long | float | double | decimal | text | boolean | date | time | timestamp | binary
  deriving DecidableEq

namespace Host

def all : List Host :=
  [int, long, float, double, decimal, text, boolean, date, time, timestamp, binary]

def name : Host → String
  | int => "int"
  | long => "long"
  | float => "float"
  | double => "double"
  | decimal => "decimal"
  | text => "string"
  | boolean => "boolean"
  | date => "date"
  | time => "time"
  | timestamp => "timestamp"
  | binary => "binary"

def aliases : Host → List String
  | int => ["integer"]
  | text => ["text", "str"]
  | boolean => ["bool"]
  | timestamp => ["datetime"]
  | binary => ["bytes", "blob"]
  | _ => []

def ofName? (name : String) : Option Host :=
  all.find? fun host => host.name = name || host.aliases.contains name

end Host

/-- The basic type behind the values of a kind. -/
def Kind.host? : Kind → Option Host
  | decimal => some .decimal
  | integerRange => some .long
  | realRange => some .double
  | stringPattern => some .text
  | enumeration => some .text
  | hierarchy => some .text
  | dateRange => some .date
  | timeRange => some .time
  | _ => none

inductive CollectionKind
  | set | list | bag | map
  deriving DecidableEq

namespace CollectionKind

def all : List CollectionKind := [set, list, bag, map]

def name : CollectionKind → String
  | set => "set"
  | list => "list"
  | bag => "bag"
  | map => "map"

def ofName? (name : String) : Option CollectionKind := all.find? (·.name = name)

end CollectionKind

/-- How a fact aggregates a field. -/
inductive Measure
  | sum | avg | min | max | count
  deriving DecidableEq

namespace Measure

def all : List Measure := [sum, avg, min, max, count]

def name : Measure → String
  | sum => "sum"
  | avg => "avg"
  | min => "min"
  | max => "max"
  | count => "count"

def ofName? (name : String) : Option Measure := all.find? (·.name = name)

end Measure

end Cardfile
