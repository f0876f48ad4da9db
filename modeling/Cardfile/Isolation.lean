/-! # Isolation levels

How far a transaction is kept apart from the others, weakest level first.
-/

namespace Cardfile

inductive Isolation
  | none | readUncommitted | readCommitted | repeatableRead | serializable
  deriving DecidableEq

namespace Isolation

def all : List Isolation := [none, readUncommitted, readCommitted, repeatableRead, serializable]

def name : Isolation → String
  | none => "None"
  | readUncommitted => "ReadUncommitted"
  | readCommitted => "ReadCommitted"
  | repeatableRead => "RepeatableRead"
  | serializable => "Serializable"

def ofName? (name : String) : Option Isolation := all.find? (·.name = name)

/-- Whether writes that are not committed yet can be read. -/
def readsDirty (level : Isolation) : Bool := level = none || level = readUncommitted

/-- Whether a write takes a lock on its key. -/
def locks (level : Isolation) : Bool := level ≠ none

end Isolation

end Cardfile
