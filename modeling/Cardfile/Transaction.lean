import Cardfile.Isolation
import Cardfile.Versions.Store

/-! # Transactions

What is known of a transaction while it runs: its writes, the locks it holds, and what it has read
as far as its level asks for that.
-/

namespace Cardfile

/-- Transactions are numbered without end, like commits. -/
abbrev TxId := Nat

inductive TransactionState
  | active | committed | rolledBack
  deriving DecidableEq

def TransactionState.name : TransactionState → String
  | active => "Active"
  | committed => "Committed"
  | rolledBack => "RolledBack"

/-- The value that a key had when it was first read, and the stamp of its newest version then. -/
structure Pin (ε : Type) where
  stamp : Stamp
  value : Option (Card ε)

structure Transaction (ε : Type) where
  id : TxId
  level : Isolation
  state : TransactionState
  start : Stamp
  writes : Dict Key (Option (Card ε))
  /-- The keys whose locks are held, in the order in which they were taken. -/
  locked : List Key
  pins : Dict Key (Pin ε)
  reads : OrderedSet Key
  searches : List (List TermSet)

namespace Transaction

variable {ε : Type}

def begun (id : TxId) (level : Isolation) (start : Stamp) : Transaction ε :=
  ⟨id, level, .active, start, .empty, [], .empty, .empty, []⟩

def checkActive (t : Transaction ε) : Except Error Unit :=
  if t.state = .active then .ok () else .error (.ended t.id t.state.name)

/-- A later write to a key takes the place of an earlier one. -/
def write (t : Transaction ε) (key : Key) (value : Option (Card ε)) : Transaction ε :=
  { t with writes := t.writes.insert key value }

/-- The value that the transaction itself has written. -/
def ownWrite? (t : Transaction ε) (key : Key) : Option (Option (Card ε)) := t.writes.get? key

def isReadOnly (t : Transaction ε) : Bool := t.writes.isEmpty

def withoutWrites (t : Transaction ε) : Transaction ε := { t with writes := .empty }

def finish (t : Transaction ε) (state : TransactionState) : Transaction ε :=
  { t with state := state, writes := .empty, pins := .empty, reads := .empty, searches := [] }

end Transaction

end Cardfile
