import Cardfile.Transaction
import Cardfile.Waiting

/-! # The registry of transactions

Each session has at most one transaction. Numbers are given out once.
-/

namespace Cardfile

structure Registry (ε : Type) where
  nextId : TxId
  bound : Dict Session (Transaction ε)

namespace Registry

variable {ε : Type}

def empty : Registry ε := ⟨1, .empty⟩

instance : Inhabited (Registry ε) := ⟨empty⟩

def takeId (r : Registry ε) : TxId × Registry ε := (r.nextId, { r with nextId := r.nextId + 1 })

def current? (r : Registry ε) (s : Session) : Option (Transaction ε) := r.bound.get? s

/-- Puts a transaction in the place of the one that the session has. -/
def bind (r : Registry ε) (s : Session) (t : Transaction ε) : Registry ε :=
  { r with bound := r.bound.insert s t }

def begin (r : Registry ε) (s : Session) (level : Isolation) (start : Stamp) :
    Except Error (TxId × Registry ε) :=
  match r.current? s with
  | some _ => .error .alreadyActive
  | none =>
    let (id, r) := r.takeId
    .ok (id, r.bind s (.begun id level start))

def release (r : Registry ε) (s : Session) : Except Error (Transaction ε × Registry ε) :=
  match r.current? s with
  | some t => .ok (t, { r with bound := r.bound.erase s })
  | none => .error .noTransaction

def activeCount (r : Registry ε) : Nat := r.bound.size

/-- The earliest start of a transaction, `now` if there is none. -/
def oldestStart (r : Registry ε) (now : Stamp) : Stamp :=
  ((r.bound.values.map Transaction.start).min?).getD now

end Registry

end Cardfile
