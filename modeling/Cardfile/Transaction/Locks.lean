import Cardfile.Transaction

/-! # Locks

A lock on a key has one holder, who keeps it until it is released.
-/

namespace Cardfile

structure Locks where
  holders : Dict Key TxId

namespace Locks

def empty : Locks := ⟨.empty⟩

instance : Inhabited Locks := ⟨empty⟩

def holder? (l : Locks) (key : Key) : Option TxId := l.holders.get? key

/-- Takes a lock, unless another transaction holds it: then that one is given. The flag says
whether the lock was taken now. -/
def acquire (l : Locks) (key : Key) (tx : TxId) : Except TxId (Bool × Locks) :=
  match l.holder? key with
  | none => .ok (true, ⟨l.holders.insert key tx⟩)
  | some holder => if holder = tx then .ok (false, l) else .error holder

/-- Gives back those of the locks that the transaction holds. -/
def release (l : Locks) (tx : TxId) (keys : List Key) : Locks :=
  keys.foldl (fun l key => if l.holder? key = some tx then ⟨l.holders.erase key⟩ else l) l

end Locks

end Cardfile
