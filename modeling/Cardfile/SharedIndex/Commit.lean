import Cardfile.SharedIndex.Writing

/-! # The end of a transaction

A commit publishes all writes with one stamp. A serializable transaction that has written is
checked first: no commit since its start may have touched what it read, wrote or searched for.
-/

namespace Cardfile.SharedIndex

/-- Whether a key has been written by a commit since the transaction started. -/
def isChanged (i : SharedIndex) (t : Transaction Record) (key : Key) : Bool :=
  t.start < i.store.lastCommit key

def searched (t : Transaction Record) : TermSet :=
  .ofList (t.searches.flatten.flatMap OrderedSet.toList)

/-- The keys that a transaction has read or written, in the order in which they are checked. -/
def checkedKeys (i : SharedIndex) (t : Transaction Record) : List Key :=
  i.order.arrange i.store.clock t.reads.toList ++ i.order.arrange i.store.clock t.writes.keys

/-- A commit since the start that touched what the transaction read or searched for. -/
def clash? (i : SharedIndex) (t : Transaction Record) : Option Clash :=
  match (i.checkedKeys t).find? (i.isChanged t) with
  | some key => some (.onKey t.id key)
  | none =>
    if t.searches.isEmpty then none
    else
      (i.store.committedAfter t.start).toList.findSome? fun slot =>
        if (i.store.termsSince slot t.start).meets (searched t) then
          some (.onSearch t.id (i.store.keyOf? slot))
        else none

/-- Takes back what a transaction has pending and the locks that it holds. -/
def close (i : SharedIndex) (t : Transaction Record) : SharedIndex :=
  { i with
    pending := i.pending.filter fun key p => !(t.locked.contains key && p.1 = t.id)
    locks := i.locks.release t.id t.locked }

def publish (i : SharedIndex) (t : Transaction Record) : SharedIndex :=
  if t.isReadOnly then i
  else { i with store := i.store.apply (i.order.entries i.store.clock t.writes) }

def commit (i : SharedIndex) (t : Transaction Record) : Except Error Unit × SharedIndex :=
  let clash := if t.level = .serializable && !t.isReadOnly then i.clash? t else none
  match clash with
  | some clash => (.error (.clash clash), i.close t)
  | none => (.ok (), (i.publish t).close t)

/-- Commits a transaction if it is active still; it has ended then, whether it is committed or
refused. -/
def finishCommit (i : SharedIndex) (t : Transaction Record) :
    Except Error Unit × Transaction Record × SharedIndex :=
  match t.checkActive with
  | .error e => (.error e, t, i)
  | .ok () =>
    match i.commit t with
    | (.ok (), i) => (.ok (), t.finish .committed, i)
    | (.error e, i) => (.error e, t.finish .rolledBack, i)

/-- Takes back a transaction if it is active still. -/
def abort (i : SharedIndex) (t : Transaction Record) : Transaction Record × SharedIndex :=
  if t.state = .active then (t.finish .rolledBack, i.close t) else (t, i)

end Cardfile.SharedIndex
