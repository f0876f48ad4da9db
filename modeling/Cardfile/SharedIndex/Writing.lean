import Cardfile.SharedIndex.Reading

/-! # Writing in a transaction

A write takes the lock on its key, which it may have to wait for, and is staged until the
transaction ends. All writes but those that add build on a value that is there.
-/

namespace Cardfile

inductive Change
  | add (card : Card Record)
  | update (card : Card Record)
  | updateEntry (entry : Record)
  | remove

/-- What a change leaves under a key with a card. -/
def Change.result : Change → Card Record → Staged
  | .add card, _ => some card
  | .update card, _ => some card
  | .updateEntry entry, old => some (old.withEntry entry)
  | .remove, _ => none

namespace SharedIndex

/-- Takes the lock on a key if the level asks for it, or gives the transaction that holds it. -/
def lock (i : SharedIndex) (t : Transaction Record) (key : Key) :
    Except TxId (Transaction Record × SharedIndex) :=
  if t.level.locks then do
    let (isNew, locks) ← i.locks.acquire key t.id
    pure (if isNew then { t with locked := t.locked ++ [key] } else t, { i with locks := locks })
  else .ok (t, i)

/-- The value that a write builds on. Who can read a value again may not write over a newer one. -/
def base (i : SharedIndex) (t : Transaction Record) (key : Key) : Except Clash Staged :=
  match t.ownWrite? key with
  | some own => .ok own
  | none =>
    match t.level with
    | .serializable => .ok (i.store.at? key t.start)
    | .repeatableRead =>
      match t.pins.get? key with
      | some pin =>
        if pin.stamp < i.store.lastCommit key then .error (.changedSinceRead key)
        else .ok pin.value
      | none => .ok (i.store.latest? key)
    | _ => .ok (i.store.latest? key)

/-- A serializable transaction reads the value that it builds on. -/
def rememberBase (i : SharedIndex) (t : Transaction Record) (key : Key) : Transaction Record :=
  if t.level = .serializable then i.remember t key else t

def stage (i : SharedIndex) (t : Transaction Record) (key : Key) (value : Staged) :
    Transaction Record × SharedIndex :=
  (t.write key value,
    if t.level = .none then i else { i with pending := i.pending.insert key (t.id, value) })

/-- A write to a key whose lock is held. -/
def writeLocked (i : SharedIndex) (t : Transaction Record) (key : Key) (change : Change) :
    Except Error Unit × Transaction Record × SharedIndex :=
  if t.level = .serializable && t.start < i.store.lastCommit key then
    (.error (.clash (.changedSinceStart key)), t, i)
  else
    match change with
    | .add card => (.ok (), i.stage t key (some card))
    | change =>
      match i.base t key with
      | .error clash => (.error (.clash clash), t, i)
      | .ok none => (.error (.unknownKey key), i.rememberBase t key, i)
      | .ok (some old) => (.ok (), i.stage (i.rememberBase t key) key (change.result old))

/-- A write, or the transaction that it has to wait for. -/
def write (i : SharedIndex) (t : Transaction Record) (key : Key) (change : Change) :
    Except TxId (Except Error Unit × Transaction Record × SharedIndex) := do
  let (t, i) ← i.lock t key
  pure (i.writeLocked t key change)

end SharedIndex

end Cardfile
