import Cardfile.SharedIndex.Commit

/-! # Sessions

Sessions take steps one at a time. A step outside a transaction runs in one of its own, which is
committed at once and needs no more than the last commit. A write that meets a lock waits; unless
somebody else goes on meanwhile, the wait ends with an error.
-/

namespace Cardfile

inductive Operation
  | begin
  | commit
  | rollback
  | add (key : Key) (record entry : Record)
  | update (key : Key) (record entry : Record)
  | updateEntry (key : Key) (entry : Record)
  | remove (key : Key)
  | get (key : Key)
  | search (query : String)
  | clear
  | cleanup
  | setMode (level : Isolation)
  | setStopWords (words : List String)
  | setSynonyms (table : Synonyms)
  | setScorer (scorer : Scorer)
  | register (type : String) (mapping : Mapping)
  | declareSupertype (type supertype : String)

inductive Reply
  | done
  | started (id : TxId)
  | entry (found : Option Record)
  | hits (found : List (Hit Record))
  | dropped (count : Nat)

abbrev Answer := Except Error Reply

/-- A write that waits for the lock on its key, and who held it when it was last tried. -/
structure Waiting where
  session : Session
  /-- The transaction of the write alone, if the session has none. -/
  single : Option (Transaction Record)
  key : Key
  change : Change
  holder : TxId

inductive Progress
  | answered (answer : Answer)
  | waiting (w : Waiting)

/-- The level of a transaction for one step. -/
def Isolation.single : Isolation → Isolation
  | .none => .none
  | .readUncommitted => .readUncommitted
  | _ => .readCommitted

namespace SharedIndex

def begin (i : SharedIndex) (s : Session) : Answer × SharedIndex :=
  if i.mode = .none then (.error .ungrouped, i)
  else
    match i.registry.begin s i.mode i.store.clock with
    | .ok (id, registry) => (.ok (.started id), { i with registry := registry })
    | .error e => (.error e, i)

def done (r : Except Error Unit × SharedIndex) : Answer × SharedIndex :=
  (r.1.map fun _ => .done, r.2)

/-- The same index when a session has lost its transaction. -/
def unbound (i : SharedIndex) (registry : Registry Record) : SharedIndex :=
  { i with registry := registry }

def bind (i : SharedIndex) (s : Session) (t : Transaction Record) : SharedIndex :=
  { i with registry := i.registry.bind s t }

/-- Takes its transaction from a session, and gives the answer if there is one to take. -/
def release (i : SharedIndex) (s : Session) (a : Answer) : Answer × SharedIndex :=
  match i.registry.release s with
  | .error e => (.error e, i)
  | .ok (_, registry) => (a, i.unbound registry)

def commitSession (i : SharedIndex) (s : Session) : Answer × SharedIndex :=
  match i.registry.current? s with
  | none => (.error .noTransaction, i)
  | some t =>
    let (r, t, i) := i.finishCommit t
    (i.bind s t).release s (r.map fun _ => .done)

def rollback (i : SharedIndex) (s : Session) : Answer × SharedIndex :=
  match i.registry.current? s with
  | none => (.error .noTransaction, i)
  | some t =>
    let (t, i) := i.abort t
    (i.bind s t).release s (.ok .done)

/-- A new transaction for one step. -/
def single (i : SharedIndex) : Transaction Record × SharedIndex :=
  let (id, registry) := i.registry.takeId
  (.begun id i.mode.single i.store.clock, { i with registry := registry })

/-- Reads in the transaction of the session, or in one for this step. -/
def read {α : Type} (i : SharedIndex) (s : Session)
    (look : SharedIndex → Transaction Record → α × Transaction Record) : α × SharedIndex :=
  match i.registry.current? s with
  | some t =>
    let (a, t) := look i t
    (a, i.bind s t)
  | none =>
    let (t, i) := i.single
    let (a, t) := look i t
    (a, i.close t)

def searchText (i : SharedIndex) (s : Session) (query : String) : List (Hit Record) × SharedIndex :=
  match i.indexing.analyzer.queryGroups query with
  | [] => ([], i)
  | groups => i.read s fun i t => i.search t groups

/-- Tries a write in the transaction of the session. -/
def writeBound (i : SharedIndex) (t : Transaction Record) (s : Session) (key : Key)
    (change : Change) : Progress × SharedIndex :=
  match i.write t key change with
  | .error holder => (.waiting ⟨s, none, key, change, holder⟩, i)
  | .ok (r, t, i) => (.answered (r.map fun _ => .done), i.bind s t)

/-- Tries a write in a transaction of its own, which ends with it. -/
def writeSingle (i : SharedIndex) (t : Transaction Record) (s : Session) (key : Key)
    (change : Change) : Progress × SharedIndex :=
  match i.write t key change with
  | .error holder => (.waiting ⟨s, some t, key, change, holder⟩, i)
  | .ok (.ok (), t, i) =>
    let (a, i) := done (i.commit t)
    (.answered a, i)
  | .ok (.error e, t, i) => (.answered (.error e), i.close t)

def startWrite (i : SharedIndex) (s : Session) (key : Key) (change : Change) :
    Progress × SharedIndex :=
  match i.registry.current? s with
  | some t => i.writeBound t s key change
  | none =>
    let (t, i) := i.single
    i.writeSingle t s key change

def answered (r : Answer × SharedIndex) : Progress × SharedIndex := (.answered r.1, r.2)

/-- Keeps the index as it is if the new one cannot be had. -/
def changed (i : SharedIndex) (r : Except Error SharedIndex) : Progress × SharedIndex :=
  match r with
  | .ok i => (.answered (.ok .done), i)
  | .error e => (.answered (.error e), i)

/-- A write of a record starts when its card can be made. -/
def startCard (i : SharedIndex) (s : Session) (key : Key) (record entry : Record)
    (change : Card Record → Change) : Progress × SharedIndex :=
  match i.indexing.card record entry with
  | .ok card => i.startWrite s key (change card)
  | .error e => (.answered (.error e), i)

/-- The first part of a step: all of it, unless it has to wait. -/
def start (i : SharedIndex) (s : Session) : Operation → Progress × SharedIndex
  | .begin => answered (i.begin s)
  | .commit => answered (i.commitSession s)
  | .rollback => answered (i.rollback s)
  | .add key record entry => i.startCard s key record entry .add
  | .update key record entry => i.startCard s key record entry .update
  | .updateEntry key entry => i.startWrite s key (.updateEntry entry)
  | .remove key => i.startWrite s key .remove
  | .get key =>
    let (found, i) := i.read s fun i t => i.get t key
    (.answered (.ok (.entry found)), i)
  | .search query =>
    let (found, i) := i.searchText s query
    (.answered (.ok (.hits found)), i)
  | .clear => i.changed i.clear
  | .cleanup =>
    let (count, i) := i.cleanup
    (.answered (.ok (.dropped count)), i)
  | .setMode level => i.changed (.ok { i with mode := level })
  | .setStopWords words => i.changed (i.setStopWords words)
  | .setSynonyms table => i.changed (i.setSynonyms table)
  | .setScorer scorer => i.changed (.ok { i with indexing := { i.indexing with scorer := scorer } })
  | .register type mapping =>
    i.changed (.ok { i with indexing := i.indexing.register type mapping })
  | .declareSupertype type supertype =>
    i.changed (.ok { i with indexing := i.indexing.declareSupertype type supertype })

/-- Tries again a write that waits. -/
def resume (i : SharedIndex) (w : Waiting) : Progress × SharedIndex :=
  match w.single, i.registry.current? w.session with
  | some t, _ => i.writeSingle t w.session w.key w.change
  | none, some t => i.writeBound t w.session w.key w.change
  | none, none => (.answered (.error .noTransaction), i)

/-- The number of the transaction that waits. -/
def waiter (i : SharedIndex) (w : Waiting) : TxId :=
  match w.single, i.registry.current? w.session with
  | some t, _ => t.id
  | none, some t => t.id
  | none, none => 0

/-- Gives up waiting. -/
def expire (i : SharedIndex) (w : Waiting) : Answer × SharedIndex :=
  let e := Error.lockTimeout (i.waiter w) w.key w.holder
  match w.single with
  | some t => (.error e, i.close t)
  | none => (.error e, i)

/-- A step while the other sessions stand still. -/
def step (i : SharedIndex) (s : Session) (op : Operation) : Answer × SharedIndex :=
  match i.start s op with
  | (.answered a, i) => (a, i)
  | (.waiting w, i) => i.expire w

/-- Steps one after the other. -/
def run (i : SharedIndex) : List (Session × Operation) → List Answer × SharedIndex
  | [] => ([], i)
  | (s, op) :: rest =>
    let (a, i) := i.step s op
    let (as, i) := i.run rest
    (a :: as, i)

/-- What becomes of a write that waits, if it can go on. -/
def ready? (i : SharedIndex) (w : Waiting) : Option (Answer × SharedIndex) :=
  match i.resume w with
  | (.answered a, i) => some (a, i)
  | (.waiting _, _) => none

/-- Tries a write once more before giving it up. -/
def abandon (i : SharedIndex) (w : Waiting) : Answer × SharedIndex :=
  match i.resume w with
  | (.answered a, i) => (a, i)
  | (.waiting w, i) => i.expire w

end SharedIndex

end Cardfile
