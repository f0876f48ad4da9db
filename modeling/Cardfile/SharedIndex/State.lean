import Cardfile.Cabinet
import Cardfile.Index
import Cardfile.KeyOrder
import Cardfile.Transaction.Locks
import Cardfile.Transaction.Registry

/-! # The shared index

An index that several sessions use, each in transactions of its own. What is committed is in the
version store. Staged writes are also pending, where transactions that read dirty look for them.
-/

namespace Cardfile

abbrev Staged := Option (Card Record)

structure SharedIndex where
  indexing : Indexing
  store : VersionStore Record
  pending : Dict Key (TxId × Staged)
  locks : Locks
  registry : Registry Record
  mode : Isolation
  order : KeyOrder

namespace SharedIndex

def ofIndexing (o : KeyOrder) (x : Indexing) (mode : Isolation) : SharedIndex :=
  ⟨x, .empty, .empty, .empty, .empty, mode, o⟩

def usual (o : KeyOrder) : SharedIndex := ofIndexing o .usual .readCommitted

instance : Inhabited SharedIndex := ⟨usual default⟩

def ofConfig (o : KeyOrder) (c : Config) : Except Error SharedIndex := do
  pure (ofIndexing o (← Indexing.ofConfig c) c.isolation)

/-- The cards of a cabinet become the first commit, in the order of their slots. -/
def ofCabinet (o : KeyOrder) (c : Cabinet) : SharedIndex :=
  let s := ofIndexing o c.indexing .readCommitted
  let filed := c.cards.entries.mergeSort fun a b => a.1 ≤ b.1
  let writes := filed.map fun e => (e.2.key, some e.2.contents)
  if writes.isEmpty then s else { s with store := s.store.apply writes }

/-- The cards of an index become the first commit, in the order in which the keys came in. -/
def ofIndex (o : KeyOrder) (i : Index) : SharedIndex :=
  let s := ofIndexing o i.indexing .readCommitted
  let writes := i.cards.entries.map fun e => (e.1, some e.2.card)
  if writes.isEmpty then s else { s with store := s.store.apply writes }

/-- The number of keys that have a card in the last commit. -/
def size (i : SharedIndex) : Nat := i.store.liveCount

def isEmpty (i : SharedIndex) : Bool := i.size = 0

/-- Settings stay as they are once there are cards, committed or pending. -/
def changeSettings (i : SharedIndex) (change : Analyzer.Settings → Analyzer.Settings) :
    Except Error SharedIndex :=
  if 0 < i.size || !i.pending.isEmpty then .error .settingsFixed
  else do pure { i with indexing := ← i.indexing.withSettings (change i.indexing.settings) }

def setStopWords (i : SharedIndex) (words : List String) : Except Error SharedIndex :=
  i.changeSettings ({ · with stopWords := words })

def setSynonyms (i : SharedIndex) (table : Synonyms) : Except Error SharedIndex :=
  i.changeSettings ({ · with synonyms := table })

/-- Only while no transaction runs. -/
def clear (i : SharedIndex) : Except Error SharedIndex :=
  if 0 < i.registry.activeCount then .error .clearWhileActive
  else .ok { i with store := i.store.clear }

/-- Drops the versions that no running transaction can read; how many those are. -/
def cleanup (i : SharedIndex) : Nat × SharedIndex :=
  let oldest := i.registry.oldestStart i.store.clock
  (i.store.dropped oldest, { i with store := i.store.pruned oldest })

end SharedIndex

end Cardfile
