import Cardfile.Error
import Cardfile.OrderedSet

/-! # Cards

What an index keeps under a key: the summary of a record, and what was taken from the record.
-/

namespace Cardfile

/-- The terms of a record, and the field of its summary that has the rating. -/
structure Extract where
  terms : TermSet
  ratingField : Option String

structure Card (ε : Type) extends Extract where
  entry : ε

/-- The same terms with another summary. -/
def Card.withEntry {ε : Type} (c : Card ε) (entry : ε) : Card ε := { c with entry := entry }

/-- What is filed in the slot of a key. -/
structure Filed (α : Type) where
  key : Key
  contents : α

end Cardfile
