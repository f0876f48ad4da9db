import Cardfile.Dict
import Cardfile.Error

/-! # Key orders

The order in which keys are taken that came together, as the writes of one transaction do, is left
open: it is any rearrangement of the keys, and at another time it may be another one.
-/

namespace Cardfile

structure KeyOrder where
  arrange : Nat → List Key → List Key
  perm : ∀ time keys, (arrange time keys).Perm keys

namespace KeyOrder

def given : KeyOrder := ⟨fun _ => id, fun _ _ => .refl _⟩

def sorted : KeyOrder := ⟨fun _ keys => keys.mergeSort, fun _ keys => List.mergeSort_perm keys _⟩

instance : Inhabited KeyOrder := ⟨given⟩

/-- The entries of a dictionary in the order that their keys have at a time. -/
def entries {ν : Type} (o : KeyOrder) (time : Nat) (d : Dict Key ν) : List (Key × ν) :=
  (o.arrange time d.keys).filterMap fun key => (d.get? key).map (key, ·)

end KeyOrder

end Cardfile
