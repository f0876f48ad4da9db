import Cardfile.Proofs.PlainIndex
import Cardfile.Proofs.Scenes

/-! # Committed contents

What is committed under each key follows from the batches that were committed on the way: each puts
new values under its keys, and only clearing the index takes away what was there without a batch.
-/

namespace Cardfile

variable {i : SharedIndex} {s : Session} {op : Operation} {c? : Option (Key × Change)}
  {r : Progress × SharedIndex} {writes : List (Write Record)} {x : Scene} {v : View} {m : Move}

/-- A view with writes in place. -/
def View.put (v : View) (writes : List (Write Record)) : View :=
  fun key => (Dict.lookup key writes).getD (v key)

/-- Whether an event says that all contents were cleared away. -/
def Event.clears : Event → Bool
  | ⟨_, .clear, a⟩ => a.isOk
  | _ => false

theorem Event.clears_of_ne (h : op ≠ .clear) (s : Session) (a : Answer) :
    (⟨s, op, a⟩ : Event).clears = false := by
  cases op with
  | clear => exact absurd rfl h
  | _ => rfl

namespace Scene

/-- What a move makes of the contents. -/
def publish (x : Scene) (m : Move) (v : View) : View :=
  if (x.take m).1.any Event.clears then fun _ => none else v.put (x.batch m)

/-- The contents after some moves, if they were `v` before. -/
def contents (x : Scene) (v : View) : List Move → View
  | [] => v
  | m :: rest => (x.take m).2.contents (x.publish m v) rest

end Scene

section Put

theorem VersionStore.latest?_apply_eq_put {store : VersionStore Record}
    (hn : (writes.map Prod.fst).Nodup) :
    (store.apply writes).latest? = View.put store.latest? writes := by
  funext key
  unfold View.put
  cases hl : Dict.lookup key writes with
  | none => exact latest?_apply_of_notMem (Dict.lookup_eq_none_iff.1 hl)
  | some value =>
    have hm : (key, value) ∈ writes := (Dict.lookup_eq_some_iff hn).1 hl
    exact latest?_apply_of_mem hn hm

end Put

namespace SharedIndex

section Contents

theorem latest?_ofIndex (o : KeyOrder) (p : Index) : (ofIndex o p).store.latest? = p.view := by
  have hkeys : (p.cards.entries.map fun e => ((e.1, some e.2.card) : Write Record)).map Prod.fst =
      p.cards.keys := by
    rw [List.map_map]
    rfl
  funext key
  unfold ofIndex
  dsimp only
  split
  · next he =>
    have hn : p.cards.get? key = none := by
      rw [Dict.get?_eq_none_iff, ← hkeys, List.isEmpty_iff.1 he]
      exact List.not_mem_nil
    rw [Index.view_of_none hn]
    rfl
  · cases hp : p.cards.get? key with
    | none =>
      have hm := Dict.get?_eq_none_iff.1 hp
      rw [← hkeys] at hm
      rw [Index.view_of_none hp]
      exact VersionStore.latest?_apply_of_notMem hm
    | some placed =>
      have hm : ((key, some placed.card) : Write Record) ∈
          p.cards.entries.map fun e => (e.1, some e.2.card) :=
        List.mem_map.2 ⟨(key, placed), Dict.mem_entries_iff.2 hp, rfl⟩
      rw [Index.view_of_some hp]
      exact VersionStore.latest?_apply_of_mem (hkeys ▸ p.cards.nodup_keys) hm

/-- Unless the index is cleared, a move puts its batch in place. -/
theorem Deed.latest?_eq (h : i.Deed s op c? r) (hclear : op ≠ .clear) :
    r.2.store.latest? = View.put i.store.latest? (i.batch c? s op r.1) := by
  have hclock := h.clock_eq hclear
  have hp := h.publishes
  generalize r.2.store = store at hp hclock
  generalize i.batch c? s op r.1 = writes at hp hclock
  cases hp with
  | kept => rfl
  | applied _ hn => exact VersionStore.latest?_apply_eq_put hn
  | pruned => exact funext fun key => VersionStore.latest?_pruned
  | cleared => exact absurd (hclock rfl) (Nat.succ_ne_self _)

/-- Clearing is refused while somebody runs; else nothing is left. -/
theorem Deed.clear_cases (h : i.Deed s .clear c? r) :
    (∃ e, r = (.answered (.error e), i)) ∨
      r = (.answered (.ok .done), { i with store := i.store.clear }) := by
  cases h with
  | plain =>
    change (∃ e, i.changed i.clear = (.answered (.error e), i)) ∨ i.changed i.clear = _
    unfold clear
    split
    · exact .inl ⟨_, rfl⟩
    · exact .inr rfl
  | refused _ hop => cases hop
  | bound hop => cases hop
  | alone hop => cases hop

end Contents

end SharedIndex

namespace Scene

section Contents

theorem Tidy.latest?_take (h : x.Tidy) (m : Move) :
    (x.take m).2.index.store.latest? = x.publish m x.index.store.latest? := by
  unfold publish
  rcases h.take_cases m with ⟨-, ht, hb⟩ | ⟨s, op, r, -, hd, ht, hb⟩
  · rw [ht, hb]
    rfl
  · rw [ht, hb, index_settle, event_settle]
    by_cases hclear : op = .clear
    · subst hclear
      rcases hd.clear_cases with ⟨e, rfl⟩ | rfl <;> rfl
    · rw [hd.latest?_eq hclear]
      cases r.1 with
      | waiting w => rfl
      | answered a =>
        rw [Option.any_some, Event.clears_of_ne hclear]
        rfl

/-- What is committed is what the moves on the way have made of the contents. -/
theorem Tidy.latest?_after (h : x.Tidy) (moves : List Move) :
    (x.after moves).index.store.latest? = x.contents x.index.store.latest? moves := by
  induction moves generalizing x with
  | nil => rfl
  | cons m rest ih =>
    have hrest := ih (h.take m)
    rw [h.latest?_take m] at hrest
    exact hrest

theorem latest?_opening (o : KeyOrder) (p : Index) (mode : Isolation) :
    (opening o p mode).index.store.latest? = p.view :=
  SharedIndex.latest?_ofIndex o p

end Contents

end Scene

end Cardfile
