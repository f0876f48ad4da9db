import Cardfile.Card
import Cardfile.Proofs.Collections

/-! # Slots and what is filed in them

What stands under a key may be kept in two maps: one from the key to its slot, and one from the
slot to the rest, filed with the key. Together they say what one dictionary says, as long as both
are written alike.
-/

namespace Cardfile

variable {π α : Type} {slot : π → Slot} {held : π → α} {d : Dict Key π} {slots : Dict Key Slot}
  {filed : Dict Slot (Filed α)} {key key' : Key} {p q old : π} {n : Slot} {f : Filed α}

/-- Two maps that say together what one dictionary says. -/
structure Splits (slot : π → Slot) (held : π → α) (d : Dict Key π) (slots : Dict Key Slot)
    (filed : Dict Slot (Filed α)) : Prop where
  slots : slots = d.map fun _ p => slot p
  filed : filed.entries = d.entries.map fun e => (slot e.2, ⟨e.1, held e.2⟩)

namespace Splits

section Reads

theorem empty : Splits slot held .empty .empty .empty := ⟨rfl, rfl⟩

theorem get?_slots (h : Splits slot held d slots filed) (key : Key) :
    slots.get? key = (d.get? key).map slot := by
  rw [h.slots, Dict.get?_map]

theorem mem_filed (h : Splits slot held d slots filed) :
    filed.get? n = some f ↔ ∃ p, d.get? f.key = some p ∧ slot p = n ∧ held p = f.contents := by
  rw [← Dict.mem_entries_iff, h.filed, List.mem_map]
  constructor
  · rintro ⟨⟨key, p⟩, hm, he⟩
    cases he
    exact ⟨p, Dict.mem_entries_iff.1 hm, rfl, rfl⟩
  · rintro ⟨p, hp, rfl, hf⟩
    exact ⟨(f.key, p), Dict.mem_entries_iff.2 hp, by rw [hf]⟩

theorem get?_filed (h : Splits slot held d slots filed) (hp : d.get? key = some p) :
    filed.get? (slot p) = some ⟨key, held p⟩ :=
  h.mem_filed.2 ⟨p, hp, rfl, rfl⟩

/-- No two keys have the same slot. -/
theorem slot_inj (h : Splits slot held d slots filed) (hp : d.get? key = some p)
    (hq : d.get? key' = some q) (hs : slot p = slot q) : key = key' := by
  have he := h.get?_filed hq
  rw [← hs, h.get?_filed hp] at he
  exact congrArg Filed.key (Option.some.inj he)

theorem notMem_filed (h : Splits slot held d slots filed)
    (hn : ∀ {key p}, d.get? key = some p → slot p ≠ n) : n ∉ filed.keys := by
  intro hm
  obtain ⟨f, hf⟩ := Dict.mem_keys_iff.1 hm
  obtain ⟨p, hp, hs, -⟩ := h.mem_filed.1 hf
  exact hn hp hs

theorem get?_eq_find? (h : Splits slot held d slots filed) (n : Slot) :
    filed.get? n = (d.entries.find? (slot ·.2 = n)).map fun e => ⟨e.1, held e.2⟩ := by
  unfold Dict.get?
  rw [Dict.lookup_eq_find?, h.filed, List.find?_map, Option.map_map]
  rfl

theorem size_eq (h : Splits slot held d slots filed) : filed.size = d.size := by
  unfold Dict.size
  rw [h.filed, List.length_map]

end Reads

section Writes

/-- What has a slot stays there when it changes. -/
theorem replace (h : Splits slot held d slots filed) (hold : d.get? key = some old)
    (hs : slot p = slot old) :
    Splits slot held (d.insert key p) slots (filed.insert (slot old) ⟨key, held p⟩) := by
  have hnew : (d.map fun _ p => slot p).get? key = some (slot p) := by
    rw [Dict.get?_map, hold, hs]
    rfl
  refine ⟨?_, ?_⟩
  · rw [h.slots, Dict.map_insert, Dict.insert_of_get? hnew]
  · have hslots : (d.entries.map fun e => slot e.2).Nodup := by
      have hn := filed.nodup
      rwa [h.filed, List.map_map] at hn
    change Dict.assign _ _ filed.entries = (Dict.assign key p d.entries).map _
    rw [h.filed]
    change Dict.lookup key d.entries = some old at hold
    generalize d.entries = l at hold hslots
    induction l with
    | nil => cases hold
    | cons e rest ih =>
      obtain ⟨k, q⟩ := e
      obtain ⟨hfirst, hrest⟩ := List.nodup_cons.1 hslots
      by_cases hk : k = key
      · obtain rfl : q = old := by simpa [Dict.lookup, hk] using hold
        simp [Dict.assign, hk, hs]
      · have hlook : Dict.lookup key rest = some old := by simpa [Dict.lookup, hk] using hold
        -- the slot is that of the key, so it is not the slot of another one
        have hq : slot q ≠ slot old := by
          intro he
          have hm : (key, old) ∈ rest := Dict.mem_of_lookup hlook
          exact hfirst (List.mem_map.2 ⟨_, hm, he.symm⟩)
        simp [Dict.assign, hk, hq, ih hlook hrest]

/-- A new key comes in with a slot that is free. -/
theorem add (h : Splits slot held d slots filed) (hkey : d.get? key = none)
    (hn : ∀ {key q}, d.get? key = some q → slot q ≠ slot p) :
    Splits slot held (d.insert key p) (slots.insert key (slot p))
      (filed.insert (slot p) ⟨key, held p⟩) := by
  refine ⟨?_, ?_⟩
  · rw [h.slots, Dict.map_insert]
  · change Dict.assign _ _ filed.entries = (Dict.assign key p d.entries).map _
    rw [Dict.assign_of_notMem (h.notMem_filed hn),
      Dict.assign_of_notMem (Dict.get?_eq_none_iff.1 hkey), h.filed, List.map_append]
    rfl

/-- A key goes together with what is in its slot. -/
theorem erase (h : Splits slot held d slots filed) (hp : d.get? key = some p) :
    Splits slot held (d.erase key) (slots.erase key) (filed.erase (slot p)) := by
  refine ⟨?_, ?_⟩
  · rw [h.slots, Dict.map_erase]
  · change filed.entries.filter _ = (d.entries.filter _).map _
    rw [h.filed, List.filter_map]
    refine congrArg (List.map _) (List.filter_congr fun ⟨k, q⟩ hm => ?_)
    have hq := Dict.mem_entries_iff.1 hm
    have hiff : slot q = slot p ↔ k = key :=
      ⟨h.slot_inj hq hp, fun he => by cases (he ▸ hq).symm.trans hp; rfl⟩
    simp [hiff]

/-- What is filed may change everywhere at once. -/
theorem map (h : Splits slot held d slots filed) (change : π → π) {g : α → α}
    (hs : ∀ p, slot (change p) = slot p) (hg : ∀ p, held (change p) = g (held p)) :
    Splits slot held (d.map fun _ p => change p) slots
      (filed.map fun _ f => ⟨f.key, g f.contents⟩) := by
  refine ⟨?_, ?_⟩
  · rw [h.slots]
    exact Dict.ext_entries (by simp [Dict.map, hs])
  · simp [Dict.map, h.filed, hs, hg]

end Writes

end Splits

end Cardfile
