import Cardfile.KeyOrder
import Cardfile.Postings
import Mathlib.Data.List.Nodup

/-! # Collections

What look-up and membership see of each operation on dictionaries, ordered sets and postings.
-/

namespace Cardfile

theorem map_filterMap_sublist {α β γ : Type} (f : α → Option β) (g : β → γ) (k : α → γ)
    (h : ∀ a b, f a = some b → g b = k a) (l : List α) :
    ((l.filterMap f).map g).Sublist (l.map k) := by
  induction l with
  | nil => exact .slnil
  | cons a l ih =>
    cases hf : f a with
    | none => rw [List.filterMap_cons_none hf]; exact ih.cons _
    | some b => rw [List.filterMap_cons_some hf, List.map_cons, h a b hf]; exact ih.cons_cons _

/-- Of members that a function tells apart one is left by its value. -/
theorem filter_eq_singleton {α β : Type} [DecidableEq β] {f : α → β} {l : List α} {a : α}
    (hn : (l.map f).Nodup) (hm : a ∈ l) : l.filter (f · = f a) = [a] := by
  induction l with
  | nil => cases hm
  | cons b l ih =>
    obtain ⟨hb, hl⟩ := List.nodup_cons.1 hn
    rcases List.mem_cons.1 hm with rfl | hm
    · have hnone : l.filter (f · = f a) = [] := by
        refine List.filter_eq_nil_iff.2 fun c hc he => hb ?_
        exact of_decide_eq_true he ▸ List.mem_map_of_mem hc
      simp [hnone]
    · have hne : f b ≠ f a := fun he => hb (he ▸ List.mem_map_of_mem hm)
      simp [hne, ih hl hm]

/-- What a function gives stands by what it gives it for. -/
theorem forall₂_filterMap {α β : Type} {R : α → β → Prop} {f : α → Option β} {l : List α}
    (h : ∀ a ∈ l, ∀ b, f a = some b → R a b) :
    List.Forall₂ R (l.filter fun a => (f a).isSome) (l.filterMap f) := by
  induction l with
  | nil => exact .nil
  | cons a rest ih =>
    obtain ⟨hfirst, hrest⟩ := List.forall_mem_cons.1 h
    cases ha : f a with
    | none => simpa [ha] using ih hrest
    | some b => simpa [ha] using ⟨hfirst b ha, ih hrest⟩

theorem nodup_eraseDups {α : Type} [DecidableEq α] : ∀ l : List α, l.eraseDups.Nodup
  | [] => List.nodup_nil
  | a :: rest => by
    rw [List.eraseDups_cons, List.nodup_cons]
    refine ⟨fun h => ?_, nodup_eraseDups _⟩
    have ha := (List.mem_filter.1 (List.mem_eraseDups.1 h)).2
    simp at ha
termination_by l => l.length
decreasing_by exact Nat.lt_succ_of_le (List.length_filter_le _ rest)

namespace Dict

variable {κ ν μ : Type}

theorem nodup_keys (d : Dict κ ν) : d.keys.Nodup := d.nodup

theorem size_map (d : Dict κ ν) (f : κ → ν → μ) : (d.map f).size = d.size :=
  List.length_map ..

theorem keys_map (d : Dict κ ν) (f : κ → ν → μ) : (d.map f).keys = d.keys := by
  simp [keys, map, Function.comp_def]

theorem ext_entries {d e : Dict κ ν} (h : d.entries = e.entries) : d = e := by
  cases d
  cases e
  cases h
  rfl

variable [DecidableEq κ]

theorem lookup_eq_some_iff {k : κ} {v : ν} {l : List (κ × ν)} (h : (l.map Prod.fst).Nodup) :
    lookup k l = some v ↔ (k, v) ∈ l := by
  induction l with
  | nil => simp [lookup]
  | cons p rest ih =>
    obtain ⟨a, w⟩ := p
    obtain ⟨ha, hr⟩ := List.nodup_cons.1 h
    by_cases hk : a = k
    · subst hk
      have hn : (a, v) ∉ rest := fun hm => ha (List.mem_map.2 ⟨_, hm, rfl⟩)
      simp only [lookup, if_true, Option.some.injEq, List.mem_cons, Prod.mk.injEq, true_and, hn,
        or_false]
      exact eq_comm
    · have hk' : ¬ k = a := fun e => hk e.symm
      simp [lookup, hk, hk', ih hr]

theorem lookup_eq_find? (k : κ) (l : List (κ × ν)) :
    lookup k l = (l.find? (·.1 = k)).map Prod.snd := by
  induction l with
  | nil => rfl
  | cons e rest ih =>
    obtain ⟨a, v⟩ := e
    by_cases h : a = k
    · simp [lookup, h]
    · simp [lookup, h, ih]

theorem mem_entries_iff {d : Dict κ ν} {k : κ} {v : ν} :
    (k, v) ∈ d.entries ↔ d.get? k = some v :=
  (lookup_eq_some_iff d.nodup).symm

theorem mem_keys_iff {d : Dict κ ν} {k : κ} : k ∈ d.keys ↔ ∃ v, d.get? k = some v := by
  rw [← not_iff_not, ← get?_eq_none_iff, Option.eq_none_iff_forall_not_mem, not_exists]
  rfl

theorem mem_keys_insert {d : Dict κ ν} {j k : κ} {v : ν} :
    j ∈ (d.insert k v).keys ↔ k = j ∨ j ∈ d.keys := by
  simp only [mem_keys_iff, get?_insert]
  by_cases hk : k = j <;> simp [hk]

theorem mem_keys_foldl_insert {α : Type} {f : α → κ} {g : α → ν} {l : List α} {d : Dict κ ν}
    {k : κ} : k ∈ (l.foldl (fun d a => d.insert (f a) (g a)) d).keys ↔
      (∃ a ∈ l, f a = k) ∨ k ∈ d.keys := by
  induction l generalizing d with
  | nil => simp
  | cons a l ih =>
    rw [List.foldl_cons, ih, mem_keys_insert]
    simp only [List.mem_cons, exists_eq_or_imp, or_assoc, or_left_comm]

theorem mem_of_lookup {k : κ} {v : ν} {l : List (κ × ν)} (h : lookup k l = some v) :
    (k, v) ∈ l := by
  induction l with
  | nil => cases h
  | cons p rest ih =>
    obtain ⟨a, w⟩ := p
    by_cases ha : a = k
    · have hw : w = v := by simpa [lookup, ha] using h
      exact ha ▸ hw ▸ List.mem_cons_self
    · have hr : lookup k rest = some v := by simpa [lookup, ha] using h
      exact List.mem_cons_of_mem _ (ih hr)

theorem assign_of_lookup {k : κ} {v : ν} {l : List (κ × ν)} (h : lookup k l = some v) :
    assign k v l = l := by
  induction l with
  | nil => cases h
  | cons p rest ih =>
    obtain ⟨a, w⟩ := p
    by_cases ha : a = k
    · have hw : w = v := by simpa [lookup, ha] using h
      simp [assign, ha, hw]
    · have hr : lookup k rest = some v := by simpa [lookup, ha] using h
      simp [assign, ha, ih hr]

theorem insert_of_get? {d : Dict κ ν} {k : κ} {v : ν} (h : d.get? k = some v) :
    d.insert k v = d :=
  ext_entries (assign_of_lookup h)

theorem foldl_erase (keys : List κ) (d : Dict κ ν) :
    keys.foldl erase d = d.filter fun k _ => k ∉ keys := by
  induction keys generalizing d with
  | nil => exact ext_entries (by simp [filter])
  | cons k rest ih =>
    rw [List.foldl_cons, ih]
    refine ext_entries ?_
    simp only [filter, erase, List.filter_filter]
    refine List.filter_congr fun e _ => ?_
    simp [List.mem_cons, Bool.and_comm]

theorem assign_of_notMem {k : κ} {v : ν} {l : List (κ × ν)} (h : k ∉ l.map Prod.fst) :
    assign k v l = l ++ [(k, v)] := by
  induction l with
  | nil => rfl
  | cons p rest ih =>
    obtain ⟨hp, hrest⟩ := not_or.1 (List.mem_cons.not.1 h)
    simp [assign, Ne.symm hp, ih hrest]

theorem filter_ne_assign (k : κ) (v : ν) (l : List (κ × ν)) :
    (assign k v l).filter (·.1 ≠ k) = l.filter (·.1 ≠ k) := by
  induction l with
  | nil => simp [assign]
  | cons p rest ih =>
    obtain ⟨a, w⟩ := p
    by_cases h : a = k
    · simp [assign, h]
    · simp only [assign, h, if_false, List.filter_cons, ih]

theorem insert_insert (d : Dict κ ν) (k : κ) (v w : ν) :
    (d.insert k v).insert k w = d.insert k w := by
  refine ext_entries ?_
  change assign k w (assign k v d.entries) = assign k w d.entries
  induction d.entries with
  | nil => simp [assign]
  | cons e rest ih =>
    obtain ⟨a, u⟩ := e
    by_cases h : a = k
    · simp [assign, h]
    · simp [assign, h, ih]

theorem erase_insert (d : Dict κ ν) (k : κ) (v : ν) : (d.insert k v).erase k = d.erase k :=
  ext_entries (filter_ne_assign k v d.entries)

/-- New keys come in at the end, one for each insertion. -/
theorem entries_foldl_insert {α : Type} {f : α → κ} {g : α → ν} {l : List α} {d : Dict κ ν}
    (hn : (l.map f).Nodup) (hd : ∀ a ∈ l, f a ∉ d.keys) :
    (l.foldl (fun d a => d.insert (f a) (g a)) d).entries =
      d.entries ++ l.map fun a => (f a, g a) := by
  induction l generalizing d with
  | nil => simp
  | cons a l ih =>
    obtain ⟨ha, hl⟩ := List.nodup_cons.1 hn
    obtain ⟨hfirst, hrest⟩ := List.forall_mem_cons.1 hd
    have hnew : ∀ b ∈ l, f b ∉ (d.insert (f a) (g a)).keys := by
      intro b hb hk
      rcases mem_keys_insert.1 hk with he | hk
      · exact ha (he ▸ List.mem_map_of_mem hb)
      · exact hrest b hb hk
    rw [List.foldl_cons, ih hl hnew]
    simp [insert, assign_of_notMem hfirst]

theorem mem_values_iff {d : Dict κ ν} {v : ν} : v ∈ d.values ↔ ∃ k, d.get? k = some v := by
  simp only [values, List.mem_map, Prod.exists, mem_entries_iff, exists_eq_right]

theorem contains_iff {d : Dict κ ν} {k : κ} : d.contains k = true ↔ ∃ v, d.get? k = some v :=
  Option.isSome_iff_exists

theorem isEmpty_iff {d : Dict κ ν} : d.isEmpty = true ↔ ∀ k, d.get? k = none := by
  rw [isEmpty, List.isEmpty_iff]
  constructor
  · intro h k
    rw [get?, h, lookup]
  · intro h
    refine List.eq_nil_iff_forall_not_mem.2 fun p hm => ?_
    obtain ⟨k, v⟩ := p
    rw [mem_entries_iff, h k] at hm
    cases hm

theorem isEmpty_insert (d : Dict κ ν) (k : κ) (v : ν) : (d.insert k v).isEmpty = false := by
  refine Bool.eq_false_iff.2 fun h => ?_
  have hk := isEmpty_iff.1 h k
  rw [get?_insert, if_pos rfl] at hk
  cases hk

@[simp] theorem get?_map (d : Dict κ ν) (f : κ → ν → μ) (k : κ) :
    (d.map f).get? k = (d.get? k).map (f k) := by
  refine Option.ext fun v => ?_
  simp only [← mem_entries_iff, map, List.mem_map, Prod.mk.injEq, Prod.exists, Option.map_eq_some_iff]
  constructor
  · rintro ⟨a, w, hm, rfl, rfl⟩
    exact ⟨w, hm, rfl⟩
  · rintro ⟨w, hm, rfl⟩
    exact ⟨k, w, hm, rfl, rfl⟩

theorem map_assign (f : ν → μ) (k : κ) (v : ν) (l : List (κ × ν)) :
    (assign k v l).map (fun e => (e.1, f e.2)) = assign k (f v) (l.map fun e => (e.1, f e.2)) := by
  induction l with
  | nil => rfl
  | cons p rest ih =>
    obtain ⟨a, w⟩ := p
    by_cases h : a = k
    · simp [assign, h]
    · simp [assign, h, ih]

theorem map_insert (d : Dict κ ν) (f : ν → μ) (k : κ) (v : ν) :
    (d.insert k v).map (fun _ v => f v) = (d.map fun _ v => f v).insert k (f v) :=
  ext_entries (map_assign f k v d.entries)

theorem map_erase (d : Dict κ ν) (f : ν → μ) (k : κ) :
    (d.erase k).map (fun _ v => f v) = (d.map fun _ v => f v).erase k :=
  ext_entries (by simp [map, erase, List.filter_map, Function.comp_def])

/-- A value in the place of another one that is the same for `f` changes nothing for `f`. -/
theorem map_assign_of_lookup {f : ν → μ} {k : κ} {v w : ν} {l : List (κ × ν)}
    (h : lookup k l = some w) (hf : f v = f w) :
    (assign k v l).map (f ∘ Prod.snd) = l.map (f ∘ Prod.snd) := by
  induction l with
  | nil => cases h
  | cons p rest ih =>
    obtain ⟨a, u⟩ := p
    by_cases hk : a = k
    · have hu : u = w := by simpa [lookup, hk] using h
      simp [assign, hk, hf, hu]
    · have hr : lookup k rest = some w := by simpa [lookup, hk] using h
      simpa [assign, hk] using ih hr

@[simp] theorem get?_filter (d : Dict κ ν) (p : κ → ν → Bool) (k : κ) :
    (d.filter p).get? k = (d.get? k).filter (p k) := by
  refine Option.ext fun v => ?_
  simp only [← mem_entries_iff, filter, List.mem_filter, Option.filter_eq_some_iff]

theorem get?_insertNew (d : Dict κ ν) (k : κ) (v : ν) (j : κ) :
    (d.insertNew k v).get? j = if k = j then some ((d.get? j).getD v) else d.get? j := by
  unfold insertNew
  by_cases h : d.contains k
  · obtain ⟨w, hw⟩ := contains_iff.1 h
    by_cases hj : k = j
    · subst hj; simp [h, hw]
    · simp [h, hj]
  · have hn : d.get? k = none := by simpa [contains] using h
    by_cases hj : k = j
    · subst hj; simp [h, hn]
    · simp [h, hj]

end Dict

namespace OrderedSet

variable {α : Type} [LT α] {s t : OrderedSet α} {x z : α}

section Decided

variable [DecidableEq α]

theorem mem_erase : z ∈ (s.erase x).toList ↔ z ∈ s.toList ∧ z ≠ x := by
  simp [erase]

theorem contains_iff : s.contains x = true ↔ x ∈ s.toList := decide_eq_true_iff

theorem meets_iff : s.meets t = true ↔ ∃ x ∈ s.toList, x ∈ t.toList := by
  simp [meets, contains_iff]

end Decided

variable [DecidableLT α] [Std.Trichotomous (· < · : α → α → Prop)]

theorem mem_insertInto_iff {l : List α} : z ∈ insertInto x l ↔ z = x ∨ z ∈ l := by
  refine ⟨mem_of_mem_insertInto, fun h => ?_⟩
  induction l with
  | nil => simpa [insertInto] using h
  | cons y rest ih =>
    simp only [insertInto]
    split
    · simpa using h
    · next hxy =>
      split
      · rcases h with rfl | h
        · exact List.mem_cons_of_mem _ (ih (.inl rfl))
        · rcases List.mem_cons.1 h with rfl | h
          · exact List.mem_cons_self
          · exact List.mem_cons_of_mem _ (ih (.inr h))
      · next hyx =>
        -- neither is smaller, so the new member is the old one
        have he : x = y := Std.Trichotomous.trichotomous (r := (· < ·)) x y hxy hyx
        rcases h with rfl | h
        · exact he ▸ List.mem_cons_self
        · exact h

variable [Trans (· < · : α → α → Prop) (· < · : α → α → Prop) (· < · : α → α → Prop)]

theorem mem_insert : z ∈ (s.insert x).toList ↔ z = x ∨ z ∈ s.toList := mem_insertInto_iff

theorem mem_insertAll {xs : List α} : z ∈ (s.insertAll xs).toList ↔ z ∈ xs ∨ z ∈ s.toList := by
  induction xs generalizing s with
  | nil => simp [insertAll]
  | cons x xs ih =>
    have h : s.insertAll (x :: xs) = (s.insert x).insertAll xs := rfl
    rw [h, ih, mem_insert, List.mem_cons, or_left_comm, or_assoc]

theorem mem_ofList {xs : List α} : z ∈ (ofList xs).toList ↔ z ∈ xs := by
  simp [ofList, mem_insertAll]

theorem mem_union : z ∈ (s.union t).toList ↔ z ∈ t.toList ∨ z ∈ s.toList := mem_insertAll

/-- Sets of words with the same members are the same. -/
theorem eq_of_mem_iff {s t : OrderedSet String} (h : ∀ x, x ∈ s.toList ↔ x ∈ t.toList) :
    s = t := by
  have nodup : ∀ s : OrderedSet String, s.toList.Nodup := by
    refine fun s => s.increasing.imp fun hlt he => ?_
    subst he
    exact String.lt_irrefl _ hlt
  refine eq_of_toList_eq ?_
  refine ((List.perm_ext_iff_of_nodup (nodup s) (nodup t)).2 h).eq_of_pairwise ?_ s.increasing
    t.increasing
  exact fun a b _ _ hab hba => absurd (String.lt_trans hab hba) (String.lt_irrefl a)

end OrderedSet

namespace KeyOrder

variable {ν : Type} {o : KeyOrder} {time : Nat} {d : Dict Key ν}

theorem mem_arrange {key : Key} {keys : List Key} : key ∈ o.arrange time keys ↔ key ∈ keys :=
  (o.perm time keys).mem_iff

theorem mem_entries {key : Key} {v : ν} : (key, v) ∈ o.entries time d ↔ d.get? key = some v := by
  simp only [entries, List.mem_filterMap, Option.map_eq_some_iff, Prod.mk.injEq, mem_arrange]
  constructor
  · rintro ⟨_, _, _, h, rfl, rfl⟩
    exact h
  · intro h
    exact ⟨key, Dict.mem_keys_iff.2 ⟨v, h⟩, v, h, rfl, rfl⟩

theorem map_fst_filterMap (keys : List Key) (h : ∀ key ∈ keys, ∃ v, d.get? key = some v) :
    (keys.filterMap fun key => (d.get? key).map (key, ·)).map Prod.fst = keys := by
  induction keys with
  | nil => rfl
  | cons key rest ih =>
    obtain ⟨v, hv⟩ := h key List.mem_cons_self
    simp only [List.filterMap_cons, hv, Option.map_some, List.map_cons]
    rw [ih fun k hk => h k (List.mem_cons_of_mem _ hk)]

theorem keys_entries : (o.entries time d).map Prod.fst = o.arrange time d.keys :=
  map_fst_filterMap _ fun _ hk => Dict.mem_keys_iff.1 (mem_arrange.1 hk)

theorem nodup_keys_entries : ((o.entries time d).map Prod.fst).Nodup := by
  rw [keys_entries]
  exact (o.perm _ _).nodup_iff.2 d.nodup_keys

end KeyOrder

namespace Postings

variable {p : Postings} {slot slot' : Slot} {term : String} {terms : TermSet}

theorem slotsOf_insertTerm (term' : String) :
    (insertTerm slot p term').slotsOf term =
      if term' = term then (p.slotsOf term).insert slot else p.slotsOf term := by
  simp only [insertTerm, slotsOf, Dict.get?_insert]
  split
  · next h => subst h; rfl
  · rfl

theorem mem_slotsOf_insertTerms {ts : List String} :
    slot' ∈ ((ts.foldl (insertTerm slot) p).slotsOf term).toList ↔
      slot' ∈ (p.slotsOf term).toList ∨ (slot' = slot ∧ term ∈ ts) := by
  induction ts generalizing p with
  | nil => simp
  | cons t ts ih =>
    rw [List.foldl_cons, ih, slotsOf_insertTerm, List.mem_cons]
    by_cases h : t = term
    · subst h
      rw [if_pos rfl, OrderedSet.mem_insert]
      tauto
    · have h' : ¬ term = t := fun e => h e.symm
      simp [h, h']

theorem mem_slotsOf_insert :
    slot' ∈ ((p.insert slot terms).slotsOf term).toList ↔
      slot' ∈ (p.slotsOf term).toList ∨ (slot' = slot ∧ term ∈ terms.toList) :=
  mem_slotsOf_insertTerms

theorem mem_slotsOf_eraseTerm (term' : String) :
    slot' ∈ ((eraseTerm slot p term').slotsOf term).toList ↔
      slot' ∈ (p.slotsOf term).toList ∧ ¬ (slot' = slot ∧ term = term') := by
  unfold eraseTerm
  cases h : p.slots.get? term' with
  | none =>
    refine ⟨fun hm => ⟨hm, ?_⟩, And.left⟩
    rintro ⟨-, rfl⟩
    simp [slotsOf, h, OrderedSet.empty] at hm
  | some slots =>
    simp only [slotsOf, Dict.get?_insert]
    by_cases ht : term' = term
    · subst ht
      simp [h, OrderedSet.mem_erase]
    · have ht' : ¬ term = term' := fun e => ht e.symm
      simp [ht, ht']

theorem mem_slotsOf_erase :
    slot' ∈ ((p.erase slot terms).slotsOf term).toList ↔
      slot' ∈ (p.slotsOf term).toList ∧ ¬ (slot' = slot ∧ term ∈ terms.toList) := by
  unfold erase
  induction terms.toList generalizing p with
  | nil => simp
  | cons t ts ih =>
    rw [List.foldl_cons, ih, mem_slotsOf_eraseTerm, List.mem_cons]
    tauto

theorem mem_candidates {query : List TermSet} :
    slot ∈ (p.candidates query).toList ↔
      ∃ group ∈ query, ∃ term ∈ group.toList, slot ∈ (p.slotsOf term).toList := by
  have key : ∀ (ts : List String) (found : SlotSet),
      slot ∈ (ts.foldl (fun found term => found.union (p.slotsOf term)) found).toList ↔
        slot ∈ found.toList ∨ ∃ term ∈ ts, slot ∈ (p.slotsOf term).toList := by
    intro ts
    induction ts with
    | nil => simp
    | cons t ts ih =>
      intro found
      rw [List.foldl_cons, ih, OrderedSet.mem_union]
      simp only [List.mem_cons, exists_eq_or_imp]
      tauto
  rw [candidates, key]
  simp only [OrderedSet.empty, List.not_mem_nil, false_or, List.mem_flatMap]
  constructor
  · rintro ⟨term, ⟨group, hg, ht⟩, hs⟩
    exact ⟨group, hg, term, ht, hs⟩
  · rintro ⟨group, hg, term, ht, hs⟩
    exact ⟨term, ⟨group, hg, ht⟩, hs⟩

theorem mem_slotsOf_compact :
    slot ∈ (p.compact.slotsOf term).toList ↔ slot ∈ (p.slotsOf term).toList := by
  simp only [compact, slotsOf, Dict.get?_filter]
  cases p.slots.get? term with
  | none => rfl
  | some slots =>
    rw [Option.filter_some]
    cases h : slots.isEmpty with
    | false => rfl
    | true =>
      have hn : slots.toList = [] := List.isEmpty_iff.1 h
      simp [hn, OrderedSet.empty]

end Postings

end Cardfile
