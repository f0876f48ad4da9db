import Cardfile.Proofs.Runs

/-! # Repeatable reads

A repeatable-read transaction holds fast the value that it has first read of a key, whether by
reading the key or by finding it, and reads and searches go by that value from then on.
-/

namespace Cardfile

variable {x : Indexing} {t u : Transaction Record} {key key' : Key} {value : Staged} {v : View}
  {query : List TermSet} {op : Operation} {a : Answer}

/-- Whether an answer says what is under a key: it was asked for, or it is among the hits. -/
def Operation.Reveals (key : Key) : Operation → Answer → Prop
  | .get asked, _ => asked = key
  | .search _, .ok (.hits hits) => key ∈ hits.map Hit.key
  | _, _ => False

/-- Whether an operation looks at a key. -/
def Operation.looksAt (key : Key) : Operation → Bool
  | .get asked => asked = key
  | .search _ => true
  | _ => false

/-- What a value under a key makes of the answer to a read. A search has a hit for the key exactly
if the value is relevant, and then one with its summary and relevance. -/
def Tells (x : Indexing) (key : Key) (value : Staged) : Operation → Answer → Prop
  | .get _, a => a = .ok (.entry (value.map Card.entry))
  | .search text, a => ∃ hits, a = .ok (.hits hits) ∧ (hits.map Hit.key).Nodup ∧
    ∀ entry score, (key, entry, score) ∈ hits.map Hit.content ↔ ∃ card, value = some card ∧
      card.entry = entry ∧ x.score (x.analyzer.queryGroups text) card = some score
  | _, _ => False

theorem tells_of_answers (h : v.Answers x op a) (hk : op.looksAt key = true) :
    Tells x key (v key) op a := by
  cases op with
  | get asked =>
    obtain rfl : asked = key := of_decide_eq_true hk
    exact h
  | search text =>
    obtain ⟨hits, ha, hh⟩ := h
    exact ⟨hits, ha, hh.once, fun entry score => hh.mem_iff key entry score⟩
  | _ => cases hk

theorem Operation.Reveals.looksAt (h : op.Reveals key a) : op.looksAt key = true := by
  cases op with
  | get asked => exact decide_eq_true h
  | search text => rfl
  | _ => exact h.elim

theorem Operation.isRead_of_looksAt (h : op.looksAt key = true) : op.isRead = true := by
  cases op with
  | get asked => rfl
  | search text => rfl
  | _ => cases h

namespace SharedIndex

variable {i j : SharedIndex} {s s' : Session}

/-- The value that a transaction holds fast for a key: its own write, or what it has read. -/
def fixed? (t : Transaction Record) (key : Key) : Option Staged :=
  (t.ownWrite? key).or (pinned? t key)

section Fixed

theorem fixed?_eq (hl : t.level = .repeatableRead) :
    fixed? t key = (t.ownWrite? key).or ((t.pins.get? key).map Pin.value) := by
  unfold fixed? pinned?
  rw [if_pos hl]

theorem fixed?_pins (hl : t.level = .repeatableRead) (pins : Dict Key (Pin Record)) :
    fixed? { t with pins := pins } key =
      (t.ownWrite? key).or ((pins.get? key).map Pin.value) :=
  fixed?_eq (t := { t with pins := pins }) hl

theorem seen_of_fixed (h : fixed? t key = some value) : i.seen t key = value := by
  rw [seen_eq, get?_overrides, ← Option.or_assoc]
  unfold fixed? at h
  rw [h]
  rfl

theorem get?_overrides_repeatable (hl : t.level = .repeatableRead) :
    (i.overrides t).get? key = fixed? t key := by
  rw [get?_overrides, hl, fixed?]
  simp [Isolation.readsDirty]

theorem fixed?_write_of_ne (h : key ≠ key') :
    fixed? (t.write key value) key' = fixed? t key' := by
  unfold fixed? Transaction.ownWrite?
  have hw : (t.write key value).writes.get? key' = t.writes.get? key' :=
    (Dict.get?_insert ..).trans (if_neg h)
  rw [hw]
  rfl

theorem fixed?_insertNew (hl : t.level = .repeatableRead) (pin : Pin Record)
    (h : fixed? t key = some value) :
    fixed? { t with pins := t.pins.insertNew key' pin } key = some value := by
  rw [fixed?_eq hl] at h
  rw [fixed?_pins hl, ← h, Dict.get?_insertNew]
  cases hp : t.pins.get? key with
  | some p => split <;> rfl
  | none =>
    rw [hp] at h
    cases ho : t.ownWrite? key with
    | some own => rfl
    | none => rw [ho] at h; cases h

theorem remember_repeatable (hl : t.level = .repeatableRead) (i : SharedIndex) (key : Key) :
    i.remember t key =
      if (t.ownWrite? key).isSome then t
      else { t with pins := t.pins.insertNew key ⟨i.store.lastCommit key, i.store.latest? key⟩ } := by
  unfold remember
  rw [hl]

theorem fixed?_remember (hl : t.level = .repeatableRead) (h : fixed? t key = some value) :
    fixed? (i.remember t key') key = some value := by
  rw [remember_repeatable hl]
  split
  · exact h
  · exact fixed?_insertNew hl _ h

/-- A key that has been read is held fast. -/
theorem fixed?_remember_self (hl : t.level = .repeatableRead) :
    fixed? (i.remember t key) key = some (i.seen t key) := by
  cases hf : fixed? t key with
  | some value => rw [fixed?_remember hl hf, seen_of_fixed hf]
  | none =>
    have hs : i.seen t key = i.store.latest? key := by
      rw [seen_eq, get?_overrides_repeatable hl, hf, stored, if_neg (by rw [hl]; decide)]
      rfl
    rw [fixed?_eq hl, Option.or_eq_none_iff] at hf
    obtain ⟨ho, hp⟩ := hf
    rw [remember_repeatable hl, ho, if_neg (by decide), fixed?_pins hl, hs, ho,
      Dict.get?_insertNew, if_pos rfl, Option.map_eq_none_iff.1 hp]
    rfl

theorem level_remember (i : SharedIndex) (t : Transaction Record) (key : Key) :
    (i.remember t key).level = t.level := by
  unfold remember
  split
  · rfl
  · split <;> rfl

end Fixed

section Search

/-- Pins together with those of hits, where a key has none. -/
def pinAll (pins : Dict Key (Pin Record)) (found : List (Hit Record × Pin Record)) :
    Dict Key (Pin Record) :=
  found.foldl (fun pins h => pins.insertNew h.1.key h.2) pins

theorem get?_pinAll (found : List (Hit Record × Pin Record)) (pins : Dict Key (Pin Record)) :
    (pinAll pins found).get? key =
      (pins.get? key).or ((found.find? (·.1.key = key)).map Prod.snd) := by
  induction found generalizing pins with
  | nil => simp [pinAll]
  | cons h rest ih =>
    have hc : pinAll pins (h :: rest) = pinAll (pins.insertNew h.1.key h.2) rest := rfl
    rw [hc, ih, Dict.get?_insertNew, List.find?_cons]
    by_cases hk : h.1.key = key
    · rw [if_pos hk, decide_eq_true hk]
      cases pins.get? key <;> rfl
    · rw [if_neg hk, decide_eq_false hk]

theorem search_repeatable (hl : t.level = .repeatableRead) :
    (i.search t query).2 = { t with pins := pinAll t.pins (i.storedHits t query) } := by
  unfold search rememberSearch
  rw [hl]
  rfl

theorem pins_search (hl : t.level ≠ .repeatableRead) : (i.search t query).2.pins = t.pins := by
  unfold search rememberSearch
  dsimp only
  split
  · next he => exact absurd he hl
  · rfl
  · rfl

theorem fixed?_search (hl : t.level = .repeatableRead) : fixed? (i.search t query).2 key =
    (fixed? t key).or (((i.storedHits t query).find? (·.1.key = key)).map (·.2.value)) := by
  rw [search_repeatable hl, fixed?_pins hl, fixed?_eq hl, get?_pinAll, Option.or_assoc]
  congr 1
  cases t.pins.get? key with
  | some pin => rfl
  | none => rw [Option.none_or, Option.map_map]; rfl

/-- The pin of a hit has the value that is seen. -/
theorem value_of_mem_storedHits {h : Hit Record} {pin : Pin Record}
    (hm : (h, pin) ∈ i.storedHits t query) : pin.value = i.seen t h.key := by
  obtain ⟨key, c, card, hk, -, ho, hcard, hh, rfl⟩ := mem_storedHits.1 hm
  obtain ⟨score, -, rfl⟩ := Indexing.hit?_eq_some_iff.1 hh
  rw [seen_eq, ho, stored_eq, hk]
  exact hcard.symm

/-- A key that has been found is held fast. -/
theorem fixed?_search_of_mem (hl : t.level = .repeatableRead)
    (hm : key ∈ (i.search t query).1.map Hit.key) :
    fixed? (i.search t query).2 key = some (i.seen t key) := by
  rw [fixed?_search hl]
  cases hf : fixed? t key with
  | some value => rw [seen_of_fixed hf]; rfl
  | none =>
    have hp : (i.search t query).1.Perm (i.foundHits t query) := Hit.ranked_perm _
    obtain ⟨h, hh, hk⟩ := List.mem_map.1 ((hp.map Hit.key).mem_iff.1 hm)
    rw [Option.none_or]
    rcases List.mem_append.1 hh with hs | ho
    · obtain ⟨found, hfound, rfl⟩ := List.mem_map.1 hs
      have hsome : ((i.storedHits t query).find? (·.1.key = key)).isSome = true :=
        List.find?_isSome.2 ⟨found, hfound, decide_eq_true hk⟩
      obtain ⟨⟨h₁, pin₁⟩, hfind⟩ := Option.isSome_iff_exists.1 hsome
      have hkey : h₁.key = key := by simpa using List.find?_some hfind
      rw [hfind, ← hkey, ← value_of_mem_storedHits (List.mem_of_find?_eq_some hfind)]
      rfl
    · -- a key among the overridden hits is held fast already
      obtain ⟨key', card, hover, hhit⟩ := mem_overriddenHits.1 ho
      obtain ⟨score, -, rfl⟩ := Indexing.hit?_eq_some_iff.1 hhit
      obtain rfl : key' = key := hk
      rw [get?_overrides_repeatable hl, hf] at hover
      cases hover

theorem level_search (i : SharedIndex) (t : Transaction Record) (query : List TermSet) :
    (i.search t query).2.level = t.level := by
  unfold search rememberSearch
  dsimp only
  split <;> rfl

end Search

section Write

variable {c : Change}

/-- A write leaves other keys held fast, and its own key as well if it fails. -/
theorem fixed?_writeLocked (hf : fixed? t key = some value)
    (hw : key' = key → (i.writeLocked t key' c).1.isOk = false) :
    (i.writeLocked t key' c).2.1.level = t.level ∧
      fixed? (i.writeLocked t key' c).2.1 key = some value := by
  have noted : (i.noted t key' c).level = t.level ∧ fixed? (i.noted t key' c) key = some value := by
    rcases noted_cases i t key' c with he | he
    · rw [he]
      exact ⟨rfl, hf⟩
    · rw [he]
      exact ⟨rfl, hf⟩
  have h := written_writeLocked i t key' c
  generalize i.writeLocked t key' c = r at h hw
  cases h with
  | clash cause => exact ⟨rfl, hf⟩
  | unknown => exact noted
  | staged new =>
    have hne : key' ≠ key := fun e => Bool.noConfusion (hw e)
    exact ⟨noted.1, (fixed?_write_of_ne hne).trans noted.2⟩

end Write

section Steps

/-- The session is in a repeatable-read transaction that holds a value fast for a key. -/
structure Holds (i : SharedIndex) (s : Session) (key : Key) (value : Staged) : Prop where
  sound : i.store.Sound
  bound : ∃ t, i.registry.current? s = some t ∧ t.level = .repeatableRead ∧
    fixed? t key = some value

theorem Holds.seen_eq (h : i.Holds s key value) : i.seen (i.acting s) key = value := by
  obtain ⟨-, t, hc, -, hf⟩ := h
  rw [acting_of_some hc, seen_of_fixed hf]

theorem Holds.moved (h : i.Holds s key value) (hm : i.Moved s' op j) (hne : s ≠ s') :
    j.Holds s key value := by
  obtain ⟨hs, t, hc, hl, hf⟩ := h
  exact ⟨hm.store.sound hs, t, (hm.others s hne).trans hc, hl, hf⟩

/-- Own steps that do not write the key leave it held fast. -/
theorem Holds.step_own (h : i.Holds s key value) (he : op.isEnd = false)
    (hw : op.target? = some key → (i.step s op).1.isOk = false) :
    (i.step s op).2.Holds s key value := by
  obtain ⟨hs, t, hc, hl, hf⟩ := h
  refine ⟨(moved_step i s op).store.sound hs, ?_⟩
  by_cases hd : op.isData = true
  · rcases Operation.isData_cases hd i.indexing with ⟨k, rfl⟩ | ⟨text, rfl⟩ | ⟨k, c, hk, hop⟩
    · rw [step_get_eq, read_bound hc]
      exact ⟨_, current?_bind_self .., (level_remember i t k).trans hl, fixed?_remember hl hf⟩
    · rw [step_search]
      split
      · exact ⟨t, hc, hl, hf⟩
      · rw [read_bound hc]
        refine ⟨_, current?_bind_self .., (level_search i t _).trans hl, ?_⟩
        rw [fixed?_search hl, hf]
        rfl
    · cases c with
      | error e => rw [step_of_change_error hop]; exact ⟨t, hc, hl, hf⟩
      | ok c =>
        rw [step_of_change_ok hop] at hw ⊢
        rcases tried_bound k c hc with ⟨e, -, ht⟩ | ⟨keys, j, -, ht⟩
        · rw [ht]
          exact ⟨t, hc, hl, hf⟩
        · rw [ht] at hw ⊢
          have hk' : k = key → (j.writeLocked { t with locked := keys } k c).1.isOk = false := by
            rintro rfl
            have hfail := hw hk
            cases hr : (j.writeLocked { t with locked := keys } k c).1 with
            | error e => rfl
            | ok _ => rw [hr] at hfail; cases hfail
          obtain ⟨hlevel, hfix⟩ :=
            fixed?_writeLocked (i := j) (t := { t with locked := keys }) (c := c) hf hk'
          exact ⟨_, current?_bind_self .., hlevel.trans hl, hfix⟩
  · exact ⟨t, current?_step hc (Bool.eq_false_iff.2 hd) he, hl, hf⟩

/-- A key that an answer says something about is held fast from then on. -/
theorem holds_of_reveals (hi : i.store.Sound) (hc : i.registry.current? s = some t)
    (hl : t.level = .repeatableRead) (hr : op.Reveals key (i.step s op).1) :
    (i.step s op).2.Holds s key (i.seen t key) := by
  refine ⟨(moved_step i s op).store.sound hi, ?_⟩
  cases op with
  | get asked =>
    obtain rfl : asked = key := hr
    rw [step_get_eq, read_bound hc]
    exact ⟨_, current?_bind_self .., (level_remember i t asked).trans hl, fixed?_remember_self hl⟩
  | search text =>
    rw [step_search] at hr ⊢
    split at hr
    · exact absurd hr List.not_mem_nil
    · rw [read_bound hc] at hr ⊢
      exact ⟨_, current?_bind_self .., (level_search i t _).trans hl, fixed?_search_of_mem hl hr⟩
  | _ => exact hr.elim

end Steps

end SharedIndex

end Cardfile
