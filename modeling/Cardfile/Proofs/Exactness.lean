import Cardfile.Proofs.Chronicle
import Cardfile.Proofs.Scenes
import Cardfile.Proofs.Validation

/-! # Exact validation

A serializable transaction that has written is refused if a commit since its begin has touched what
it wrote, read or searched for, and only then. The commits that count are all of them, whatever
the store has kept.
-/

namespace Cardfile

variable {x : Indexing} {t u : Transaction Record} {f : Footprint} {v : View} {key : Key}
  {value : Staged} {query : List TermSet} {op : Operation} {c : Change} {a : Answer}

/-- Operations that need a card to build on. -/
def Operation.builds : Operation → Bool
  | .update .. | .updateEntry .. | .remove _ => true
  | _ => false

theorem Operation.isData_eq_false (hr : op.isRead = false) (ht : op.target? = none) :
    op.isData = false := by
  cases op with
  | get | search => cases hr
  | add | update | updateEntry | remove => cases ht
  | _ => rfl

theorem Indexing.exists_of_card_map {record entry : Record} {make : Card Record → Change}
    (h : (x.card record entry).map make = .ok c) : ∃ card, c = make card := by
  cases hc : x.card record entry with
  | error e => rw [hc] at h; cases h
  | ok card => rw [hc] at h; cases h; exact ⟨card, rfl⟩

/-- What a session has done in a transaction, as far as others can clash with it: the keys that it
wrote, the keys that it read and the terms that it searched for. -/
structure Footprint where
  staged : List Key
  read : List Key
  terms : List String

namespace Footprint

def empty : Footprint := ⟨[], [], []⟩

/-- A look at a key counts unless the own write is what there is to see. -/
def look (f : Footprint) (key : Key) : Footprint :=
  if key ∈ f.staged then f else { f with read := key :: f.read }

def write (f : Footprint) (key : Key) : Footprint := { f with staged := key :: f.staged }

def find (f : Footprint) (keys : List Key) (query : List TermSet) : Footprint :=
  ⟨f.staged, keys ++ f.read, query.flatMap OrderedSet.toList ++ f.terms⟩

/-- The footprint after an operation has been answered. Who builds on a card looks at the key, even
if there is no card. -/
def after (x : Indexing) (f : Footprint) : Operation → Answer → Footprint
  | .get key, _ => f.look key
  | .search text, .ok (.hits hits) => f.find (hits.map Hit.key) (x.analyzer.queryGroups text)
  | op, .ok _ =>
    match op.target? with
    | some key => (if op.builds then f.look key else f).write key
    | none => f
  | op, .error e =>
    match op.target? with
    | some key => if e.kind = .unknownKey then f.look key else f
    | none => f

/-- The footprint after a step has been answered, or has to wait. -/
def following (x : Indexing) (f : Footprint) (op : Operation) : Progress → Footprint
  | .answered a => f.after x op a
  | .waiting _ => f

/-- The footprint of a session after a move. -/
def during (x : Indexing) (s : Session) (f : Footprint) : Option Event → Footprint
  | some e => if e.session = s then f.after x e.operation e.answer else f
  | none => f

/-- Whether writes that were committed since the contents were `v` touch what is in a footprint: a
key that was written or read, or one that had then or has had since a card with a term that was
searched for. -/
def Clashes (f : Footprint) (v : View) (later : List (Write Record)) : Prop :=
  ∃ key ∈ later.map Prod.fst, key ∈ f.staged ∨ key ∈ f.read ∨
    ∃ card, (v key = some card ∨ (key, some card) ∈ later) ∧
      ∃ term ∈ card.terms.toList, term ∈ f.terms

/-- Whether a key had, or has had since, a card with a term that was searched for. -/
def Finds (f : Footprint) (v : View) (later : List (Write Record)) (key : Key) : Prop :=
  ∃ card, (v key = some card ∨ (key, some card) ∈ later) ∧
    ∃ term ∈ card.terms.toList, term ∈ f.terms

theorem after_of_target?_eq_none (hr : op.isRead = false) (ht : op.target? = none) :
    f.after x op a = f := by
  cases op with
  | get | search => cases hr
  | add | update | updateEntry | remove => cases ht
  | _ => cases a <;> rfl

/-- The footprint after an answer to a change. -/
def changed (f : Footprint) (key : Key) (c : Change) : Except Error Unit → Footprint
  | .ok _ =>
    match c with
    | .add _ => f.write key
    | _ => (f.look key).write key
  | .error e => if e.kind = .unknownKey then f.look key else f

theorem after_change {y : Indexing} (hop : op.change? y = some (key, .ok c))
    (r : Except Error Unit) : f.after x op (r.map fun _ => .done) = f.changed key c r := by
  cases op with
  | add =>
    obtain ⟨rfl, h⟩ := Prod.ext_iff.1 (Option.some.inj hop)
    obtain ⟨card, rfl⟩ := Indexing.exists_of_card_map h
    cases r <;> rfl
  | update =>
    obtain ⟨rfl, h⟩ := Prod.ext_iff.1 (Option.some.inj hop)
    obtain ⟨card, rfl⟩ := Indexing.exists_of_card_map h
    cases r <;> rfl
  | updateEntry =>
    obtain ⟨rfl, h⟩ := Prod.ext_iff.1 (Option.some.inj hop)
    cases h
    cases r <;> rfl
  | remove =>
    obtain ⟨rfl, h⟩ := Prod.ext_iff.1 (Option.some.inj hop)
    cases h
    cases r <;> rfl
  | _ => cases hop

theorem after_refused {y : Indexing} {p : Key × Except Error Change} {e : Error}
    (hop : op.change? y = some p) (he : e.kind ≠ .unknownKey) : f.after x op (.error e) = f := by
  cases op with
  | add | update | updateEntry | remove => exact if_neg he
  | _ => cases hop

end Footprint

/-- What a transaction keeps in mind is the footprint of its session. -/
structure Recalls (t : Transaction Record) (f : Footprint) : Prop where
  staged : ∀ key, key ∈ f.staged ↔ ∃ own, t.ownWrite? key = some own
  read : ∀ key, key ∈ f.read ↔ key ∈ t.reads.toList
  terms : ∀ term, term ∈ f.terms ↔ term ∈ (SharedIndex.searched t).toList

section Recalls

theorem recalls_begun (id : TxId) (level : Isolation) (start : Stamp) :
    Recalls (.begun id level start) .empty := by
  refine ⟨fun key => ?_, fun key => ?_, fun term => ?_⟩
  · exact ⟨fun h => absurd h List.not_mem_nil, fun ⟨_, h⟩ => by cases h⟩
  · exact ⟨fun h => absurd h List.not_mem_nil, fun h => absurd h List.not_mem_nil⟩
  · exact ⟨fun h => absurd h List.not_mem_nil, fun h => absurd h List.not_mem_nil⟩

theorem Recalls.locked (h : Recalls t f) (keys : List Key) :
    Recalls { t with locked := keys } f :=
  ⟨h.staged, h.read, h.terms⟩

theorem Recalls.write (h : Recalls t f) (key : Key) (value : Staged) :
    Recalls (t.write key value) (f.write key) := by
  refine ⟨fun key' => ?_, h.read, h.terms⟩
  rw [Transaction.ownWrite?_write]
  by_cases hk : key = key'
  · subst hk
    rw [if_pos rfl]
    exact ⟨fun _ => ⟨value, rfl⟩, fun _ => List.mem_cons_self⟩
  · rw [if_neg hk, ← h.staged key']
    exact List.mem_cons.trans (or_iff_right fun e => hk e.symm)

theorem Recalls.look (h : Recalls t f) (hl : t.level = .serializable) (i : SharedIndex)
    (key : Key) : Recalls (i.remember t key) (f.look key) := by
  unfold SharedIndex.remember Footprint.look
  by_cases hk : key ∈ f.staged
  · obtain ⟨own, ho⟩ := (h.staged key).1 hk
    rw [if_pos hk, ho]
    exact h
  · have ho : t.ownWrite? key = none := by
      rw [Option.eq_none_iff_forall_ne_some]
      exact fun own ho => hk ((h.staged key).2 ⟨own, ho⟩)
    rw [if_neg hk, ho, if_neg (by decide), hl]
    refine ⟨h.staged, fun key' => ?_, h.terms⟩
    rw [OrderedSet.mem_insert, List.mem_cons, h.read]

theorem Recalls.find (h : Recalls t f) (hl : t.level = .serializable) (i : SharedIndex)
    (query : List TermSet) :
    Recalls (i.search t query).2 (f.find ((i.search t query).1.map Hit.key) query) := by
  have hu : (i.search t query).2 = _ := SharedIndex.rememberSearch_serializable hl
    (i.storedHits t query) (i.foundHits t query)
  have hp : (i.search t query).1.Perm (i.foundHits t query) := Hit.ranked_perm _
  rw [hu]
  refine ⟨h.staged, fun key => ?_, fun term => ?_⟩
  · rw [OrderedSet.mem_insertAll, ← h.read, ← (hp.map Hit.key).mem_iff]
    exact List.mem_append
  · have ht := h.terms term
    unfold SharedIndex.searched at ht ⊢
    rw [OrderedSet.mem_ofList] at ht ⊢
    dsimp only [Footprint.find]
    rw [List.flatten_append, List.flatMap_append, List.mem_append, List.mem_append, ht, or_comm]
    simp

theorem Recalls.noted (h : Recalls t f) (hl : t.level = .serializable) (i : SharedIndex)
    (key : Key) (c : Change) : Recalls (i.noted t key c)
      (match c with
        | .add _ => f
        | _ => f.look key) := by
  have base : Recalls (i.rememberBase t key) (f.look key) := by
    unfold SharedIndex.rememberBase
    rw [if_pos hl]
    exact h.look hl i key
  cases c with
  | add card => exact h
  | _ => exact base

end Recalls

namespace SharedIndex

variable {i j : SharedIndex} {s s' : Session} {later : List (Write Record)}
  {c? : Option (Key × Change)} {r : Progress × SharedIndex}

theorem recalls_writeLocked (h : Recalls t f) (hl : t.level = .serializable) (i : SharedIndex)
    (key : Key) (c : Change) :
    Recalls (i.writeLocked t key c).2.1 (f.changed key c (i.writeLocked t key c).1) := by
  by_cases hs : i.store.lastCommit key ≤ t.start
  · have hn := h.noted hl i key c
    rw [writeLocked_eq (by rw [hl]; decide) fun _ => hs]
    cases hc : c.onto key (i.ground t key) with
    | error e =>
      obtain ⟨hk, hne⟩ := Change.kind_of_onto hc
      have hf : f.changed key c (.error e) = f.look key := if_pos hk
      dsimp only
      rw [hf]
      cases c with
      | add card => exact absurd rfl (hne card)
      | _ => exact hn
    | ok value => cases c <;> exact hn.write key value
  · have hc : i.writeLocked t key c = (.error (.clash (.changedSinceStart key)), t, i) := by
      unfold writeLocked
      rw [if_pos (by simpa [hl] using hs)]
    rw [hc]
    exact h

/-- The transaction of a session goes on after a move and recalls the footprint that the answer
tells of. -/
def Carries (s : Session) (t : Transaction Record) (f : Footprint) (x : Indexing) (op : Operation)
    (r : Progress × SharedIndex) : Prop :=
  ∃ u, r.2.registry.current? s = some u ∧ t.Goes u ∧ Recalls u (f.following x op r.1)

theorem carries_get (hc : i.registry.current? s = some t) (hl : t.level = .serializable)
    (hf : Recalls t f) (key : Key) : Carries s t f x (.get key) (i.start s (.get key)) := by
  have hstart : i.start s (.get key) = (.answered (.ok (.entry (i.get t key).1)),
      i.bind s (i.remember t key)) := by
    simp only [start, read_bound hc]
    rfl
  have hgoes := reads_remember i t key
  rw [hstart]
  exact ⟨_, current?_bind_self .., ⟨hgoes.level, hgoes.start⟩, hf.look hl i key⟩

theorem carries_search (hc : i.registry.current? s = some t) (hl : t.level = .serializable)
    (hf : Recalls t f) (text : String) :
    Carries s t f i.indexing (.search text) (i.start s (.search text)) := by
  unfold Carries
  simp only [start, searchText]
  split
  · next hq =>
    refine ⟨t, hc, ⟨rfl, rfl⟩, ?_⟩
    have hnone : f.following i.indexing (.search text) (.answered (.ok (.hits []))) =
        f.find [] (i.indexing.analyzer.queryGroups text) := rfl
    rw [hnone, hq]
    exact hf
  · have hgoes := reads_search i t (i.indexing.analyzer.queryGroups text)
    rw [read_bound hc]
    exact ⟨_, current?_bind_self .., ⟨hgoes.level, hgoes.start⟩, hf.find hl i _⟩

/-- Operations on no cards leave no footprint. -/
theorem carries_plain (hc : i.registry.current? s = some t) (hf : Recalls t f)
    (hop : op.change? i.indexing = none) (hr : op.isRead = false) (he : op.isEnd = false) :
    Carries s t f x op (i.start s op) := by
  have ht : op.target? = none := by rw [op.target?_eq i.indexing, hop]; rfl
  obtain ⟨a, ha⟩ := start_of_change_none (s := s) hop
  have hstep : (i.step s op).2 = (i.start s op).2 :=
    congrArg Prod.snd (step_of_answered (Prod.ext ha rfl))
  have hown := current?_step hc (Operation.isData_eq_false hr ht) he
  refine ⟨t, hstep ▸ hown, ⟨rfl, rfl⟩, ?_⟩
  rw [ha]
  dsimp only [Footprint.following]
  rw [Footprint.after_of_target?_eq_none hr ht]
  exact hf

theorem carries_writeBound (hc : i.registry.current? s = some t) (hl : t.level = .serializable)
    (hf : Recalls t f) {y : Indexing} (hop : op.change? y = some (key, .ok c)) :
    Carries s t f x op (i.writeBound t s key c) := by
  unfold writeBound
  cases hw : i.write t key c with
  | error holder => exact ⟨t, hc, ⟨rfl, rfl⟩, hf⟩
  | ok r =>
    obtain ⟨keys, j, hj, rfl⟩ := write_ok hw
    have hgoes := goes_writeLocked j { t with locked := keys } key c
    refine ⟨_, current?_bind_self .., ⟨hgoes.level, hgoes.start⟩, ?_⟩
    dsimp only [Footprint.following]
    rw [Footprint.after_change hop]
    exact recalls_writeLocked (hf.locked keys) hl j key c

/-- A move of a session in a serializable transaction leaves it the footprint that its answer
tells of. -/
theorem Deed.carries (h : i.Deed s op c? r) (hc : i.registry.current? s = some t)
    (hl : t.level = .serializable) (he : op.isEnd = false) (hf : Recalls t f) :
    Carries s t f i.indexing op r := by
  cases h with
  | plain hop =>
    cases op with
    | get key => exact carries_get hc hl hf key
    | search text => exact carries_search hc hl hf text
    | _ => exact carries_plain hc hf hop rfl he
  | refused e hop hk =>
    refine ⟨t, hc, ⟨rfl, rfl⟩, ?_⟩
    dsimp only [Footprint.following]
    rw [Footprint.after_refused hop hk]
    exact hf
  | bound hop hc' =>
    cases hc.symm.trans hc'
    exact carries_writeBound hc hl hf hop
  | alone _ _ _ hn =>
    rw [hc] at hn
    cases hn

section Clash

theorem commit_of_serializable (hl : t.level = .serializable) (hr : t.isReadOnly = false)
    (i : SharedIndex) :
    i.commit t =
      match i.clash? t with
      | some c => (.error (.clash c), i.close t)
      | none => (.ok (), (i.publish t).close t) := by
  unfold commit
  rw [hl, hr]
  rfl

theorem isChanged_iff (hd : i.store.Dated) (hlater : i.store.Chronicle t.start later) :
    i.isChanged t key = true ↔ key ∈ later.map Prod.fst := by
  unfold isChanged
  rw [decide_eq_true_iff, hlater.mem_keys_iff hd]

/-- The check of keys finds a commit to a key that was written or read. -/
theorem find?_isChanged_isSome_iff (hd : i.store.Dated)
    (hlater : i.store.Chronicle t.start later) (hf : Recalls t f) :
    ((i.checkedKeys t).find? (i.isChanged t)).isSome = true ↔
        ∃ key ∈ later.map Prod.fst, key ∈ f.staged ∨ key ∈ f.read := by
  simp only [checkedKeys, List.find?_isSome, List.mem_append, KeyOrder.mem_arrange,
    isChanged_iff hd hlater, hf.staged, hf.read, Dict.mem_keys_iff]
  constructor
  · rintro ⟨key, hk, hc⟩
    exact ⟨key, hc, hk.symm⟩
  · rintro ⟨key, hc, hk⟩
    exact ⟨key, hk.symm, hc⟩

/-- The slots written to since the start have a term that was searched for if one of their keys has
had one. -/
theorem exists_meets_iff (hs : i.store.Sound) (hd : i.store.Dated) (ha : i.Anchored t v)
    (hlater : i.store.Chronicle t.start later) (hf : Recalls t f) :
    (∃ slot ∈ (i.store.committedAfter t.start).toList,
      (i.store.termsSince slot t.start).meets (searched t) = true) ↔
        ∃ key ∈ later.map Prod.fst, f.Finds v later key := by
  have hterms := hlater.terms_iff hs hd ha.logged
  simp only [ha.snapshot] at hterms
  simp only [OrderedSet.meets_iff, Footprint.Finds, hf.terms]
  constructor
  · rintro ⟨slot, hslot, term, hm, hsearch⟩
    obtain ⟨key, hk, card, hcard, ht⟩ := (hterms term).1 ⟨slot, hslot, hm⟩
    exact ⟨key, hk, card, hcard, term, ht, hsearch⟩
  · rintro ⟨key, hk, card, hcard, term, ht, hsearch⟩
    obtain ⟨slot, hslot, hm⟩ := (hterms term).2 ⟨key, hk, card, hcard, ht⟩
    exact ⟨slot, hslot, term, hm, hsearch⟩

theorem not_meets_of_searches (h : t.searches = []) (terms : TermSet) :
    terms.meets (searched t) = false := by
  have hnone : searched t = .ofList [] := by
    unfold searched
    rw [h]
    rfl
  refine Bool.eq_false_iff.2 fun hm => ?_
  obtain ⟨term, -, ht⟩ := OrderedSet.meets_iff.1 hm
  rw [hnone, OrderedSet.mem_ofList] at ht
  cases ht

/-- The check before a commit finds a key that has changed or a slot with a term that was searched
for. -/
theorem clash?_isSome (i : SharedIndex) (t : Transaction Record) :
    (i.clash? t).isSome = true ↔
      ((i.checkedKeys t).find? (i.isChanged t)).isSome = true ∨
      ∃ slot ∈ (i.store.committedAfter t.start).toList,
        (i.store.termsSince slot t.start).meets (searched t) = true := by
  unfold clash?
  split
  · next key hkey => simp [hkey]
  · next hkey =>
    rw [hkey]
    split
    · next hempty => simp [not_meets_of_searches (List.isEmpty_iff.1 hempty)]
    · simp only [Option.isSome_none, Bool.false_eq_true, false_or, List.findSome?_isSome_iff]
      refine exists_congr fun slot => and_congr_right fun _ => ?_
      split <;> simp_all

/-- The check before a commit finds exactly the clashes with the commits since the start. -/
theorem clash?_isSome_iff (hs : i.store.Sound) (hd : i.store.Dated) (ha : i.Anchored t v)
    (hlater : i.store.Chronicle t.start later) (hf : Recalls t f) :
    (i.clash? t).isSome = true ↔ f.Clashes v later := by
  have hclashes : f.Clashes v later ↔
      (∃ key ∈ later.map Prod.fst, key ∈ f.staged ∨ key ∈ f.read) ∨
        ∃ key ∈ later.map Prod.fst, f.Finds v later key := by
    unfold Footprint.Clashes Footprint.Finds
    simp only [← exists_or, ← and_or_left, or_assoc]
  rw [clash?_isSome, find?_isChanged_isSome_iff hd hlater hf, exists_meets_iff hs hd ha hlater hf,
    hclashes]

end Clash

end SharedIndex

namespace Scene

variable {x : Scene} {s : Session} {m : Move} {moves during : List Move}
  {later : List (Write Record)} {id : TxId}

/-- The footprint of a session after some moves. -/
def footprint (s : Session) (x : Scene) (f : Footprint) : List Move → Footprint
  | [] => f
  | m :: rest => (x.take m).2.footprint s (f.during x.index.indexing s (x.take m).1) rest

/-- The session is in a serializable transaction that began when the contents were `v`. It has left
the footprint `f` since, while `later` was committed. -/
structure Underway (x : Scene) (s : Session) (v : View) (f : Footprint)
    (later : List (Write Record)) : Prop where
  tidy : x.Tidy
  bound : ∃ t, x.index.registry.current? s = some t ∧ t.level = .serializable ∧
    x.index.Anchored t v ∧ x.index.store.Chronicle t.start later ∧ Recalls t f

section Underway

theorem during_settle (x : Scene) (y : Indexing) (s : Session) (op : Operation)
    (r : Progress × SharedIndex) (f : Footprint) :
    f.during y s (x.settle s op r).1 = f.following y op r.1 := by
  obtain ⟨a | w, i⟩ := r
  · exact if_pos rfl
  · rfl

theorem during_settle_of_ne {s' : Session} (hs : s' ≠ s) (x : Scene) (y : Indexing)
    (op : Operation) (r : Progress × SharedIndex) (f : Footprint) :
    f.during y s (x.settle s' op r).1 = f := by
  obtain ⟨a | w, i⟩ := r
  · exact if_neg hs
  · rfl

theorem Underway.take (h : x.Underway s v f later) (hm : m.ends s = false) :
    (x.take m).2.Underway s v (f.during x.index.indexing s (x.take m).1)
      (later ++ x.batch m) := by
  obtain ⟨t, hc, hl, ha, hlater, hf⟩ := h.bound
  have hchronicle := (h.tidy.publishes m).chronicle h.tidy.dated hc le_rfl ha.start_le hlater
  refine ⟨h.tidy.take m, ?_⟩
  rcases h.tidy.take_cases m with ⟨-, ht, hb⟩ | ⟨s', op, r, hend, hd, ht, -⟩
  · rw [ht, hb, List.append_nil]
    exact h.bound
  · have hanchored := ha.moved hc hd.moved
    rw [ht, index_settle] at hchronicle ⊢
    by_cases hs : s' = s
    · subst hs
      obtain ⟨u, hu, hgoes, hrec⟩ := hd.carries hc hl (hend hm) hf
      rw [during_settle]
      exact ⟨u, hu, hgoes.level.trans hl, hanchored.goes hgoes, hgoes.start ▸ hchronicle, hrec⟩
    · rw [during_settle_of_ne hs]
      exact ⟨t, (hd.moved.others s fun e => hs e.symm).trans hc, hl, hanchored, hchronicle, hf⟩

theorem Underway.after (h : x.Underway s v f later) (hm : ∀ m ∈ moves, m.ends s = false) :
    (x.after moves).Underway s v (x.footprint s f moves) (later ++ x.written moves) := by
  induction moves generalizing x f later with
  | nil =>
    rw [written, List.append_nil]
    exact h
  | cons m rest ih =>
    obtain ⟨hfirst, hrest⟩ := List.forall_mem_cons.1 hm
    rw [written, ← List.append_assoc]
    exact ih (h.take hfirst) hrest

theorem turn?_start (hw : x.waiting.get? s = none) (op : Operation) :
    x.turn? (.start s op) = some ((s, op), x.index.start s op) := by
  have hc : x.waiting.contains s = false := by
    unfold Dict.contains
    rw [hw]
    rfl
  exact if_neg (by rw [hc]; decide)

theorem waiting_of_event {e : Event} (h : (x.take (.start s op)).1 = some e) :
    x.waiting.get? s = none := by
  cases hw : x.waiting.get? s with
  | none => rfl
  | some w =>
    have hc : x.waiting.contains s = true := Dict.contains_iff.2 ⟨w, hw⟩
    have hn : x.turn? (.start s op) = none := if_pos hc
    rw [take_of_none hn] at h
    cases h

/-- Who has been told that a transaction began has one from then on, under the next number. -/
theorem index_of_begun (hb : (x.take (.start s .begin)).1 = some ⟨s, .begin, .ok (.started id)⟩) :
    id = x.index.registry.nextId ∧ (x.take (.start s .begin)).2.index =
      { x.index with registry := x.index.registry.takeId.2.bind s x.index.opened } := by
  have hw := waiting_of_event hb
  have hstart : x.index.start s .begin = SharedIndex.answered (x.index.step s .begin) := rfl
  rw [take_of_some (turn?_start hw .begin), hstart] at hb ⊢
  have hanswer : (x.index.step s .begin).1 = .ok (.started id) :=
    congrArg Event.answer (Option.some.inj hb)
  rw [index_settle]
  cases hc : x.index.registry.current? s with
  | some t =>
    obtain ⟨e, he⟩ := SharedIndex.step_begin_bound hc
    rw [he] at hanswer
    cases hanswer
  | none =>
    by_cases hm : x.index.mode = .none
    · have hstep : x.index.step s .begin = (.error .ungrouped, x.index) := if_pos hm
      rw [hstep] at hanswer
      cases hanswer
    · rw [SharedIndex.step_begin hm hc] at hanswer ⊢
      cases hanswer
      exact ⟨rfl, rfl⟩

theorem underway_begin (h : x.Tidy) (hm : x.index.mode = .serializable)
    (hb : (x.take (.start s .begin)).1 = some ⟨s, .begin, .ok (.started id)⟩) :
    (x.take (.start s .begin)).2.Underway s x.index.store.latest? .empty [] := by
  have hi := (index_of_begun hb).2
  refine ⟨h.take _, x.index.opened, ?_⟩
  rw [hi]
  exact ⟨Registry.current?_bind.trans (if_pos rfl), hm, SharedIndex.anchored_clock h.sound rfl,
    h.dated.chronicle_clock h.sound, recalls_begun ..⟩

/-- A serializable transaction that has written is committed unless a commit since its begin
clashes with what it has done, and in that case it is refused. -/
theorem commit_refused_iff_clash (o : KeyOrder) (p : Index) (mode : Isolation) {before : List Move}
    (hm : ((opening o p mode).after before).index.mode = .serializable)
    (hb : (((opening o p mode).after before).take (.start s .begin)).1 =
      some ⟨s, .begin, .ok (.started id)⟩)
    (hd : ∀ m ∈ during, m.ends s = false) :
    let x := (opening o p mode).after before
    let y := (x.take (.start s .begin)).2
    let z := y.after during
    let f := y.footprint s .empty during
    z.waiting.get? s = none → f.staged ≠ [] →
      ∃ a, (z.take (.start s .commit)).1 = some ⟨s, .commit, a⟩ ∧
        ((∃ e, a = .error e ∧ e.kind = .serializationFailure) ↔
          f.Clashes x.index.store.latest? (y.written during)) ∧
        (¬ f.Clashes x.index.store.latest? (y.written during) → a = .ok .done) := by
  intro x y z f hw hs
  have hx : x.Tidy := (tidy_opening o p mode).after before
  obtain ⟨hz, t, hc, hl, ha, hlater, hf⟩ := (underway_begin hx hm hb).after hd
  have hwrites : t.isReadOnly = false := by
    obtain ⟨key, hkey⟩ := List.exists_mem_of_ne_nil _ hs
    obtain ⟨own, ho⟩ := (hf.staged key).1 hkey
    refine Bool.eq_false_iff.2 fun hr => ?_
    have hnone := Dict.isEmpty_iff.1 hr key
    rw [Transaction.ownWrite?, hnone] at ho
    cases ho
  have hclash := SharedIndex.clash?_isSome_iff hz.sound hz.dated ha hlater hf
  have hcommit : z.index.commitSession s =
      SharedIndex.done ((z.index.left s).commit t) :=
    SharedIndex.commitSession_of_some hc (hz.index.holdings.active hc)
  rw [SharedIndex.commit_of_serializable hl hwrites] at hcommit
  refine ⟨(z.index.commitSession s).1, ?_, ?_⟩
  · rw [take_of_some (turn?_start hw .commit), event_settle]
    rfl
  · rw [hcommit, ← List.nil_append (y.written during), ← hclash]
    have hsame : (z.index.left s).clash? t = z.index.clash? t := rfl
    rw [hsame]
    cases z.index.clash? t with
    | some c =>
      exact ⟨⟨fun _ => rfl, fun _ => ⟨_, rfl, rfl⟩⟩, fun h => absurd rfl h⟩
    | none =>
      exact ⟨⟨fun ⟨e, he, _⟩ => (by cases he), fun h => (by cases h)⟩, fun _ => rfl⟩

theorem commit_refused_iff_clash_of_read :
    let card : Card Record := ⟨⟨.empty, none⟩, ⟨"note", [], .empty⟩⟩
    let p := ((Index.ofIndexing .usual).store "k" card).store "l" card
    let during := [Move.start "a" (.get "l"), .start "a" (.remove "k"), .start "b" (.remove "k"),
      .start "c" (.remove "l"), .giveUp "b", .start "c" .cleanup]
    let x := (opening .given p .serializable).after []
    let y := (x.take (.start "a" .begin)).2
    let z := y.after during
    let f := y.footprint "a" .empty during
    x.index.mode = .serializable ∧
      (x.take (.start "a" .begin)).1 = some ⟨"a", .begin, .ok (.started 1)⟩ ∧
      (∀ m ∈ during, m.ends "a" = false) ∧ z.waiting.get? "a" = none ∧ f.staged ≠ [] ∧
      f.Clashes x.index.store.latest? (y.written during) ∧
      ∃ a, (z.take (.start "a" .commit)).1 = some ⟨"a", .commit, a⟩ ∧
        ((∃ e, a = .error e ∧ e.kind = .serializationFailure) ↔
          f.Clashes x.index.store.latest? (y.written during)) ∧
        (¬ f.Clashes x.index.store.latest? (y.written during) → a = .ok .done) := by
  refine ⟨rfl, rfl, by decide, Option.isNone_iff_eq_none.1 (by decide +kernel),
    by decide +kernel, ⟨"l", by decide +kernel, .inr (.inl (by decide +kernel))⟩, ?_⟩
  exact commit_refused_iff_clash .given _ .serializable rfl rfl (by decide)
    (Option.isNone_iff_eq_none.1 (by decide +kernel)) (by decide +kernel)

end Underway

end Scene

end Cardfile
