import Cardfile.Proofs.Cleanup

/-! # The order of arrival

A store gives a key the next slot when its first write is committed. As long as no key is removed
none is forgotten, so equally relevant hits stand in the order in which their keys have come in.
Keys that come with one commit stand as that commit arranges them, whatever the order in which its
transaction has written them.
-/

namespace Cardfile

namespace VersionStore

variable {ε : Type} {a : VersionStore ε} {keys : List Key} {key key' : Key} {n : Slot}
  {w : Write ε} {ws : List (Write ε)}

/-- The keys of a store are those of a list, and their slots increase with the places where the list
names them first. -/
structure Arrived (a : VersionStore ε) (keys : List Key) : Prop where
  placed : ∀ key, (∃ n, a.slotOf? key = some n) ↔ key ∈ keys
  before : ∀ {key key' m n}, a.slotOf? key = some m → a.slotOf? key' = some n →
    keys.idxOf key < keys.idxOf key' → m < n

theorem arrived_empty : (empty : VersionStore ε).Arrived [] := by
  constructor
  · simp [slotOf?, chain?, empty]
  · intro key key' m n hm
    cases hm

theorem slotOf?_put_of_some (h : a.slotOf? key = some n) :
    (a.put w).slotOf? key = some n := by
  rw [slotOf?_put, h]
  split <;> rfl

theorem Arrived.put (h : a.Arrived keys) (ha : a.Sound) (w : Write ε) :
    (a.put w).Arrived (keys ++ [w.1]) := by
  constructor
  · intro key
    rw [slotOf?_put, List.mem_append, List.mem_singleton, ← h.placed]
    by_cases hk : w.1 = key
    · simp [hk]
    · simp [hk, Ne.symm hk]
  · intro key key' m n hm hn hlt
    cases hn' : a.slotOf? key' with
    | none =>
      -- the second key is new, so the first one is not
      rw [slotOf?_put, hn'] at hn
      split at hn
      · next hw =>
        subst hw
        cases hn
        rw [slotOf?_put, if_neg (by rintro rfl; exact Nat.lt_irrefl _ hlt)] at hm
        exact ha.slotOf?_lt hm
      · cases hn
    | some n' =>
      have hold' : key' ∈ keys := (h.placed key').1 ⟨n', hn'⟩
      cases (slotOf?_put_of_some hn').symm.trans hn
      rw [List.idxOf_append_of_mem hold'] at hlt
      have hold : key ∈ keys := by
        by_contra hnew
        have hlast := List.idxOf_lt_length_of_mem hold'
        rw [List.idxOf_append_of_notMem hnew] at hlt
        omega
      obtain ⟨m', hm'⟩ := (h.placed key).2 hold
      cases (slotOf?_put_of_some hm').symm.trans hm
      rw [List.idxOf_append_of_mem hold] at hlt
      exact h.before hm' hn' hlt

theorem Arrived.puts (h : a.Arrived keys) (ha : a.Sound) (ws : List (Write ε)) :
    (ws.foldl VersionStore.put a).Arrived (keys ++ ws.map Prod.fst) := by
  induction ws generalizing a keys with
  | nil => simpa using h
  | cons w ws ih => simpa using ih (h.put ha w) (ha.put w)

theorem Arrived.apply (h : a.Arrived keys) (ha : a.Sound) (ws : List (Write ε)) :
    (a.apply ws).Arrived (keys ++ ws.map Prod.fst) := by
  have htick : Arrived { a with clock := a.clock + 1 } keys := ⟨h.placed, h.before⟩
  have hputs := htick.puts ha.tick ws
  exact ⟨hputs.placed, hputs.before⟩

/-- Where every key is live, pruning forgets none. -/
theorem Arrived.pruned (h : a.Arrived keys) (hl : a.Lives fun _ => True) (time : Stamp) :
    (a.pruned time).Arrived keys := by
  have hslot : (a.pruned time).slotOf? = a.slotOf? := by
    funext key
    cases hn : a.slotOf? key with
    | some n => exact (slotOf?_pruned (hl key trivial (by rw [hn]; rfl))).trans hn
    | none =>
      have hc : a.chain? key = none := Option.map_eq_none_iff.1 hn
      simp [slotOf?, chain?_pruned, hc]
  constructor
  · rw [hslot]
    exact h.placed
  · rw [hslot]
    exact h.before

end VersionStore

variable {i j : SharedIndex} {s s' : Session} {t u : Transaction Record} {key : Key}
  {c : Change} {c? : Option (Key × Change)} {op : Operation} {w : Waiting} {x : Scene} {m : Move}
  {r : Progress × SharedIndex} {moves : List Move} {keys : List Key}

namespace SharedIndex

section Search

/-- Of equally relevant hits one that is committed stands behind those that came in before it. -/
theorem search_in_order (h : i.store.Arrived keys) (hs : i.store.Sound) (t : Transaction Record)
    (query : List TermSet) :
    (i.search t query).1.Pairwise fun a b =>
      a.score = b.score → b.key ∈ keys → keys.idxOf a.key < keys.idxOf b.key := by
  have hne : (i.search t query).1.Pairwise fun a b => a.key ≠ b.key :=
    List.pairwise_map.1 (hitsIn_search hs t query).once
  have hprec : (i.search t query).1.Pairwise fun a b => a.precedes b = true :=
    Hit.pairwise_precedes (i.foundHits t query)
  refine (hne.and hprec).imp_of_mem fun {a b} ha hb ⟨hne, hab⟩ hscore hkey => ?_
  have hfirst := (Hit.precedes_iff.1 hab).2 (by rw [hscore]; exact Relevance.le_iff.2 (by omega))
  obtain ⟨n, hn⟩ := (h.placed b.key).2 hkey
  rw [sequence_of_mem_search ha, sequence_of_mem_search hb, hn] at hfirst
  cases hm : i.store.slotOf? a.key with
  | none => rw [hm] at hfirst; cases hfirst
  | some m =>
    rw [hm] at hfirst
    have hle : m ≤ n := of_decide_eq_true hfirst
    by_contra hlt
    have hdiff : keys.idxOf a.key ≠ keys.idxOf b.key := fun he =>
      hne ((List.idxOf_inj ((h.placed a.key).1 ⟨m, hm⟩)).1 he)
    have hback := h.before hn hm (by omega)
    exact absurd hle (Nat.not_le_of_lt hback)

/-- The hits that a session is answered are those that its transaction finds. -/
theorem step_search_cases (i : SharedIndex) (s : Session) (query : String) :
    i.indexing.analyzer.queryGroups query = [] ∧
        (i.step s (.search query)).1 = .ok (.hits []) ∨
      (i.step s (.search query)).1 = .ok (.hits
        (i.search (i.acting s) (i.indexing.analyzer.queryGroups query)).1) := by
  rw [step_search]
  split
  · next hq => exact .inl ⟨hq, rfl⟩
  · refine .inr ?_
    cases hc : i.registry.current? s with
    | some t => rw [acting_of_some hc, read_bound hc]
    | none =>
      rw [acting_of_none hc, read_single hc]
      rfl

theorem arrived_ofIndex (o : KeyOrder) (p : Index) : (ofIndex o p).store.Arrived p.cards.keys := by
  have hkeys : (p.cards.entries.map fun e => ((e.1, some e.2.card) : Write Record)).map Prod.fst =
      p.cards.keys := by
    rw [List.map_map]
    rfl
  rw [← hkeys]
  unfold ofIndex
  dsimp only
  split
  · next he =>
    rw [List.isEmpty_iff.1 he]
    exact VersionStore.arrived_empty
  · exact VersionStore.arrived_empty.apply VersionStore.sound_empty _

end Search

section Removal

/-- A write that does not remove its key leaves a card there. -/
theorem ownWrite?_writeLocked (hc : c ≠ .remove)
    (ht : ∀ key, t.ownWrite? key ≠ some none) (key key' : Key) :
    (i.writeLocked t key c).2.1.ownWrite? key' ≠ some none := by
  have staged : ∀ {u : Transaction Record} (card : Card Record), t.Reads u →
      (i.stage u key (some card)).1.ownWrite? key' ≠ some none := by
    intro u card hu
    rw [stage, Transaction.ownWrite?_write]
    split
    · simp
    · rw [Transaction.ownWrite?, hu.writes]
      exact ht key'
  have read : ∀ {u : Transaction Record}, t.Reads u → u.ownWrite? key' ≠ some none := by
    intro u hu
    rw [Transaction.ownWrite?, hu.writes]
    exact ht key'
  have hread := reads_rememberBase i t key
  unfold writeLocked
  split
  · exact ht key'
  · cases c with
    | remove => exact absurd rfl hc
    | add card => exact staged card (.refl t)
    | update | updateEntry =>
      dsimp only
      split
      · exact ht key'
      · exact read hread
      · exact staged _ hread

/-- Where no transaction has removed a key and none does in this move, none has removed one
afterwards. -/
theorem Deed.ownWrite?_ne (h : i.Deed s op c? r)
    (hc? : ∀ key c, c? = some (key, c) → c ≠ .remove)
    (hi : ∀ {s t} key, i.registry.current? s = some t → t.ownWrite? key ≠ some none)
    (hu : r.2.registry.current? s' = some u) (key : Key) : u.ownWrite? key ≠ some none := by
  have reads : ∀ {t}, i.registry.current? s' = some t → t.Reads u →
      u.ownWrite? key ≠ some none := by
    intro t ht hr
    rw [Transaction.ownWrite?, hr.writes]
    exact hi key ht
  by_cases hs : s' = s
  · subst hs
    cases h with
    | plain hop =>
      rcases own_start hop hu with hsame | ⟨-, rfl⟩ | ⟨t, ht, ⟨key', rfl⟩ | ⟨query, rfl⟩⟩
      · exact hi key hsame
      · intro he
        cases he
      · exact reads ht (reads_remember i t key')
      · exact reads ht (reads_search i t query)
    | refused => exact hi key hu
    | @bound x t key' c hop ht =>
      unfold writeBound at hu
      cases hw : i.write t key' c with
      | error holder =>
        rw [hw] at hu
        exact hi key hu
      | ok r =>
        obtain ⟨keys, j, hj, rfl⟩ := write_ok hw
        rw [hw] at hu
        dsimp only at hu
        rw [current?_bind_self] at hu
        obtain rfl := Option.some.inj hu
        have hown : ∀ key, t.ownWrite? key ≠ some none := fun key => hi key ht
        exact ownWrite?_writeLocked (t := { t with locked := keys }) (hc? key' c rfl) hown key' key
    | @alone x t j key' c hop hq hj hn hn' ht _ =>
      rcases writeSingle_cases ht j s' key' c with ⟨holder, hw⟩ | ⟨a, k, hw, ha⟩
      · rw [hw] at hu
        cases hn'.symm.trans hu
      · rw [hw] at hu
        dsimp only at hu
        rw [ha.registry] at hu
        cases hn'.symm.trans hu
  · exact hi key ((h.moved.others s' hs).symm.trans hu)

/-- A write that waits is the one that was tried. -/
theorem Deed.change_eq (h : i.Deed s op c? r) (hw : r.1 = .waiting w) :
    c? = some (w.key, w.change) := by
  cases h with
  | plain hop =>
    obtain ⟨a, ha⟩ := start_of_change_none (s := s) hop
    rw [ha] at hw
    cases hw
  | refused => cases hw
  | bound =>
    unfold writeBound at hw
    split at hw <;> cases hw
    rfl
  | @alone x t j key c _ _ _ _ _ ht _ =>
    rcases writeSingle_cases ht j s key c with ⟨holder, he⟩ | ⟨a, k, he, -⟩
    · rw [he] at hw
      cases hw
      rfl
    · rw [he] at hw
      cases hw

/-- Where no transaction has removed a key, and no single write does, no batch removes one. -/
theorem unremoved_batch (hc? : ∀ key c, c? = some (key, c) → c ≠ .remove)
    (hi : ∀ {s t} key, i.registry.current? s = some t → t.ownWrite? key ≠ some none)
    (p : Progress) (key : Key) : Unremoved (i.batch c? s op p) key := by
  intro hm
  unfold batch at hm
  split at hm
  · split at hm
    · next t hc => exact hi key hc (KeyOrder.mem_entries.1 hm)
    · next key' c hc =>
      split at hm
      · next value hv =>
        cases List.mem_singleton.1 hm
        have hne := hc? key c rfl
        cases c with
        | remove => exact hne rfl
        | add card => cases hv
        | update | updateEntry =>
          cases hl : i.store.latest? key <;> rw [hl] at hv <;> cases hv
      · cases hm
    · cases hm
  · cases hm

end Removal

end SharedIndex

/-- Whether a session asks in a move for the removal of a key or of all keys. -/
def Move.forgets : Move → Bool
  | .start _ (.remove _) | .start _ .clear => true
  | _ => false

namespace Scene

section Growing

/-- A scene in which no removal is under way, with the keys that have been committed. -/
structure Growing (o : KeyOrder) (x : Scene) (keys : List Key) : Prop where
  tidy : x.Tidy
  order : x.index.order = o
  own : ∀ {s t} key, x.index.registry.current? s = some t → t.ownWrite? key ≠ some none
  waits : ∀ {s op w}, x.waiting.get? s = some (op, w) → w.change ≠ .remove
  lives : x.index.store.Lives fun _ => True
  arrived : x.index.store.Arrived keys

variable {o : KeyOrder}

theorem Growing.change?_ne (h : x.Growing o keys) (hm : m.forgets = false) :
    ∀ key c, x.change? m = some (key, c) → c ≠ .remove := by
  rintro key c hc rfl
  cases m with
  | start s op =>
    unfold change? SharedIndex.asked at hc
    cases op with
    | remove key' => cases hm
    | add key' record entry | update key' record entry =>
      cases hcard : x.index.indexing.card record entry <;>
        simp [Operation.change?, hcard, Except.map] at hc
    | _ => simp [Operation.change?] at hc
  | retry s =>
    obtain ⟨⟨op, w⟩, hw, he⟩ := Option.map_eq_some_iff.1 hc
    exact h.waits hw (Prod.ext_iff.1 he).2
  | giveUp s => cases hc

theorem Growing.take (h : x.Growing o keys) (hm : m.forgets = false) :
    (x.take m).2.Growing o (keys ++ (x.batch m).map Prod.fst) := by
  have hchange := h.change?_ne hm
  cases ht : x.turn? m with
  | none =>
    rw [take_of_none ht, batch_of_none ht]
    simpa using h
  | some p =>
    obtain ⟨⟨s, op⟩, r⟩ := p
    have hd := h.tidy.deed ht
    have hclear : op ≠ .clear := by
      rcases h.tidy.start_or_write ht with rfl | ⟨y, p, hop⟩
      · rintro rfl
        cases hm
      · rintro rfl
        cases hop
    have htidy := h.tidy.take m
    rw [batch_of_some ht]
    rw [take_of_some ht] at htidy ⊢
    have hpub := hd.publishes
    have hclock := hd.clock_eq hclear
    have hnone : ∀ key, Unremoved (x.index.batch (x.change? m) s op r.1) key :=
      SharedIndex.unremoved_batch hchange h.own r.1
    refine ⟨htidy, ?_, fun {s' u} key hu => ?_, fun {s' op' w} hw => ?_, ?_, ?_⟩
    · rw [index_settle, hd.moved.order]
      exact h.order
    · rw [index_settle] at hu
      exact hd.ownWrite?_ne hchange h.own hu key
    · rcases waits_settle x s op r hw with ⟨rfl, rfl, hr⟩ | ⟨-, hw'⟩
      · exact hchange _ _ (hd.change_eq hr)
      · exact h.waits hw'
    · rw [index_settle]
      generalize r.2.store = store at hpub
      generalize x.index.batch (x.change? m) s op r.1 = writes at hpub hnone
      cases hpub with
      | kept => exact h.lives
      | applied _ hn => exact (h.lives.apply hn).mono fun key _ => ⟨trivial, hnone key⟩
      | pruned => exact h.lives.pruned _
      | cleared => exact fun _ _ hs => by cases hs
    · rw [index_settle]
      generalize r.2.store = store at hpub hclock ⊢
      generalize x.index.batch (x.change? m) s op r.1 = writes at hpub hclock
      cases hpub with
      | kept => simpa using h.arrived
      | applied => exact h.arrived.apply h.tidy.sound writes
      | pruned => simpa using h.arrived.pruned h.lives _
      | cleared => exact absurd (hclock rfl) (Nat.succ_ne_self _)

theorem Growing.after (h : x.Growing o keys) (hm : ∀ m ∈ moves, m.forgets = false) :
    (x.after moves).Growing o (keys ++ (x.written moves).map Prod.fst) := by
  induction moves generalizing x keys with
  | nil => simpa [written, after] using h
  | cons m rest ih =>
    obtain ⟨hfirst, hrest⟩ := List.forall_mem_cons.1 hm
    have hlast := ih (h.take hfirst) hrest
    rw [List.append_assoc, ← List.map_append] at hlast
    exact hlast

theorem growing_opening (o : KeyOrder) (p : Index) (mode : Isolation) :
    (opening o p mode).Growing o p.cards.keys := by
  refine ⟨tidy_opening o p mode, ?_, fun {s t} key hc => ?_, fun hw => (by cases hw),
    SharedIndex.lives_ofIndex _ o p, SharedIndex.arrived_ofIndex o p⟩
  · obtain ⟨store, hp⟩ := SharedIndex.ofIndex_cases o p
    unfold opening
    rw [hp]
    rfl
  · have hr : (opening o p mode).index.registry = .empty := SharedIndex.registry_ofIndex o p
    rw [hr] at hc
    cases hc

/-- As long as no key is removed, equally relevant hits of any search stand in the order in which
their keys have come in: those of the index that was shared, in their order there, and then the
others by their first commits. Keys that come with one commit stand as it arranges the keys that its
transaction has written. -/
theorem ties_in_order_of_arrival (o : KeyOrder) (p : Index) (mode : Isolation)
    {moves : List Move} (hm : ∀ m ∈ moves, m.forgets = false) :
    let x := (opening o p mode).after moves
    let keys := p.cards.keys ++ ((opening o p mode).written moves).map Prod.fst
    (∀ s query, ∃ hits, (x.index.step s (.search query)).1 = .ok (.hits hits) ∧
      hits.Pairwise fun a b =>
        a.score = b.score → b.key ∈ keys → keys.idxOf a.key < keys.idxOf b.key) ∧
      ∀ s t, x.index.registry.current? s = some t →
        (x.take (.start s .commit)).1 = some ⟨s, .commit, .ok .done⟩ →
        (x.batch (.start s .commit)).map Prod.fst =
          o.arrange x.index.store.clock t.writes.keys := by
  intro x keys
  have h : x.Growing o keys := (growing_opening o p mode).after hm
  refine ⟨fun s query => ?_, fun s t hc he => ?_⟩
  · rcases x.index.step_search_cases s query with ⟨-, ha⟩ | ha
    · exact ⟨[], ha, .nil⟩
    · exact ⟨_, ha, SharedIndex.search_in_order h.arrived h.tidy.sound _ _⟩
  · cases hw : x.waiting.get? s with
    | some e =>
      have ht : x.turn? (.start s .commit) = none := if_pos (Option.isSome_iff_exists.2 ⟨e, hw⟩)
      rw [take_of_none ht] at he
      cases he
    | none =>
      have ht := turn?_start hw .commit
      rw [take_of_some ht, event_settle] at he
      rw [batch_of_some ht, ← KeyOrder.keys_entries, ← h.order]
      generalize x.index.start s .commit = r at he
      obtain ⟨a | w, i⟩ := r
      · cases he
        unfold SharedIndex.batch
        rw [hc]
      · cases he

theorem ties_in_order_of_arrival_of_batches :
    let note : Record := ⟨"note", [], .ofList [("text", .text "x")]⟩
    let p := (Index.ofIndexing (Indexing.usual.register "note" ⟨["text"], none⟩)).store "c"
      ⟨⟨.ofList ["x"], none⟩, note⟩
    let moves := [Move.start "s" .begin, .start "s" (.add "b" note note),
      .start "s" (.add "a" note note), .start "t" (.updateEntry "c" note), .start "s" .commit,
      .start "t" .cleanup]
    let x := (opening .given p .serializable).after moves
    let keys := p.cards.keys ++ ((opening .given p .serializable).written moves).map Prod.fst
    (∀ m ∈ moves, m.forgets = false) ∧
      ∃ hits, (x.index.step "t" (.search "x")).1 = .ok (.hits hits) ∧
        hits.Pairwise fun a b =>
          a.score = b.score → b.key ∈ keys → keys.idxOf a.key < keys.idxOf b.key := by
  intro note p moves x keys
  have hm : ∀ m ∈ moves, m.forgets = false := by decide
  exact ⟨hm, (ties_in_order_of_arrival .given p .serializable hm).1 "t" "x"⟩

/-- A commit may arrange its keys otherwise than its transaction has written them, and then equally
relevant hits stand in that other order. -/
theorem ties_of_one_commit_reordered :
    let note : Record := ⟨"note", [], .ofList [("text", .text "x")]⟩
    let o : KeyOrder := ⟨fun _ => List.reverse, fun _ => List.reverse_perm⟩
    let p := Index.ofIndexing (Indexing.usual.register "note" ⟨["text"], none⟩)
    let x := (opening o p .readCommitted).after [.start "s" .begin]
    let y := ((x.take (.start "s" (.add "a" note note))).2.take (.start "s" (.add "b" note note))).2
    ∃ hits, (y.index.registry.current? "s").map (·.writes.keys) = some ["a", "b"] ∧
      (y.take (.start "s" .commit)).1 = some ⟨"s", .commit, .ok .done⟩ ∧
      ((y.take (.start "s" .commit)).2.take (.start "s" (.search "x"))).1 =
        some ⟨"s", .search "x", .ok (.hits hits)⟩ ∧
      hits.map Hit.key = ["b", "a"] ∧ ∀ a ∈ hits, ∀ b ∈ hits, a.score = b.score := by
  intro note o p x
  have hcard : ∀ x : Scene, x.index.indexing = p.indexing →
      x.index.indexing.card note note = .ok ⟨⟨.ofList ["x"], none⟩, note⟩ := by
    intro x hx
    have ht : Mappings.texts note (Mappings.compose [⟨["text"], none⟩]).fields = .ok ["x"] := rfl
    rw [hx]
    exact Indexing.card_of_texts rfl rfl rfl ht _
  have hfirst : x.take (.start "s" (.add "a" note note)) = _ := take_add (hcard x rfl) rfl
  have hx : (x.take (.start "s" (.add "a" note note))).2.index.indexing = p.indexing := by
    rw [hfirst]
    rfl
  have hidle : (x.take (.start "s" (.add "a" note note))).2.waiting.get? "s" = none := by
    rw [hfirst]
    exact Option.isNone_iff_eq_none.1 (by decide +kernel)
  have hsecond : (x.take (.start "s" (.add "a" note note))).2.take
      (.start "s" (.add "b" note note)) = _ := take_add (hcard _ hx) hidle
  intro y
  have hcommit : y.take (.start "s" .commit) = (some ⟨"s", .commit, .ok .done⟩,
      ⟨{ SharedIndex.ofIndexing o p.indexing .readCommitted with
          store := VersionStore.empty.apply [("b", some ⟨⟨.ofList ["x"], none⟩, note⟩),
            ("a", some ⟨⟨.ofList ["x"], none⟩, note⟩)]
          registry := ⟨2, .empty⟩ }, .empty⟩) := by
    change ((x.take _).2.take _).2.take _ = _
    rw [hsecond, hfirst]
    rfl
  refine ⟨Hit.ranked [⟨"b", note, ⟨1, .zero⟩, some 0⟩, ⟨"a", note, ⟨1, .zero⟩, some 1⟩],
    ?_, ?_, ?_, ?_, ?_⟩
  · change (((x.take _).2.take _).2.index.registry.current? _).map _ = _
    rw [hsecond, hfirst]
    rfl
  · rw [hcommit]
  · rw [hcommit]
    rfl
  · rw [Hit.ranked_pair]
    rfl
  · rw [Hit.ranked_pair]
    decide

end Growing

end Scene

end Cardfile
