import Cardfile.Proofs.LostUpdates
import Cardfile.Proofs.Tandem

/-! # Cleanups

Two runs with the same operations in the same order, but with cleanups at different times. All that
shows of that is the order of hits that are equally relevant, when a key has come back after a
removal, and which key is named when several clash with the searches of a transaction.
-/

namespace Cardfile

variable {i j : SharedIndex} {s : Session} {op : Operation} {x y : Scene} {m : Move}
  {moves others : List Move} {ws ws' : List (Write Record)} {p S : Key → Prop} {h : Stamp}
  {c? : Option (Key × Change)} {store store' : VersionStore Record}

def Move.cleans : Move → Bool
  | .start _ .cleanup => true
  | _ => false

/-- The same operation of the same session with a like answer. -/
structure Event.Alike (p : Key → Prop) (a b : Event) : Prop where
  session : b.session = a.session
  operation : b.operation = a.operation
  answer : a.answer.Alike p b.answer

/-- The keys that none of some writes removes. -/
def Unremoved (ws : List (Write Record)) (key : Key) : Prop := (key, none) ∉ ws

theorem unremoved_append : Unremoved (ws ++ ws') = fun key => Unremoved ws key ∧ Unremoved ws' key := by
  funext key
  simp [Unremoved]

namespace VersionStore

theorem aligned_clear (S : Key → Prop) (a b : VersionStore Record) :
    a.clear.Aligned S b.clear :=
  ⟨fun _ => Iff.rfl, fun _ _ hm => by cases hm⟩

end VersionStore

namespace SharedIndex

section Publishes

/-- A batch that is committed in both indexes leaves the slots of the keys aligned. -/
theorem Publishes.aligned (hi : i.Publishes ws store) (hj : j.Publishes ws store')
    (ha : i.store.Aligned S j.store) (hli : i.store.Lives S) (hlj : j.store.Lives S)
    (hsi : i.store.Sound) (hsj : j.store.Sound) (hc : j.store.clock = i.store.clock)
    (hc' : store'.clock = store.clock) : store.Aligned S store' := by
  -- only a clear moves the clock without a batch, so it is in both or in none
  have cleared : ∀ {n : Nat}, n + 1 ≠ n := Nat.succ_ne_self _
  cases hi with
  | applied hne hn =>
    cases hj with
    | applied => exact ha.apply hsi hsj ws
    | kept => exact absurd rfl hne
    | pruned => exact absurd rfl hne
    | cleared => exact absurd rfl hne
  | kept =>
    cases hj with
    | applied hne => exact absurd rfl hne
    | kept => exact ha
    | pruned => exact (ha.symm.pruned hlj _).symm
    | cleared => exact absurd (hc'.trans hc.symm) cleared
  | pruned =>
    have hpruned := ha.pruned hli (i.registry.oldestStart i.store.clock)
    cases hj with
    | applied hne => exact absurd rfl hne
    | kept => exact hpruned
    | pruned => exact (hpruned.symm.pruned hlj _).symm
    | cleared => exact absurd (hc'.trans hc.symm) cleared
  | cleared =>
    cases hj with
    | applied hne => exact absurd rfl hne
    | kept => exact absurd (hc'.symm.trans hc) cleared
    | pruned => exact absurd (hc'.symm.trans hc) cleared
    | cleared => exact VersionStore.aligned_clear S _ _

/-- Keys that a batch does not remove are live if they have a slot. -/
theorem Publishes.lives (hi : i.Publishes ws' store) (hl : i.store.Lives (Unremoved ws)) :
    store.Lives (Unremoved (ws ++ ws')) := by
  have old : ∀ key, Unremoved (ws ++ ws') key → Unremoved ws key := by
    intro key hk
    rw [unremoved_append] at hk
    exact hk.1
  cases hi with
  | applied _ hn =>
    rw [unremoved_append]
    exact hl.apply hn
  | kept => exact hl.mono old
  | pruned => exact (hl.pruned _).mono old
  | cleared => exact fun _ _ hs => by cases hs

end Publishes

/-- The same batch is committed in both when their progress is alike. -/
theorem Paired.batch_eq (hp : i.Paired h j) (hlatest : i.store.latest? = j.store.latest?)
    {a b : Progress} (hab : a.Alike p b) : j.batch c? s op b = i.batch c? s op a := by
  have succeeded : ∀ reply reply',
      j.batch c? s op (.answered (.ok reply')) = i.batch c? s op (.answered (.ok reply)) := by
    intro reply reply'
    unfold batch
    dsimp only
    cases hc : i.registry.current? s with
    | none =>
      rw [hp.current?_none hc, hlatest]
      cases c? <;> rfl
    | some t =>
      obtain ⟨u, hu, hl⟩ := hp.current?_some hc
      rw [hu]
      cases op with
      | commit =>
        dsimp only
        rw [hp.order, hp.store.clock, hl.writes_eq]
      | _ => rfl
  cases hab with
  | waiting w => rfl
  | answered hab =>
    cases hab with
    | same =>
      rename_i a
      cases a with
      | error e => rfl
      | ok reply => exact succeeded reply reply
    | hits => exact succeeded _ _
    | clash => rfl

theorem lives_ofIndex (S : Key → Prop) (o : KeyOrder) (p : Index) : (ofIndex o p).store.Lives S := by
  have hempty : (VersionStore.empty : VersionStore Record).Lives S := fun _ _ hs => by cases hs
  unfold ofIndex
  dsimp only
  split
  · exact hempty
  · have hn : ((p.cards.entries.map fun e => (e.1, some e.2.card)).map Prod.fst).Nodup := by
      rw [List.map_map]
      exact p.cards.nodup
    refine (hempty.apply hn).mono fun key hk => ⟨hk, fun hm => ?_⟩
    obtain ⟨e, -, he⟩ := List.mem_map.1 hm
    cases he

theorem Paired.asked_eq (hp : i.Paired h j) (op : Operation) : j.asked op = i.asked op := by
  unfold asked
  rw [hp.indexing]

end SharedIndex

namespace Scene

/-- Two scenes that differ in what was pruned, after the same writes. -/
structure Twins (ws : List (Write Record)) (x y : Scene) : Prop where
  left : x.Retentive
  right : y.Retentive
  waiting : ∀ s, y.waiting.get? s = x.waiting.get? s
  paired : ∃ h, x.index.Paired h y.index
  aligned : x.index.store.Aligned (Unremoved ws) y.index.store
  livesLeft : x.index.store.Lives (Unremoved ws)
  livesRight : y.index.store.Lives (Unremoved ws)

section Twins

theorem Retentive.firm (hx : x.Retentive) : x.index.Firm :=
  ⟨hx.tidy.sound, hx.tidy.dated, hx.retains⟩

theorem Twins.index (hw : Twins ws x y) : ∃ h, x.index.Twins (Unremoved ws) h y.index := by
  obtain ⟨h, hp⟩ := hw.paired
  exact ⟨h, hp, hw.aligned, hw.left.firm, hw.right.firm⟩

theorem Twins.symm (hw : Twins ws x y) : Twins ws y x := by
  obtain ⟨h, hp⟩ := hw.paired
  exact ⟨hw.right, hw.left, fun s => (hw.waiting s).symm, ⟨h, hp.symm⟩, hw.aligned.symm,
    hw.livesRight, hw.livesLeft⟩

theorem twins_opening (o : KeyOrder) (p : Index) (mode : Isolation) :
    Twins [] (opening o p mode) (opening o p mode) := by
  have hr : (opening o p mode).index.registry = .empty := SharedIndex.registry_ofIndex o p
  have hlives := SharedIndex.lives_ofIndex (Unremoved []) o p
  have hx := retentive_opening o p mode
  refine ⟨hx, hx, fun _ => rfl, ⟨_, rfl, rfl, rfl, rfl, rfl, rfl, .refl _, fun s => ?_,
    fun hc => ?_⟩, .refl _ _, hlives, hlives⟩
  · rw [hr]
    exact .none
  · rw [hr] at hc
    cases hc

/-- A move that is not a cleanup has the same turn in both scenes and is like progress. -/
theorem Twins.turn? (hw : Twins ws x y) (hm : m.cleans = false) :
    (x.turn? m = none ∧ y.turn? m = none) ∨
      ∃ s op r r' h, x.turn? m = some ((s, op), r) ∧ y.turn? m = some ((s, op), r') ∧
        SharedIndex.Tandem (x.index.store.Present (Unremoved ws)) h r r' := by
  obtain ⟨h, hi⟩ := hw.index
  unfold Scene.turn?
  cases m with
  | start s op =>
    have hop : op ≠ .cleanup := by
      rintro rfl
      cases hm
    have hcontains : y.waiting.contains s = x.waiting.contains s :=
      congrArg Option.isSome (hw.waiting s)
    dsimp only
    rw [hcontains]
    split
    · exact .inl ⟨rfl, rfl⟩
    · exact .inr ⟨s, op, _, _, h, rfl, rfl, hi.start s hop⟩
  | retry s =>
    dsimp only
    rw [hw.waiting]
    cases hs : x.waiting.get? s with
    | none => exact .inl ⟨rfl, rfl⟩
    | some e =>
      obtain ⟨op, w⟩ := e
      have hwaits := hw.left.tidy.waits hs
      exact .inr ⟨s, op, _, _, h, rfl, rfl, hi.resume _ fun ht => (hwaits.single ht).1⟩
  | giveUp s =>
    dsimp only
    rw [hw.waiting]
    cases x.waiting.get? s with
    | none => exact .inl ⟨rfl, rfl⟩
    | some e => exact .inr ⟨s, e.1, _, _, h, rfl, rfl, hi.paired.expire _ e.2⟩

theorem Twins.change?_eq (hw : Twins ws x y) (m : Move) : y.change? m = x.change? m := by
  obtain ⟨h, hp⟩ := hw.paired
  cases m with
  | start s op => exact hp.asked_eq op
  | retry s => exact congrArg (Option.map _) (hw.waiting s)
  | giveUp s => rfl

/-- What a move settles in both scenes, if its progress is alike. -/
theorem Twins.settle (hw : Twins ws x y) (s : Session) (op : Operation)
    {r r' : Progress × SharedIndex} (hr : SharedIndex.Tandem p h r r') :
    Option.Rel (Event.Alike p) (x.settle s op r).1 (y.settle s op r').1 ∧
      (∀ s', (y.settle s op r').2.waiting.get? s' = (x.settle s op r).2.waiting.get? s') := by
  obtain ⟨a, i⟩ := r
  obtain ⟨b, j⟩ := r'
  obtain ⟨hprogress, -⟩ := hr
  dsimp only at hprogress
  cases hprogress with
  | answered ha =>
    refine ⟨.some ⟨rfl, rfl, ha⟩, fun s' => ?_⟩
    change (y.waiting.erase s).get? s' = (x.waiting.erase s).get? s'
    rw [Dict.get?_erase, Dict.get?_erase, hw.waiting]
  | waiting w =>
    refine ⟨.none, fun s' => ?_⟩
    change (y.waiting.insert s (op, w)).get? s' = (x.waiting.insert s (op, w)).get? s'
    rw [Dict.get?_insert, Dict.get?_insert, hw.waiting]

/-- A move that is not a cleanup has like events and commits the same writes in both scenes, which
go on differing only in what was pruned. -/
theorem Twins.take (hw : Twins ws x y) (hm : m.cleans = false) :
    Option.Rel (Event.Alike (x.index.store.Present (Unremoved ws))) (x.take m).1 (y.take m).1 ∧
      Twins (ws ++ x.batch m) (x.take m).2 (y.take m).2 := by
  rcases hw.turn? hm with ⟨hx, hy⟩ | ⟨s, op, r, r', h, hx, hy, hr⟩
  · rw [take_of_none hx, take_of_none hy, batch_of_none hx, List.append_nil]
    exact ⟨.none, hw⟩
  · obtain ⟨h₀, hi⟩ := hw.index
    have hlatest := hi.paired.store.latest_eq hi.left.sound hi.right.sound
    have hbatch : y.batch m = x.batch m := by
      rw [batch_of_some hx, batch_of_some hy, hw.change?_eq]
      exact hi.paired.batch_eq hlatest hr.progress
    have hpx := hw.left.tidy.publishes m
    have hpy := hw.right.tidy.publishes m
    rw [hbatch] at hpy
    have hleft := hw.left.take m
    have hright := hw.right.take m
    obtain ⟨hevent, hwaiting⟩ := hw.settle s op hr
    rw [take_of_some hx] at hpx hleft ⊢
    rw [take_of_some hy] at hpy hright ⊢
    have hpaired : (x.settle s op r).2.index.Paired h (y.settle s op r').2.index := by
      rw [index_settle, index_settle]
      exact hr.paired
    have haligned := hpx.aligned hpy hw.aligned hw.livesLeft hw.livesRight hi.left.sound
      hi.right.sound hi.paired.store.clock hpaired.store.clock
    refine ⟨hevent, hleft, hright, hwaiting, ⟨h, hpaired⟩, haligned.mono fun key hk => ?_,
      hpx.lives hw.livesLeft, hpy.lives hw.livesRight⟩
    rw [unremoved_append] at hk
    exact hk.1

theorem Twins.cleanup (hw : Twins ws x y) (hm : m.cleans = true) :
    x.batch m = [] ∧ Twins ws (x.take m).2 y := by
  obtain ⟨s, rfl⟩ : ∃ s, m = .start s .cleanup := by
    unfold Move.cleans at hm
    split at hm
    · exact ⟨_, rfl⟩
    · cases hm
  have hleft := hw.left.take (.start s .cleanup)
  cases hs : x.waiting.get? s with
  | some e =>
    have ht : x.turn? (.start s .cleanup) = none :=
      if_pos (Option.isSome_iff_exists.2 ⟨e, hs⟩)
    rw [take_of_none ht, batch_of_none ht]
    exact ⟨rfl, hw⟩
  | none =>
    have ht := turn?_start hs .cleanup
    rw [batch_of_some ht]
    rw [take_of_some ht] at hleft ⊢
    obtain ⟨h, hp⟩ := hw.paired
    have hpruned := hw.aligned.pruned hw.livesLeft
      (x.index.registry.oldestStart x.index.store.clock)
    refine ⟨SharedIndex.batch_of_ne_commit Operation.noConfusion _, hleft, hw.right, fun s' => ?_,
      hp.cleanup hw.left.firm, hpruned, hw.livesLeft.pruned _, hw.livesRight⟩
    change y.waiting.get? s' = (x.waiting.erase s).get? s'
    rw [Dict.get?_erase, hw.waiting]
    split
    · next he => exact he ▸ hs
    · rfl

theorem Twins.cleanups (hw : Twins ws x y) (hms : ∀ m ∈ moves, m.cleans = true) :
    x.written moves = [] ∧ Twins ws (x.after moves) y := by
  induction moves generalizing x with
  | nil => exact ⟨rfl, hw⟩
  | cons m rest ih =>
    obtain ⟨hbatch, hnext⟩ := hw.cleanup (hms m List.mem_cons_self)
    obtain ⟨hwritten, hlast⟩ := ih hnext fun m' hm' => hms m' (List.mem_cons_of_mem m hm')
    refine ⟨?_, hlast⟩
    unfold written
    rw [hbatch, hwritten]
    rfl

/-- Runs that are the same but for cleanups lead to scenes that differ only in what was pruned. -/
theorem Twins.after (hw : Twins ws x y)
    (hsame : moves.filter (!·.cleans) = others.filter (!·.cleans)) :
    Twins (ws ++ x.written moves) (x.after moves) (y.after others) := by
  -- on the moves of the first run; the second is cut where it comes to the same move
  induction moves generalizing ws x y others with
  | nil =>
    have hclean : ∀ m ∈ others, m.cleans = true := by
      intro m hm
      simpa using List.filter_eq_nil_iff.1 hsame.symm m hm
    rw [written, List.append_nil]
    exact (hw.symm.cleanups hclean).2.symm
  | cons m rest ih =>
    cases hm : m.cleans with
    | true =>
      rw [List.filter_cons_of_neg (by simp [hm])] at hsame
      obtain ⟨hbatch, hnext⟩ := hw.cleanup hm
      rw [written, hbatch, List.nil_append]
      exact ih hnext hsame
    | false =>
      rw [List.filter_cons_of_pos (by simp [hm])] at hsame
      obtain ⟨early, late, rfl, hearly, -, hlate⟩ := List.filter_eq_cons_iff.1 hsame.symm
      have hclean : ∀ m ∈ early, m.cleans = true := by
        intro m hm
        simpa using hearly m hm
      have hnext := ((hw.symm.cleanups hclean).2.symm.take hm).2
      have hafter : y.after (early ++ m :: late) = ((y.after early).take m).2.after late :=
        after_append y early (m :: late)
      rw [hafter, written, ← List.append_assoc]
      exact ih hnext hlate.symm

end Twins

/-- Cleanups change no answer but for the order of some hits. At any point of two runs with the
same moves apart from cleanups the same keys are live with the same cards, and a move that is not a
cleanup has the same event in both, with two exceptions. Hits that are equally relevant may stand in
another order, unless both keys are live and have not been removed before. A refused commit may name
another one of several keys that clash with its searches. -/
theorem cleanups_keep_answers (o : KeyOrder) (p : Index) (mode : Isolation)
    (moves others : List Move) (hsame : moves.filter (!·.cleans) = others.filter (!·.cleans))
    (m : Move) (hm : m.cleans = false) :
    let x := (opening o p mode).after moves
    let y := (opening o p mode).after others
    let gone := (opening o p mode).written moves
    y.index.size = x.index.size ∧ y.index.store.latest? = x.index.store.latest? ∧
      Option.Rel (Event.Alike (x.index.store.Present (Unremoved gone)))
        (x.take m).1 (y.take m).1 := by
  intro x y gone
  have hw : Twins gone x y := (twins_opening o p mode).after hsame
  obtain ⟨h, hi⟩ := hw.index
  exact ⟨hi.size_eq, (hi.paired.store.latest_eq hi.left.sound hi.right.sound).symm,
    (hw.take hm).1⟩

theorem cleanups_keep_answers_of_removal :
    let p := ((Index.ofIndexing .usual).store "a" ⟨⟨.empty, none⟩, ⟨"note", [], .empty⟩⟩).store "b"
      ⟨⟨.empty, none⟩, ⟨"note", [], .empty⟩⟩
    let moves := [Move.start "s" .begin, .start "t" (.remove "a"), .start "t" .cleanup]
    let others := [Move.start "t" .cleanup, .start "s" .begin, .start "t" (.remove "a")]
    let x := (opening .given p .serializable).after moves
    let y := (opening .given p .serializable).after others
    moves.filter (!·.cleans) = others.filter (!·.cleans) ∧
      (Move.start "s" (.get "a")).cleans = false ∧ y.index.size = x.index.size ∧
      Option.Rel (Event.Alike (x.index.store.Present
          (Unremoved ((opening .given p .serializable).written moves))))
        (x.take (.start "s" (.get "a"))).1 (y.take (.start "s" (.get "a"))).1 := by
  refine ⟨rfl, rfl, ?_⟩
  have hk := cleanups_keep_answers .given
    (((Index.ofIndexing .usual).store "a" ⟨⟨.empty, none⟩, ⟨"note", [], .empty⟩⟩).store "b"
      ⟨⟨.empty, none⟩, ⟨"note", [], .empty⟩⟩) .serializable
    [.start "s" .begin, .start "t" (.remove "a"), .start "t" .cleanup]
    [.start "t" .cleanup, .start "s" .begin, .start "t" (.remove "a")] rfl
    (.start "s" (.get "a")) rfl
  exact ⟨hk.1, hk.2.2⟩

/-- A key that comes back after a removal gets its old place among hits that are equally relevant,
unless a cleanup has been made in between: then it comes last. -/
theorem cleanup_reorders_hits :
    let note : Record := ⟨"note", [], .ofList [("text", .text "x")]⟩
    let card : Card Record := ⟨⟨.ofList ["x"], none⟩, note⟩
    let p := ((Index.ofIndexing (Indexing.usual.register "note" ⟨["text"], none⟩)).store "a"
      card).store "b" card
    let x := (opening .given p .readCommitted).after [.start "s" (.remove "a")]
    let y := (x.take (.start "s" .cleanup)).2
    let again := Move.start "s" (.add "a" note note)
    let search := Move.start "s" (.search "x")
    ∃ hits found,
      ((x.take again).2.take search).1 = some ⟨"s", .search "x", .ok (.hits hits)⟩ ∧
      ((y.take again).2.take search).1 = some ⟨"s", .search "x", .ok (.hits found)⟩ ∧
      hits.map Hit.key = ["a", "b"] ∧ found.map Hit.key = ["b", "a"] := by
  have hcard : ∀ x : Scene, x.index.indexing = Indexing.usual.register "note" ⟨["text"], none⟩ →
      x.index.indexing.card ⟨"note", [], .ofList [("text", .text "x")]⟩
          ⟨"note", [], .ofList [("text", .text "x")]⟩ =
        .ok ⟨⟨.ofList ["x"], none⟩, ⟨"note", [], .ofList [("text", .text "x")]⟩⟩ := by
    intro x hx
    have ht : Mappings.texts ⟨"note", [], .ofList [("text", .text "x")]⟩
        (Mappings.compose [⟨["text"], none⟩]).fields = .ok ["x"] := rfl
    rw [hx]
    exact Indexing.card_of_texts rfl rfl rfl ht _
  refine ⟨Hit.ranked [⟨"a", ⟨"note", [], .ofList [("text", .text "x")]⟩, ⟨1, .zero⟩, some 0⟩,
      ⟨"b", ⟨"note", [], .ofList [("text", .text "x")]⟩, ⟨1, .zero⟩, some 1⟩],
    Hit.ranked [⟨"b", ⟨"note", [], .ofList [("text", .text "x")]⟩, ⟨1, .zero⟩, some 1⟩,
      ⟨"a", ⟨"note", [], .ofList [("text", .text "x")]⟩, ⟨1, .zero⟩, some 2⟩], ?_, ?_, ?_, ?_⟩
  · rw [take_add (hcard _ rfl) rfl]
    rfl
  · rw [take_add (hcard _ rfl) rfl]
    rfl
  · rw [Hit.ranked_pair]
    rfl
  · rw [Hit.ranked_pair]
    rfl

end Scene

end Cardfile
