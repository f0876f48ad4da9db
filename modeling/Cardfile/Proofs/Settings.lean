import Cardfile.Proofs.Exactness
import Cardfile.Proofs.Retention

/-! # Analysis settings and running transactions

Settings change only while no key is live and no write is pending. A transaction may still read a
card then: one that a commit has removed since the transaction began and that it sees in its
snapshot or has pinned. Nobody else reads anything.
-/

namespace Cardfile

variable {i : SharedIndex} {s : Session} {op : Operation} {t : Transaction Record} {key : Key}
  {card : Card Record} {reply : Reply}

/-- Whether an operation changes the analysis settings. -/
def Operation.isSetting : Operation → Bool
  | .setStopWords _ | .setSynonyms _ => true
  | _ => false

theorem VersionStore.latest?_of_liveCount {ε : Type} {store : VersionStore ε}
    (h : store.liveCount = 0) (key : Key) : store.latest? key = none := by
  rw [liveCount_eq, List.length_eq_zero_iff] at h
  refine Option.eq_none_iff_forall_ne_some.2 fun card hc => ?_
  have hm : key ∈ store.liveKeys := mem_liveKeys.2 ⟨card, hc⟩
  rw [h] at hm
  cases hm

namespace SharedIndex

section Settings

/-- No key is live, and no write is pending. -/
structure Idle (i : SharedIndex) : Prop where
  latest : ∀ key, i.store.latest? key = none
  pending : ∀ key, i.pending.get? key = none

theorem idle_of_changeSettings {change : Analyzer.Settings → Analyzer.Settings} {j : SharedIndex}
    (h : i.changeSettings change = .ok j) : i.Idle := by
  unfold changeSettings at h
  split at h
  · cases h
  · next hguard =>
    simp only [Bool.or_eq_true, decide_eq_true_eq, Bool.not_eq_true', not_or, Nat.not_lt,
      Nat.le_zero, Bool.not_eq_false] at hguard
    exact ⟨VersionStore.latest?_of_liveCount hguard.1, Dict.isEmpty_iff.1 hguard.2⟩

/-- Whoever changes the settings leaves everything else as it is. -/
theorem changeSettings_of_start (hop : op.isSetting = true)
    (ha : (i.start s op).1 = .answered (.ok reply)) :
    i.Idle ∧ ∃ x, (i.start s op).2 = { i with indexing := x } := by
  have changed : ∀ change, (i.changed (i.changeSettings change)).1 = .answered (.ok reply) →
      i.Idle ∧ ∃ x, (i.changed (i.changeSettings change)).2 = { i with indexing := x } := by
    intro change ha
    cases hr : i.changeSettings change with
    | error e =>
      rw [hr] at ha
      cases ha
    | ok j => exact ⟨idle_of_changeSettings hr, changeSettings_ok hr⟩
  cases op with
  | setStopWords words => exact changed _ ha
  | setSynonyms table => exact changed _ ha
  | _ => cases hop

/-- A card that a transaction can reach although it is no longer live: the transaction goes back to
a snapshot or to pins, and the key has been committed since it began. -/
structure Outdated (i : SharedIndex) (t : Transaction Record) (key : Key) : Prop where
  level : t.level = .repeatableRead ∨ t.level = .serializable
  lt : t.start < i.store.lastCommit key

theorem Idle.ownWrite? (h : i.Idle) (hi : i.Tidy) (s : Session) (key : Key) :
    (i.acting s).ownWrite? key = none := by
  refine Option.eq_none_iff_forall_ne_some.2 fun own ho => ?_
  have hc := current?_of_ownWrite? ho
  have hp := (hi.holdings.pending_iff key _ own).2 ⟨s, _, hc, rfl, ho⟩
  rw [h.pending key] at hp
  cases hp

theorem Idle.outdated (h : i.Idle) (hi : i.Tidy)
    (hr : ∀ {s t}, i.registry.current? s = some t → i.Retains t)
    (hs : i.seen (i.acting s) key = some card) : i.Outdated (i.acting s) key := by
  have hdirty : i.dirty? (i.acting s) key = none := by
    unfold dirty?
    rw [h.pending key]
  -- who goes back to a snapshot or to pins has a transaction of his own
  have bound : (i.acting s).level = .repeatableRead ∨ (i.acting s).level = .serializable →
      i.registry.current? s = some (i.acting s) := by
    intro hl
    cases hc : i.registry.current? s with
    | some t => rw [acting_of_some hc]
    | none =>
      rw [acting_of_none hc] at hl
      obtain ⟨hrr, hser⟩ := (isSingle_single i).level_ne
      exact absurd hl (not_or.2 ⟨hrr, hser⟩)
  unfold seen committedOrDirty at hs
  rw [h.ownWrite? hi s key, hdirty, Option.getD_none] at hs
  cases hl : (i.acting s).level with
  | serializable =>
    rw [hl] at hs
    refine ⟨.inr hl, Nat.lt_of_not_le fun hle => ?_⟩
    have hsame := VersionStore.at?_eq_latest? hle
    rw [h.latest key] at hsame
    cases hsame.symm.trans hs
  | repeatableRead =>
    rw [hl] at hs
    dsimp only at hs
    cases hp : (i.acting s).pins.get? key with
    | none =>
      rw [hp] at hs
      cases (h.latest key).symm.trans hs
    | some pin =>
      rw [hp] at hs
      refine ⟨.inl hl, ((hr (bound (.inl hl))).stands hp).lt_lastCommit ?_⟩
      rw [h.latest key, show pin.value = some card from hs]
      exact Option.some_ne_none card
  | _ =>
    rw [hl] at hs
    cases (h.latest key).symm.trans hs

end Settings

end SharedIndex

namespace Scene

variable {x : Scene}

/-- If the analysis settings change, then no key is live, nothing is pending, and nobody has staged
a write. A session is shown a card or has a hit, before the change or after it, only if it goes back
to a snapshot or to pins and a commit has removed the card since its transaction began. What is
under a key is the same to it before and after. -/
theorem settings_change_sees (o : KeyOrder) (p : Index) (mode : Isolation) (moves : List Move)
    (hop : op.isSetting = true)
    (he : (((opening o p mode).after moves).take (.start s op)).1 = some ⟨s, op, .ok reply⟩) :
    let x := (opening o p mode).after moves
    let i := x.index
    i.Idle ∧ ∀ s',
      (∀ key, (i.acting s').ownWrite? key = none) ∧
      (∀ key card, i.seen (i.acting s') key = some card → i.Outdated (i.acting s') key) ∧
      ∀ j ∈ [i, (x.take (.start s op)).2.index],
        (∀ key, (j.step s' (.get key)).1 =
          .ok (.entry ((i.seen (i.acting s') key).map Card.entry))) ∧
        ∀ text, ∃ hits, (j.step s' (.search text)).1 = .ok (.hits hits) ∧
          ∀ h ∈ hits, i.Outdated (i.acting s') h.key := by
  intro x i
  have hx : x.Retentive := (retentive_opening o p mode).after moves
  have hw := waiting_of_event he
  rw [take_of_some (turn?_start hw op), event_settle] at he
  have hanswer : (x.index.start s op).1 = .answered (.ok reply) := by
    split at he
    · next a ha =>
      cases he
      exact ha
    · cases he
  obtain ⟨hidle, y, hy⟩ := SharedIndex.changeSettings_of_start hop hanswer
  have houtdated : ∀ s' key card, i.seen (i.acting s') key = some card →
      i.Outdated (i.acting s') key :=
    fun s' key card hs => hidle.outdated hx.tidy.index hx.retains hs
  refine ⟨hidle, fun s' => ⟨hidle.ownWrite? hx.tidy.index s', houtdated s', fun j hj => ?_⟩⟩
  have hsame : j.store.Sound ∧ j.seen (j.acting s') = i.seen (i.acting s') := by
    rcases List.mem_pair.1 hj with rfl | rfl
    · exact ⟨hx.tidy.sound, rfl⟩
    · rw [take_of_some (turn?_start hw op), index_settle, hy]
      exact ⟨hx.tidy.sound, rfl⟩
  refine ⟨fun key => ?_, fun text => ?_⟩
  · rw [SharedIndex.step_get, hsame.2]
  · obtain ⟨hits, ha, hh, -⟩ := SharedIndex.step_search_ok hsame.1 s' text
    refine ⟨hits, ha, fun h hm => ?_⟩
    obtain ⟨card, hs, -⟩ := (hh.mem_iff _ _ _).1 (List.mem_map_of_mem hm)
    exact houtdated s' h.key card (hsame.2 ▸ hs)

theorem settings_change_sees_after_removal :
    let p := (Index.ofIndexing .usual).store "k" ⟨⟨.empty, none⟩, ⟨"note", [], .empty⟩⟩
    let moves := [Move.start "a" .begin, .start "b" (.remove "k"), .start "c" .cleanup]
    let x := (opening .given p .readCommitted).after moves
    (x.take (.start "c" (.setStopWords ["note"]))).1 =
      some ⟨"c", .setStopWords ["note"], .ok .done⟩ ∧
    ∃ hits, (x.index.step "a" (.search "note")).1 = .ok (.hits hits) ∧
      ∀ h ∈ hits, x.index.Outdated (x.index.acting "a") h.key := by
  refine ⟨rfl, ?_⟩
  have he : (((opening .given ((Index.ofIndexing .usual).store "k"
      ⟨⟨.empty, none⟩, ⟨"note", [], .empty⟩⟩) .readCommitted).after [.start "a" .begin,
        .start "b" (.remove "k"), .start "c" .cleanup]).take
          (.start "c" (.setStopWords ["note"]))).1 =
      some ⟨"c", .setStopWords ["note"], .ok .done⟩ := rfl
  have h := settings_change_sees .given _ .readCommitted _ rfl he
  exact ((h.2 "a").2.2 _ List.mem_cons_self).2 "note"

/-- The settings change although a serializable transaction still reads a card, which another
session has removed since. -/
theorem settings_changed_under_snapshot :
    let note : Record := ⟨"note", [], .empty⟩
    let p := (Index.ofIndexing .usual).store "k" ⟨⟨.empty, none⟩, note⟩
    let x := (opening .given p .serializable).after
      [.start "a" .begin, .start "b" (.remove "k")]
    let y := (x.take (.start "c" (.setStopWords ["note"]))).2
    (x.take (.start "c" (.setStopWords ["note"]))).1 =
        some ⟨"c", .setStopWords ["note"], .ok .done⟩ ∧
      (x.take (.start "a" (.get "k"))).1 = some ⟨"a", .get "k", .ok (.entry (some note))⟩ ∧
      (y.take (.start "a" (.get "k"))).1 = some ⟨"a", .get "k", .ok (.entry (some note))⟩ :=
  ⟨rfl, rfl, rfl⟩

end Scene

end Cardfile
