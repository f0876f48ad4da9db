import Cardfile.Proofs.DirtyReads

/-! # What running transactions retain

Whatever is committed, pruned or cleared while a transaction runs, the store still tells of all
commits since its start, and each of its pins is either still the last commit of the key or has
been overtaken by a commit that shows.
-/

namespace Cardfile

variable {i j : SharedIndex} {s : Session} {op : Operation} {t u : Transaction Record} {key : Key}
  {c? : Option (Key × Change)} {r : Progress × SharedIndex}

namespace VersionStore

section LastCommit

variable {ε : Type} {store : VersionStore ε} {ws : List (Write ε)} {value : Option (Card ε)}
  {time : Stamp}

theorem lastCommit_apply_of_mem (hn : (ws.map Prod.fst).Nodup) (hw : (key, value) ∈ ws) :
    (store.apply ws).lastCommit key = store.clock + 1 := by
  simp [lastCommit_eq, versions_apply_of_mem hn hw]

theorem lastCommit_apply_of_notMem (hk : key ∉ ws.map Prod.fst) :
    (store.apply ws).lastCommit key = store.lastCommit key := by
  simp only [lastCommit_eq, versions_apply_of_notMem hk]

/-- Pruning does not hide that a key has been committed since. -/
theorem lastCommit_pruned_of_lt (h : time < store.lastCommit key) :
    (store.pruned time).lastCommit key = store.lastCommit key := by
  unfold lastCommit at h ⊢
  rw [chain?_pruned]
  cases hc : store.chain? key with
  | none => rfl
  | some c =>
    have hhead : (c.pruned time).latest? = c.latest? := Version.head?_reachable
    cases hv : c.latest? with
    | none => simp [hc, hv] at h
    | some v =>
      have hmem : v ∈ (c.pruned time).versions := List.mem_of_mem_head? (hhead.trans hv)
      have ht : time < v.stamp := by simpa [hc, hv] using h
      have hkept : ((c.pruned time).isDead time) = false := Chain.isDead_of_lt hmem ht
      rw [Option.map_some, Option.filter_some, hkept]
      simp [hhead, hv]

end LastCommit

/-- A pin that a transaction has set since its start has the value of the last commit to the key,
or there has been another commit to the key since. -/
inductive Stands (store : VersionStore Record) (start : Stamp) (key : Key) (pin : Pin Record) :
    Prop
  | current : pin.value = store.latest? key → store.lastCommit key ≤ pin.stamp →
      Stands store start key pin
  | overtaken : start < store.lastCommit key → pin.stamp < store.lastCommit key →
      Stands store start key pin

variable {store : VersionStore Record} {start : Stamp} {pin : Pin Record}

/-- A pin that a write may build on has the last commit. -/
theorem Stands.value_eq (h : store.Stands start key pin) (hle : store.lastCommit key ≤ pin.stamp) :
    pin.value = store.latest? key := by
  cases h with
  | current hv => exact hv
  | overtaken _ hlt => exact absurd hle (Nat.not_le_of_lt hlt)

/-- A pin with another value than the last commit tells of a commit since the start. -/
theorem Stands.lt_lastCommit (h : store.Stands start key pin)
    (hne : pin.value ≠ store.latest? key) : start < store.lastCommit key := by
  cases h with
  | current hv => exact absurd hv hne
  | overtaken hlt => exact hlt

end VersionStore

namespace SharedIndex

open VersionStore

/-- What the store holds for a transaction that runs. -/
structure Retains (i : SharedIndex) (t : Transaction Record) : Prop where
  start_le : t.start ≤ i.store.clock
  logged : i.store.Logged t.start
  told : ∃ later, i.store.Chronicle t.start later
  stamp_le : ∀ {key pin}, t.pins.get? key = some pin → pin.stamp ≤ i.store.clock
  stands : ∀ {key pin}, t.pins.get? key = some pin → i.store.Stands t.start key pin

theorem Retains.anchored (h : i.Retains t) : i.Anchored t fun key => i.store.at? key t.start :=
  ⟨h.start_le, fun _ => rfl, h.logged⟩

theorem Publishes.stands {writes : List (Write Record)} {store : VersionStore Record}
    {pin : Pin Record} (h : i.Publishes writes store) (hc : i.registry.current? s = some t)
    (hle : t.start ≤ i.store.clock) (hpin : pin.stamp ≤ i.store.clock)
    (hp : i.store.Stands t.start key pin) : store.Stands t.start key pin := by
  cases h with
  | kept => exact hp
  | applied _ hn =>
    by_cases hk : key ∈ writes.map Prod.fst
    · -- the commit is younger than anything that was known before
      obtain ⟨⟨key, value⟩, hw, rfl⟩ := List.mem_map.1 hk
      have hlast : (i.store.apply writes).lastCommit key = i.store.clock + 1 :=
        lastCommit_apply_of_mem hn hw
      exact .overtaken (hlast.symm ▸ Nat.lt_succ_of_le hle) (hlast.symm ▸ Nat.lt_succ_of_le hpin)
    · have hlast : (i.store.apply writes).lastCommit key = i.store.lastCommit key :=
        lastCommit_apply_of_notMem hk
      cases hp with
      | current hv hle =>
        exact .current (hv.trans (latest?_apply_of_notMem hk).symm) (hlast.symm ▸ hle)
      | overtaken hs hlt => exact .overtaken (hlast.symm ▸ hs) (hlast.symm ▸ hlt)
  | pruned =>
    have hold := Registry.oldestStart_le hc i.store.clock
    cases hp with
    | current hv hle =>
      exact .current (hv.trans latest?_pruned.symm) (Nat.le_trans (lastCommit_pruned_le ..) hle)
    | overtaken hs hlt =>
      have hlast := lastCommit_pruned_of_lt (Nat.lt_of_le_of_lt hold hs)
      exact .overtaken (hlast.symm ▸ hs) (hlast.symm ▸ hlt)
  | cleared h0 => exact absurd h0 (Nat.ne_of_gt (Registry.activeCount_pos hc))

/-- A pin of the last commit stands. -/
theorem stands_last (store : VersionStore Record) (start : Stamp) (key : Key) :
    store.Stands start key ⟨store.lastCommit key, store.latest? key⟩ :=
  .current rfl (Nat.le_refl _)

theorem retains_opened (hs : i.store.Sound) (hd : i.store.Dated) : i.Retains i.opened :=
  ⟨Nat.le_refl _, hs.logged_clock, ⟨[], hd.chronicle_clock hs⟩, fun hp => (by cases hp),
    fun hp => by cases hp⟩

theorem Retains.moved (h : i.Retains t) (hi : i.store.Sound) (hd : i.store.Dated)
    (hc : i.registry.current? s = some t) (hg : t.Goes u) (hp : i.PinnedFrom t u)
    {writes : List (Write Record)} (hpub : i.Publishes writes j.store)
    (hlogged : j.store.Logged t.start) : j.Retains u := by
  have pinned : ∀ {key pin}, u.pins.get? key = some pin →
      pin.stamp ≤ i.store.clock ∧ i.store.Stands t.start key pin := by
    intro key pin hpin
    rcases hp hpin with hold | rfl
    · exact ⟨h.stamp_le hold, h.stands hold⟩
    · exact ⟨hi.lastCommit_le, stands_last ..⟩
  obtain ⟨later, hlater⟩ := h.told
  have hclock := hpub.clock_le
  refine ⟨?_, ?_, ?_, fun hpin => Nat.le_trans (pinned hpin).1 hclock, fun hpin => ?_⟩
  all_goals rw [hg.start]
  · exact Nat.le_trans h.start_le hclock
  · exact hlogged
  · exact ⟨_, hpub.chronicle hd hc (Nat.le_refl _) h.start_le hlater⟩
  · exact hpub.stands hc h.start_le (pinned hpin).1 (pinned hpin).2

end SharedIndex

namespace Scene

variable {x : Scene} {m : Move} {moves : List Move}

/-- A scene in order whose store holds what every running transaction relies on. -/
structure Retentive (x : Scene) : Prop where
  tidy : x.Tidy
  retains : ∀ {s t}, x.index.registry.current? s = some t → x.index.Retains t

theorem retentive_opening (o : KeyOrder) (p : Index) (mode : Isolation) :
    (opening o p mode).Retentive := by
  refine ⟨tidy_opening o p mode, fun hc => ?_⟩
  have hn : (opening o p mode).index.registry = .empty := SharedIndex.registry_ofIndex o p
  rw [hn] at hc
  cases hc

theorem Retentive.take (h : x.Retentive) (m : Move) : (x.take m).2.Retentive := by
  refine ⟨h.tidy.take m, fun {s' u} hu => ?_⟩
  rcases h.tidy.take_cases m with ⟨-, ht, -⟩ | ⟨s, op, r, -, hd, ht, -⟩
  · rw [ht] at hu ⊢
    exact h.retains hu
  · rw [ht, index_settle] at hu ⊢
    rcases hd.origin hu with ⟨rfl, hstore⟩ | ⟨t, hc, -, hg, hp⟩
    · obtain ⟨hle, hlog, htold, hstamp, hstands⟩ :=
        SharedIndex.retains_opened h.tidy.sound h.tidy.dated
      exact ⟨hstore ▸ hle, hstore ▸ hlog, hstore ▸ htold, hstore ▸ hstamp, hstore ▸ hstands⟩
    · have hkept := h.retains hc
      exact hkept.moved h.tidy.sound h.tidy.dated hc hg hp hd.publishes
        (hkept.anchored.moved hc hd.moved).logged

theorem Retentive.after (h : x.Retentive) (moves : List Move) : (x.after moves).Retentive := by
  induction moves generalizing x with
  | nil => exact h
  | cons m rest ih => exact ih (h.take m)

end Scene

end Cardfile
