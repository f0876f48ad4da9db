import Cardfile.Proofs.Retention

/-! # Stores that differ in what was pruned

Two stores with the same commits of which different old versions have been pruned. From the time on
to which the pruning went they tell the same. A key that pruning has forgotten gets a new slot when
it comes back, so slots are in the same order only for keys that have never been removed.
-/

namespace Cardfile.VersionStore

variable {ε : Type} {a b : VersionStore ε} {key key' : Key} {v : Version ε} {w : Write ε}
  {ws later later' : List (Write ε)} {h time start : Stamp} {c : Chain ε} {S S' : Key → Prop}

/-- Two stores that tell the same from a time on. -/
structure SameSince (h : Stamp) (a b : VersionStore ε) : Prop where
  clock : b.clock = a.clock
  le_clock : h ≤ a.clock
  versions : ∀ {key v}, h < v.stamp → (v ∈ a.versions key ↔ v ∈ b.versions key)
  at_eq : ∀ {time}, h ≤ time → ∀ key, a.at? key time = b.at? key time

section SameSince

theorem SameSince.refl (a : VersionStore ε) : SameSince a.clock a a :=
  ⟨rfl, Nat.le_refl _, fun _ => Iff.rfl, fun _ _ => rfl⟩

theorem SameSince.symm (hs : SameSince h a b) : SameSince h b a :=
  ⟨hs.clock.symm, hs.clock ▸ hs.le_clock, fun hlt => (hs.versions hlt).symm,
    fun hle key => (hs.at_eq hle key).symm⟩

theorem at?_of_clock_le (ha : a.Sound) (hle : a.clock ≤ time) (key : Key) :
    a.at? key time = a.latest? key :=
  at?_eq_latest? (Nat.le_trans ha.lastCommit_le hle)

theorem SameSince.latest_eq (hs : SameSince h a b) (ha : a.Sound) (hb : b.Sound) :
    a.latest? = b.latest? := by
  funext key
  rw [← at?_of_clock_le ha (Nat.le_refl _), ← at?_of_clock_le hb (Nat.le_of_eq hs.clock)]
  exact hs.at_eq hs.le_clock key

theorem SameSince.lt_lastCommit_iff (hs : SameSince h a b) (ha : a.Dated) (hb : b.Dated)
    (hle : h ≤ time) : time < a.lastCommit key ↔ time < b.lastCommit key := by
  rw [ha.lt_lastCommit_iff, hb.lt_lastCommit_iff]
  constructor
  · rintro ⟨v, hv, hlt⟩
    exact ⟨v, (hs.versions (Nat.lt_of_le_of_lt hle hlt)).1 hv, hlt⟩
  · rintro ⟨v, hv, hlt⟩
    exact ⟨v, (hs.versions (Nat.lt_of_le_of_lt hle hlt)).2 hv, hlt⟩

/-- The last commits of a key are the same, unless both are old. -/
theorem SameSince.lastCommit_cases (hs : SameSince h a b) (ha : a.Dated) (hb : b.Dated)
    (key : Key) :
    a.lastCommit key = b.lastCommit key ∨ (a.lastCommit key ≤ h ∧ b.lastCommit key ≤ h) := by
  rcases Nat.lt_or_ge h (a.lastCommit key) with hlt | hle
  · have hlt' : h < b.lastCommit key := (hs.lt_lastCommit_iff ha hb (Nat.le_refl h)).1 hlt
    left
    apply Nat.le_antisymm
    · refine Nat.le_of_not_lt fun hless => ?_
      exact Nat.lt_irrefl _ ((hs.lt_lastCommit_iff ha hb (Nat.le_of_lt hlt')).1 hless)
    · refine Nat.le_of_not_lt fun hless => ?_
      exact Nat.lt_irrefl _ ((hs.lt_lastCommit_iff ha hb (Nat.le_of_lt hlt)).2 hless)
  · refine .inr ⟨hle, Nat.le_of_not_lt fun hlt => ?_⟩
    exact Nat.not_lt_of_le hle ((hs.lt_lastCommit_iff ha hb (Nat.le_refl h)).2 hlt)

theorem latest?_apply (ha : (ws.map Prod.fst).Nodup) (hs : a.latest? = b.latest?) :
    (a.apply ws).latest? = (b.apply ws).latest? := by
  funext key
  by_cases hk : key ∈ ws.map Prod.fst
  · obtain ⟨w, hw, rfl⟩ := List.mem_map.1 hk
    rw [latest?_apply_of_mem ha hw, latest?_apply_of_mem ha hw]
  · rw [latest?_apply_of_notMem hk, latest?_apply_of_notMem hk, hs]

theorem SameSince.apply (hs : SameSince h a b) (ha : a.Sound) (hb : b.Sound)
    (hn : (ws.map Prod.fst).Nodup) : SameSince h (a.apply ws) (b.apply ws) := by
  have hclock : (b.apply ws).clock = (a.apply ws).clock := by
    rw [clock_apply, clock_apply, hs.clock]
  refine ⟨hclock, ?_, fun hlt => ?_, fun {time} hle key => ?_⟩
  · rw [clock_apply]
    exact Nat.le_succ_of_le hs.le_clock
  · rw [mem_versions_apply hn, mem_versions_apply hn, hs.versions hlt, hs.clock]
  · rcases Nat.lt_or_ge a.clock time with hlt | hge
    · -- after the commit the store shows what was committed last
      have hle' : (a.apply ws).clock ≤ time := by
        rw [clock_apply]
        exact hlt
      rw [at?_of_clock_le (ha.apply ws) hle', at?_of_clock_le (hb.apply ws) (hclock ▸ hle'),
        latest?_apply hn (hs.latest_eq ha hb)]
    · rw [at?_apply hge, at?_apply (hs.clock.symm ▸ hge), hs.at_eq hle]

theorem SameSince.pruned (hs : SameSince h a b) (ha : a.Dated) (ht : time ≤ a.clock) :
    SameSince (max h time) (a.pruned time) b := by
  refine ⟨hs.clock, Nat.max_le.2 ⟨hs.le_clock, ht⟩, fun hlt => ?_, fun hle key => ?_⟩
  · obtain ⟨hlt, hlt'⟩ := Nat.max_lt.1 hlt
    rw [ha.mem_versions_pruned hlt', hs.versions hlt]
  · obtain ⟨hle, hle'⟩ := Nat.max_le.1 hle
    rw [at?_pruned hle', hs.at_eq hle]

theorem SameSince.clear (hs : SameSince h a b) : SameSince h a.clear b.clear :=
  ⟨congrArg (· + 1) hs.clock, Nat.le_succ_of_le hs.le_clock, fun _ => Iff.rfl, fun _ _ => rfl⟩

/-- Two stores that tell the same since a start tell of the same terms. -/
theorem SameSince.terms_iff (hs : SameSince h a b) (hle : h ≤ start) (ha : a.Sound) (hb : b.Sound)
    (hda : a.Dated) (hdb : b.Dated) (hla : a.Logged start) (hlb : b.Logged start)
    (hca : a.Chronicle start later) (hcb : b.Chronicle start later') (term : String) :
    (∃ slot ∈ (a.committedAfter start).toList, term ∈ (a.termsSince slot start).toList) ↔
      ∃ slot ∈ (b.committedAfter start).toList, term ∈ (b.termsSince slot start).toList := by
  have hmem : ∀ key value, (key, value) ∈ later ↔ (key, value) ∈ later' := by
    intro key value
    rw [hca.mem_iff, hcb.mem_iff]
    refine exists_congr fun v => and_congr_left fun hv => ?_
    exact hs.versions (Nat.lt_of_le_of_lt hle hv.1)
  have hkeys : ∀ key, key ∈ later.map Prod.fst ↔ key ∈ later'.map Prod.fst := by
    intro key
    simp [hmem]
  rw [hca.terms_iff ha hda hla, hcb.terms_iff hb hdb hlb]
  simp only [hmem, hkeys, hs.at_eq hle]

end SameSince

section Aligned

/-- Two stores that have chains for the same ones of some keys, in the same order of slots. -/
structure Aligned (S : Key → Prop) (a b : VersionStore ε) : Prop where
  placed : ∀ {key}, S key → (a.slotOf? key = none ↔ b.slotOf? key = none)
  before : ∀ {key key' m m' n n'}, S key → S key' → a.slotOf? key = some m →
    a.slotOf? key' = some m' → b.slotOf? key = some n → b.slotOf? key' = some n' →
      (m < m' ↔ n < n')

theorem Aligned.refl (S : Key → Prop) (a : VersionStore ε) : Aligned S a a := by
  refine ⟨fun _ => Iff.rfl, fun _ _ hm hm' hn hn' => ?_⟩
  cases hm.symm.trans hn
  cases hm'.symm.trans hn'
  exact Iff.rfl

theorem Aligned.symm (hs : Aligned S a b) : Aligned S b a :=
  ⟨fun hk => (hs.placed hk).symm, fun hk hk' hm hm' hn hn' => (hs.before hk hk' hn hn' hm hm').symm⟩

theorem Aligned.mono (hs : Aligned S a b) (hsub : ∀ key, S' key → S key) : Aligned S' a b :=
  ⟨fun hk => hs.placed (hsub _ hk), fun hk hk' => hs.before (hsub _ hk) (hsub _ hk')⟩

/-- Stores that have the same slots as two that are aligned. -/
theorem Aligned.congr {a' b' : VersionStore ε} (hs : Aligned S a b)
    (ha : ∀ {key}, S key → a'.slotOf? key = a.slotOf? key)
    (hb : ∀ {key}, S key → b'.slotOf? key = b.slotOf? key) : Aligned S a' b' := by
  refine ⟨fun hk => ?_, fun hk hk' hm hm' hn hn' => ?_⟩
  · rw [ha hk, hb hk, hs.placed hk]
  · rw [ha hk] at hm
    rw [ha hk'] at hm'
    rw [hb hk] at hn
    rw [hb hk'] at hn'
    exact hs.before hk hk' hm hm' hn hn'

theorem Sound.slotOf?_lt (ha : a.Sound) {n : Slot} (hn : a.slotOf? key = some n) :
    n < a.nextSlot := by
  obtain ⟨c, hc, rfl⟩ := Option.map_eq_some_iff.1 hn
  exact ha.slot_lt hc

/-- The place that a key has or would get comes before that of another key in both stores or in
none. -/
theorem Aligned.getD_lt_iff (hs : Aligned S a b) (ha : a.Sound) (hb : b.Sound) (hk : S key)
    (hk' : S key') {m' n' : Slot} (hm' : a.slotOf? key' = some m')
    (hn' : b.slotOf? key' = some n') :
    (a.slotOf? key).getD a.nextSlot < m' ↔ (b.slotOf? key).getD b.nextSlot < n' := by
  cases hm : a.slotOf? key with
  | none =>
    rw [(hs.placed hk).1 hm]
    exact iff_of_false (Nat.not_lt_of_lt (ha.slotOf?_lt hm')) (Nat.not_lt_of_lt (hb.slotOf?_lt hn'))
  | some m =>
    obtain ⟨n, hn⟩ := Option.ne_none_iff_exists'.1 fun hn =>
      Option.some_ne_none m (hm.symm.trans ((hs.placed hk).2 hn))
    rw [hn]
    exact hs.before hk hk' hm hm' hn hn'

theorem Aligned.lt_getD_iff (hs : Aligned S a b) (ha : a.Sound) (hb : b.Sound) (hk : S key)
    (hk' : S key') {m n : Slot} (hm : a.slotOf? key = some m) (hn : b.slotOf? key = some n) :
    m < (a.slotOf? key').getD a.nextSlot ↔ n < (b.slotOf? key').getD b.nextSlot := by
  cases hm' : a.slotOf? key' with
  | none =>
    rw [(hs.placed hk').1 hm']
    exact iff_of_true (ha.slotOf?_lt hm) (hb.slotOf?_lt hn)
  | some m' =>
    obtain ⟨n', hn'⟩ := Option.ne_none_iff_exists'.1 fun hn' =>
      Option.some_ne_none m' (hm'.symm.trans ((hs.placed hk').2 hn'))
    rw [hn']
    exact hs.before hk hk' hm hm' hn hn'

theorem Aligned.put (hs : Aligned S a b) (ha : a.Sound) (hb : b.Sound) (w : Write ε) :
    Aligned S (a.put w) (b.put w) := by
  refine ⟨fun {key} hk => ?_, fun {key key' m m' n n'} hk hk' hm hm' hn hn' => ?_⟩
  · rw [slotOf?_put, slotOf?_put]
    split
    · exact iff_of_false (Option.some_ne_none _) (Option.some_ne_none _)
    · exact hs.placed hk
  · rw [slotOf?_put] at hm hm' hn hn'
    split at hm <;> rename_i hkey
    · rw [if_pos hkey] at hn
      cases hm
      cases hn
      split at hm' <;> rename_i hkey'
      · rw [if_pos hkey'] at hn'
        cases hm'
        cases hn'
        obtain rfl := hkey.symm.trans hkey'
        exact iff_of_false (Nat.lt_irrefl _) (Nat.lt_irrefl _)
      · rw [if_neg hkey'] at hn'
        exact hs.getD_lt_iff ha hb hk hk' hm' hn'
    · rw [if_neg hkey] at hn
      split at hm' <;> rename_i hkey'
      · rw [if_pos hkey'] at hn'
        cases hm'
        cases hn'
        exact hs.lt_getD_iff ha hb hk hk' hm hn
      · rw [if_neg hkey'] at hn'
        exact hs.before hk hk' hm hm' hn hn'

theorem Aligned.puts (hs : Aligned S a b) (ha : a.Sound) (hb : b.Sound) (ws : List (Write ε)) :
    Aligned S (ws.foldl VersionStore.put a) (ws.foldl VersionStore.put b) := by
  induction ws generalizing a b with
  | nil => exact hs
  | cons w ws ih => exact ih (hs.put ha hb w) (ha.put w) (hb.put w)

theorem Aligned.apply (hs : Aligned S a b) (ha : a.Sound) (hb : b.Sound) (ws : List (Write ε)) :
    Aligned S (a.apply ws) (b.apply ws) := by
  have htick : Aligned S { a with clock := a.clock + 1 } { b with clock := b.clock + 1 } :=
    ⟨hs.placed, hs.before⟩
  have hputs := htick.puts ha.tick hb.tick ws
  exact ⟨hputs.placed, hputs.before⟩

/-- A key that is live keeps its slot when versions are pruned. -/
theorem slotOf?_pruned (hl : ∃ card, a.latest? key = some card) :
    (a.pruned time).slotOf? key = a.slotOf? key := by
  obtain ⟨card, hcard⟩ := hl
  unfold slotOf?
  rw [chain?_pruned]
  cases hc : a.chain? key with
  | none => rfl
  | some c =>
    have hlive : ((c.pruned time).isDead time) = false := by
      refine Bool.eq_false_iff.2 fun hdead => ?_
      have hnone := Chain.latest?_of_isDead hdead
      have hhead : (c.pruned time).latest? = c.latest? := Version.head?_reachable
      rw [latest?_eq, hc, Option.bind_some, ← hhead, hnone] at hcard
      cases hcard
    rw [Option.map_some, Option.filter_some, hlive]
    rfl

/-- Those of some keys that have a card in the last commit. -/
def Present (S : Key → Prop) (a : VersionStore ε) (key : Key) : Prop :=
  S key ∧ ∃ card, a.latest? key = some card

/-- A key that is present in aligned stores has a slot in both. -/
theorem Aligned.exists_slots (hs : Aligned S a b) (hk : a.Present S key) :
    ∃ m n, a.slotOf? key = some m ∧ b.slotOf? key = some n := by
  obtain ⟨hkey, card, hcard⟩ := hk
  rw [latest?_eq] at hcard
  obtain ⟨c, hc, -⟩ := Option.bind_eq_some_iff.1 hcard
  have hm : a.slotOf? key = some c.slot := congrArg (Option.map Chain.slot) hc
  obtain ⟨n, hn⟩ := Option.ne_none_iff_exists'.1 fun hn =>
    Option.some_ne_none c.slot (hm.symm.trans ((hs.placed hkey).2 hn))
  exact ⟨c.slot, n, hm, hn⟩

theorem Sound.slot_ne (ha : a.Sound) {m m' : Slot} (hm : a.slotOf? key = some m)
    (hm' : a.slotOf? key' = some m') (hne : key ≠ key') : m ≠ m' := by
  obtain ⟨c, hc, rfl⟩ := Option.map_eq_some_iff.1 hm
  obtain ⟨c', hc', rfl⟩ := Option.map_eq_some_iff.1 hm'
  exact fun he => hne (ha.slot_inj hc hc' he)

/-- The keys with a chain are live, as long as they are among those that were never removed. -/
def Lives (S : Key → Prop) (a : VersionStore ε) : Prop :=
  ∀ key, S key → (a.slotOf? key).isSome = true → ∃ card, a.latest? key = some card

theorem Lives.mono (hl : Lives S a) (hsub : ∀ key, S' key → S key) : Lives S' a :=
  fun key hk => hl key (hsub key hk)

theorem Aligned.pruned (hs : Aligned S a b) (hl : Lives S a) (time : Stamp) :
    Aligned S (a.pruned time) b := by
  refine hs.congr (fun {key} hk => ?_) fun _ => rfl
  cases hn : a.slotOf? key with
  | some n => exact (slotOf?_pruned (hl key hk (by rw [hn]; rfl))).trans hn
  | none =>
    have hc : a.chain? key = none := Option.map_eq_none_iff.1 hn
    unfold slotOf?
    rw [chain?_pruned, hc]
    rfl

theorem Lives.pruned (hl : Lives S a) (time : Stamp) : Lives S (a.pruned time) := by
  intro key hk hsome
  rw [latest?_pruned]
  refine hl key hk ?_
  obtain ⟨c, hc⟩ := Option.isSome_iff_exists.1 (Option.isSome_map.symm.trans hsome)
  obtain ⟨c₀, hc₀, -⟩ := chain?_of_pruned hc
  unfold slotOf?
  rw [hc₀]
  rfl

theorem Lives.apply (hl : Lives S a) (hn : (ws.map Prod.fst).Nodup) :
    Lives (fun key => S key ∧ (key, none) ∉ ws) (a.apply ws) := by
  rintro key ⟨hk, hnone⟩ hsome
  by_cases hmem : key ∈ ws.map Prod.fst
  · obtain ⟨⟨key, value⟩, hw, rfl⟩ := List.mem_map.1 hmem
    rw [latest?_apply_of_mem hn hw]
    cases value with
    | none => exact absurd hw hnone
    | some card => exact ⟨card, rfl⟩
  · rw [latest?_apply_of_notMem hmem]
    refine hl key hk ?_
    unfold slotOf? at hsome ⊢
    rw [chain?_apply, chain?_puts_of_notMem hmem] at hsome
    exact hsome

end Aligned

end Cardfile.VersionStore
