import Cardfile.Proofs.Steps

/-! # Locks and pending writes

Locks and pending writes belong to the transactions that run. A key is locked by one of them at
most, who has staged a write holds the lock on its key, and nothing is left of a transaction that
has ended.
-/

namespace Cardfile

variable {l l' : Locks} {p p' : Dict Key (TxId × Staged)}
  {live : Session → Option (Transaction Record)} {s s' : Session} {t u : Transaction Record}
  {key key' : Key} {id tx : TxId} {value : Staged} {i j : SharedIndex} {c : Change}

namespace Locks

theorem holder?_insert (l : Locks) (key : Key) (tx : TxId) (key' : Key) :
    (⟨l.holders.insert key tx⟩ : Locks).holder? key' =
      if key = key' then some tx else l.holder? key' :=
  Dict.get?_insert ..

theorem holder?_release (l : Locks) (tx : TxId) (keys : List Key) (key : Key) :
    (l.release tx keys).holder? key =
      if key ∈ keys ∧ l.holder? key = some tx then none else l.holder? key := by
  induction keys generalizing l with
  | nil => simp [release]
  | cons k rest ih =>
    have hcons : l.release tx (k :: rest) =
        (if l.holder? k = some tx then ⟨l.holders.erase k⟩ else l : Locks).release tx rest := rfl
    rw [hcons, ih]
    by_cases hk : l.holder? k = some tx
    · have he : (⟨l.holders.erase k⟩ : Locks).holder? key =
          if k = key then none else l.holder? key := Dict.get?_erase ..
      rw [if_pos hk, he]
      by_cases heq : k = key
      · subst heq
        simp [hk]
      · have hne : key ≠ k := fun e => heq e.symm
        simp [heq, hne]
    · rw [if_neg hk]
      by_cases heq : key = k
      · subst heq
        simp [hk]
      · simp [heq]

end Locks

/-- What the locks and the pending writes say of the transactions that run, one for each session at
most. -/
structure Holdings (l : Locks) (p : Dict Key (TxId × Staged))
    (live : Session → Option (Transaction Record)) : Prop where
  apart : ∀ {s s' t t'}, live s = some t → live s' = some t' → t.id = t'.id → s = s'
  active : ∀ {s t}, live s = some t → t.state = .active
  grouped : ∀ {s t}, live s = some t → t.level ≠ .none
  covered : ∀ {s t key own}, live s = some t → t.ownWrite? key = some own → key ∈ t.locked
  holder_iff : ∀ key id, l.holder? key = some id ↔
    ∃ s t, live s = some t ∧ t.id = id ∧ key ∈ t.locked
  pending_iff : ∀ key id value, p.get? key = some (id, value) ↔
    ∃ s t, live s = some t ∧ t.id = id ∧ t.ownWrite? key = some value

section Holdings

theorem holdings_empty : Holdings .empty .empty fun _ => none := by
  constructor <;> simp [Locks.holder?, Locks.empty]

theorem Holdings.mem_locked_iff (h : Holdings l p live) (hc : live s = some t) :
    key ∈ t.locked ↔ l.holder? key = some t.id := by
  rw [h.holder_iff]
  constructor
  · exact fun hk => ⟨s, t, hc, rfl, hk⟩
  · rintro ⟨s', t', hc', hid, hk⟩
    obtain rfl := h.apart hc' hc hid
    cases hc.symm.trans hc'
    exact hk

theorem Holdings.ownWrite?_iff (h : Holdings l p live) (hc : live s = some t) :
    t.ownWrite? key = some value ↔ p.get? key = some (t.id, value) := by
  rw [h.pending_iff]
  constructor
  · exact fun hk => ⟨s, t, hc, rfl, hk⟩
  · rintro ⟨s', t', hc', hid, hk⟩
    obtain rfl := h.apart hc' hc hid
    cases hc.symm.trans hc'
    exact hk

/-- Who has a write pending holds the lock. -/
theorem Holdings.holder?_of_pending (h : Holdings l p live) (hp : p.get? key = some (id, value)) :
    l.holder? key = some id := by
  obtain ⟨s, t, hc, hid, hk⟩ := (h.pending_iff key id value).1 hp
  exact (h.holder_iff key id).2 ⟨s, t, hc, hid, h.covered hc hk⟩

theorem update_eq_some_iff {u? : Option (Transaction Record)} :
    Function.update live s u? s' = some u ↔ (s' = s ∧ u? = some u) ∨ (s' ≠ s ∧ live s' = some u) := by
  by_cases hs : s' = s
  · subst hs
    simp
  · simp [hs]

/-- A number that is nobody else's: a session has its transaction under it, or none. -/
structure OwnNumber (live : Session → Option (Transaction Record)) (s : Session) (id : TxId) :
    Prop where
  mine : ∀ {t}, live s = some t → t.id = id
  others : ∀ {s' t}, s' ≠ s → live s' = some t → t.id ≠ id

theorem Holdings.ownNumber (h : Holdings l p live) (hc : live s = some t) :
    OwnNumber live s t.id where
  mine hc' := by cases hc.symm.trans hc'; rfl
  others hs hc' hid := hs (h.apart hc' hc hid)

section Update

variable {u? : Option (Transaction Record)} {P : Transaction Record → Prop}

theorem OwnNumber.exists_mine (h : OwnNumber live s id) (hu : ∀ u, u? = some u → u.id = id) :
    (∃ s' t, Function.update live s u? s' = some t ∧ t.id = id ∧ P t) ↔
      ∃ u, u? = some u ∧ P u := by
  constructor
  · rintro ⟨s', t, hc, hid, hP⟩
    rcases update_eq_some_iff.1 hc with ⟨-, hc⟩ | ⟨hs, hc⟩
    · exact ⟨t, hc, hP⟩
    · exact absurd hid (h.others hs hc)
  · rintro ⟨u, hu', hP⟩
    exact ⟨s, u, update_eq_some_iff.2 (.inl ⟨rfl, hu'⟩), hu u hu', hP⟩

theorem OwnNumber.exists_theirs (h : OwnNumber live s id) (hu : ∀ u, u? = some u → u.id = id)
    (hne : tx ≠ id) : (∃ s' t, Function.update live s u? s' = some t ∧ t.id = tx ∧ P t) ↔
      ∃ s' t, live s' = some t ∧ t.id = tx ∧ P t := by
  constructor
  · rintro ⟨s', t, hc, hid, hP⟩
    rcases update_eq_some_iff.1 hc with ⟨-, hc⟩ | ⟨-, hc⟩
    · exact absurd (hid.symm.trans (hu t hc)) hne
    · exact ⟨s', t, hc, hid, hP⟩
  · rintro ⟨s', t, hc, hid, hP⟩
    refine ⟨s', t, update_eq_some_iff.2 (.inr ⟨?_, hc⟩), hid, hP⟩
    rintro rfl
    exact hne (hid.symm.trans (h.mine hc))

theorem OwnNumber.apart_update (h : OwnNumber live s id) (hl : Holdings l p live)
    (hu : ∀ u, u? = some u → u.id = id) {s₁ s₂ : Session} {t₁ t₂ : Transaction Record}
    (h₁ : Function.update live s u? s₁ = some t₁) (h₂ : Function.update live s u? s₂ = some t₂)
    (hid : t₁.id = t₂.id) : s₁ = s₂ := by
  rcases update_eq_some_iff.1 h₁ with ⟨rfl, new₁⟩ | ⟨hs₁, old₁⟩
  · rcases update_eq_some_iff.1 h₂ with ⟨rfl, -⟩ | ⟨hs₂, old₂⟩
    · rfl
    · exact absurd (hid.symm.trans (hu t₁ new₁)) (h.others hs₂ old₂)
  · rcases update_eq_some_iff.1 h₂ with ⟨rfl, new₂⟩ | ⟨-, old₂⟩
    · exact absurd (hid.trans (hu t₂ new₂)) (h.others hs₁ old₁)
    · exact hl.apart old₁ old₂ hid

/-- Another transaction for a session, or none: what has to hold of it, and of the locks and the
pending writes under its number and under others. -/
theorem Holdings.update (h : Holdings l p live) (hn : OwnNumber live s id)
    (hu : ∀ u, u? = some u → u.id = id ∧ u.state = .active ∧ u.level ≠ .none ∧
      ∀ key own, u.ownWrite? key = some own → key ∈ u.locked)
    (hlock : ∀ key, l'.holder? key = some id ↔ ∃ u, u? = some u ∧ key ∈ u.locked)
    (hlocks : ∀ key tx, tx ≠ id → (l'.holder? key = some tx ↔ l.holder? key = some tx))
    (hwrite : ∀ key value, p'.get? key = some (id, value) ↔
      ∃ u, u? = some u ∧ u.ownWrite? key = some value)
    (hwrites : ∀ key tx value, tx ≠ id →
      (p'.get? key = some (tx, value) ↔ p.get? key = some (tx, value))) :
    Holdings l' p' (Function.update live s u?) := by
  have number : ∀ u, u? = some u → u.id = id := fun u h => (hu u h).1
  constructor
  · exact fun h₁ h₂ hid => hn.apart_update h number h₁ h₂ hid
  · intro s' t hc
    rcases update_eq_some_iff.1 hc with ⟨-, hc⟩ | ⟨-, hc⟩
    · exact (hu t hc).2.1
    · exact h.active hc
  · intro s' t hc
    rcases update_eq_some_iff.1 hc with ⟨-, hc⟩ | ⟨-, hc⟩
    · exact (hu t hc).2.2.1
    · exact h.grouped hc
  · intro s' t key own hc
    rcases update_eq_some_iff.1 hc with ⟨-, hc⟩ | ⟨-, hc⟩
    · exact (hu t hc).2.2.2 key own
    · exact h.covered hc
  · intro key tx
    by_cases hid : tx = id
    · rw [hid, hlock, hn.exists_mine number]
    · rw [hlocks key tx hid, hn.exists_theirs number hid, h.holder_iff]
  · intro key tx value
    by_cases hid : tx = id
    · rw [hid, hwrite, hn.exists_mine number]
    · rw [hwrites key tx value hid, hn.exists_theirs number hid, h.pending_iff]

end Update

/-- A transaction that has more in mind but holds the same. -/
theorem Holdings.rebind (h : Holdings l p live) (hc : live s = some t) (hid : u.id = t.id)
    (hstate : u.state = t.state) (hlevel : u.level = t.level) (hlocked : u.locked = t.locked)
    (hwrites : u.writes = t.writes) : Holdings l p (Function.update live s (some u)) := by
  have hown : ∀ key, u.ownWrite? key = t.ownWrite? key :=
    fun key => congrArg (Dict.get? · key) hwrites
  refine h.update (h.ownNumber hc) ?_ ?_ (fun _ _ _ => Iff.rfl) ?_ fun _ _ _ _ => Iff.rfl
  · rintro _ ⟨⟩
    refine ⟨hid, hstate.trans (h.active hc), hlevel ▸ h.grouped hc, fun key own ho => ?_⟩
    rw [hlocked]
    exact h.covered hc (hown key ▸ ho)
  · intro key
    simp [hlocked, h.mem_locked_iff hc]
  · intro key value
    simp [hown, h.ownWrite?_iff hc]

/-- A transaction takes a lock that nobody holds. -/
theorem Holdings.take (h : Holdings l p live) (hc : live s = some t)
    (hn : l.holder? key = none) :
    Holdings ⟨l.holders.insert key t.id⟩ p
      (Function.update live s (some { t with locked := t.locked ++ [key] })) := by
  refine h.update (h.ownNumber hc) ?_ ?_ ?_ ?_ fun _ _ _ _ => Iff.rfl
  · rintro _ ⟨⟩
    exact ⟨rfl, (h.active hc : t.state = .active), (h.grouped hc : t.level ≠ .none),
      fun key own ho => List.mem_append_left _ (h.covered hc ho)⟩
  · intro key'
    rw [Locks.holder?_insert]
    by_cases hk : key = key'
    · subst hk
      simp
    · simp [hk, Ne.symm hk, h.mem_locked_iff hc]
  · intro key' id hne
    rw [Locks.holder?_insert]
    by_cases hk : key = key'
    · subst hk
      simp [hn, Ne.symm hne]
    · rw [if_neg hk]
  · intro key' value
    have hown : ({ t with locked := t.locked ++ [key] } : Transaction Record).ownWrite? key' =
      t.ownWrite? key' := rfl
    simp [hown, h.ownWrite?_iff hc]

/-- A transaction stages a write to a key that it has locked. -/
theorem Holdings.stage (h : Holdings l p live) (hc : live s = some t) (hk : key ∈ t.locked)
    (value : Staged) :
    Holdings l (p.insert key (t.id, value)) (Function.update live s (some (t.write key value))) := by
  have hown : ∀ key', (t.write key value).ownWrite? key' =
      if key = key' then some value else t.ownWrite? key' := fun _ => Dict.get?_insert ..
  refine h.update (h.ownNumber hc) ?_ ?_ (fun _ _ _ => Iff.rfl) ?_ ?_
  · rintro _ ⟨⟩
    refine ⟨rfl, (h.active hc : t.state = .active), (h.grouped hc : t.level ≠ .none),
      fun key' own ho => ?_⟩
    rw [hown] at ho
    split at ho
    · next he => exact he ▸ hk
    · exact (h.covered hc ho : key' ∈ t.locked)
  · intro key'
    simp [← h.mem_locked_iff hc, Transaction.write]
  · intro key' value'
    simp only [Option.some.injEq, exists_eq_left', hown, Dict.get?_insert]
    by_cases he : key = key'
    · simp [he]
    · simp [he, h.ownWrite?_iff hc]
  · intro key' id value' hne
    rw [Dict.get?_insert]
    by_cases he : key = key'
    · subst he
      -- nobody else has a write to the key pending
      rw [if_pos rfl]
      constructor
      · rintro ⟨⟩
        exact absurd rfl hne
      · intro hp
        have hsame := (h.holder?_of_pending hp).symm.trans ((h.mem_locked_iff hc).1 hk)
        exact absurd (Option.some.inj hsame) hne
    · rw [if_neg he]

/-- What is pending when a transaction has ended. -/
theorem get?_pending_close (p : Dict Key (TxId × Staged)) (t : Transaction Record) :
    (p.filter fun key e => !(t.locked.contains key && e.1 = t.id)).get? key = some (id, value) ↔
      p.get? key = some (id, value) ∧ ¬ (key ∈ t.locked ∧ id = t.id) := by
  rw [Dict.get?_filter, Option.filter_eq_some_iff]
  simp [imp_iff_not_or]

/-- A transaction ends. -/
theorem Holdings.close (h : Holdings l p live) (hc : live s = some t) :
    Holdings (l.release t.id t.locked)
      (p.filter fun key e => !(t.locked.contains key && e.1 = t.id))
      (Function.update live s none) := by
  refine h.update (h.ownNumber hc) (fun u hu => by cases hu) ?_ ?_ ?_ ?_
  · intro key
    simp [Locks.holder?_release, h.mem_locked_iff hc]
  · intro key id hne
    rw [Locks.holder?_release]
    split
    · next hk => simp [hk.2, Ne.symm hne]
    · rfl
  · intro key value
    rw [get?_pending_close]
    constructor
    · rintro ⟨hp, hn⟩
      exact absurd ⟨(h.mem_locked_iff hc).2 (h.holder?_of_pending hp), rfl⟩ hn
    · rintro ⟨u, hu, -⟩
      cases hu
  · intro key id value hne
    rw [get?_pending_close]
    exact and_iff_left fun hn => hne hn.2

/-- A transaction begins; it has neither locks nor writes. -/
theorem Holdings.open (h : Holdings l p live) (hn : live s = none) {level : Isolation}
    {start : Stamp} (hl : level ≠ .none) (hid : ∀ s' t', live s' = some t' → t'.id ≠ id) :
    Holdings l p (Function.update live s (some (.begun id level start))) := by
  have hnew : OwnNumber live s id :=
    ⟨fun hc => absurd (hn.symm.trans hc) (Option.some_ne_none _).symm, fun _ hc => hid _ _ hc⟩
  refine h.update hnew ?_ ?_ (fun _ _ _ => Iff.rfl) ?_ fun _ _ _ _ => Iff.rfl
  · rintro _ ⟨⟩
    exact ⟨rfl, rfl, hl, fun key own ho => by cases ho⟩
  · intro key
    constructor
    · intro hk
      obtain ⟨s', t', hc, he, -⟩ := (h.holder_iff key id).1 hk
      exact absurd he (hid s' t' hc)
    · rintro ⟨_, ⟨⟩, hk⟩
      cases hk
  · intro key value
    constructor
    · intro hk
      obtain ⟨s', t', hc, he, -⟩ := (h.pending_iff key id value).1 hk
      exact absurd he (hid s' t' hc)
    · rintro ⟨_, ⟨⟩, hk⟩
      cases hk

end Holdings

end Cardfile
