import Cardfile.Pattern.Meaning
import Cardfile.Proofs.ItemTails

/-! # Enclosing

A pattern is enclosed by putting it between parentheses. What it is read as stays the same, and the
parenthesis behind it is left over for what is around, unless the pattern ends in a comment.
-/

namespace Cardfile.Pattern

variable {v v' : Bool} {c d : Char} {cs mid rest tail : List Char} {fuel fuel' : Nat}
  {done : List Expr} {e : Expr}

section Items

/-- Repeats the last item and passes over what only changes the preferred match. -/
def repeatItems? (least : Nat) (most : Option Nat) (done : List Expr) (cs : List Char) :
    Option (List Expr × List Char) :=
  (repeatLast? least most done).map fun items => (items, skipLazy cs)

/-- The items after one more has been read, which begins with the given character. Parentheses and
the ends of branches are left out. -/
def nextItems? (v : Bool) (done : List Expr) (c : Char) (cs : List Char) :
    Option (List Expr × List Char) :=
  match c with
  | '[' => (bracket? v cs).map fun p => (p.1 :: done, p.2)
  | '?' => repeatItems? 0 (some 1) done cs
  | '*' => repeatItems? 0 none done cs
  | '+' => repeatItems? 1 none done cs
  | '\x7b' => (bounds? v cs).bind fun p => repeatItems? p.1.1 p.1.2 done (skip v p.2)
  | '\\' => (escape? v cs).map fun p => (p.1.toExpr :: done, p.2)
  | '.' => some (.dot :: done, cs)
  | '^' => some (.assertion .lineStart :: done, cs)
  | '$' => some (.assertion .lineEnd :: done, cs)
  | c => some (.letter ⟨c, false⟩ :: done, cs)

theorem skipLazy_of_ne (h : ∀ mid, cs ≠ '?' :: mid) : skipLazy cs = cs := by
  unfold skipLazy
  split
  · exact absurd rfl (h _)
  · rfl

theorem skipLazy_append (cs : List Char) (ht : Tail tail) :
    skipLazy (cs ++ tail) = skipLazy cs ++ tail := by
  by_cases hlazy : ∀ mid, cs ≠ '?' :: mid
  · rw [skipLazy_of_ne hlazy, skipLazy_of_ne (ht.ne_cons (by decide) hlazy)]
  · obtain ⟨mid, rfl⟩ : ∃ mid, cs = '?' :: mid := by simpa using hlazy
    rfl

theorem extends_repeatItems {least : Nat} {most : Option Nat} {items : List Expr}
    (h : repeatItems? least most done cs = some (items, rest)) :
    Extends (repeatItems? least most done) cs items rest := by
  obtain ⟨items, hr, he⟩ := Option.map_eq_some_iff.1 h
  cases he
  refine extends_of_append fun tail ht => ?_
  rw [repeatItems?, hr, Option.map_some, skipLazy_append cs ht]

theorem extends_nextItems {items : List Expr} (h : nextItems? v done c cs = some (items, rest)) :
    Extends (nextItems? v done c) cs items rest := by
  unfold nextItems? at h
  unfold Extends nextItems?
  split at h
  · obtain ⟨⟨e, left⟩, hb, he⟩ := Option.map_eq_some_iff.1 h
    cases he
    exact (extends_of_append fun _ ht => bracket_append hb ht).map (· :: done)
  iterate 3 exact extends_repeatItems h
  · obtain ⟨⟨⟨least, most⟩, left⟩, hb, hr⟩ := Option.bind_eq_some_iff.1 h
    have hnil : skip v left = [] →
        rest = [] ∧ repeatItems? least most done [] = some (items, []) := by
      intro hs
      dsimp only at hr
      rw [hs] at hr
      obtain ⟨_, -, he⟩ := Option.map_eq_some_iff.1 hr
      cases he
      exact ⟨rfl, hr⟩
    obtain ⟨g, hg, he⟩ := (extends_repeatItems hr).after (carries_skip v left) hnil
    refine ⟨g, hg, fun tail ht => ?_⟩
    rw [bounds_append hb ht]
    exact he tail ht
  · obtain ⟨⟨p, left⟩, hp, he⟩ := Option.map_eq_some_iff.1 h
    cases he
    exact (extends_escape hp).map (·.toExpr :: done)
  all_goals
    cases h
    exact ⟨_, carries_append _, fun _ _ => rfl⟩

/-- An item that is neither a parenthesis nor the end of a branch is read by itself. -/
theorem items_of_next (hs : skip v cs = c :: mid) (hclose : c ≠ ')') (hbar : c ≠ '|')
    (hopen : c ≠ '(') :
    items? (fuel + 1) v done cs =
      (nextItems? v done c mid).bind fun p => items? fuel v p.1 p.2 := by
  rw [items?, hs]
  split
  · next heq => cases heq
  · next heq => exact absurd (List.cons.inj heq).1 hclose
  · next heq => exact absurd (List.cons.inj heq).1 hbar
  · next heq => exact absurd (List.cons.inj heq).1 hopen
  · next heq =>
    cases heq
    change _ = ((bracket? v mid).map _).bind _
    cases bracket? v mid <;> rfl
  iterate 3
    next heq =>
      cases heq
      change _ = (repeatItems? _ _ done mid).bind _
      unfold repeatItems?
      cases repeatLast? _ _ done <;> rfl
  · next heq =>
    cases heq
    change _ = ((bounds? v mid).bind _).bind _
    cases bounds? v mid with
    | none => rfl
    | some p =>
      change _ = (repeatItems? p.1.1 p.1.2 done (skip v p.2)).bind _
      unfold repeatItems?
      cases hr : repeatLast? p.1.1 p.1.2 done <;> simp [hr]
  · next heq =>
    cases heq
    change _ = ((escape? v mid).map _).bind _
    cases escape? v mid <;> rfl
  iterate 3
    next heq =>
      cases heq
      rfl
  · next hbracket hask hstar hplus hbrace hslash hdot hcaret hdollar heq =>
    cases heq
    unfold nextItems?
    split
    · exact (hbracket rfl).elim
    · exact (hask rfl).elim
    · exact (hstar rfl).elim
    · exact (hplus rfl).elim
    · exact (hbrace rfl).elim
    · exact (hslash rfl).elim
    · exact (hdot rfl).elim
    · exact (hcaret rfl).elim
    · exact (hdollar rfl).elim
    · rfl

theorem items_nil (fuel : Nat) (v : Bool) (done : List Expr) :
    items? (fuel + 1) v done [] = some (.ofItems done.reverse, v, []) := by
  rw [items?, skip_nil]

theorem items_of_end (hs : skip v cs = c :: mid) (hc : c = ')' ∨ c = '|') :
    items? (fuel + 1) v done cs = some (.ofItems done.reverse, v, c :: mid) := by
  rw [items?, hs]
  rcases hc with rfl | rfl <;> rfl

theorem items_of_flags {changes : FlagChanges} (hs : skip v cs = '(' :: mid)
    (ho : opening? (skip v mid) = some (.flags changes, rest)) :
    items? (fuel + 1) v done cs =
      items? fuel ((changes.value? .verbose).getD v) (.flags changes :: done) rest := by
  rw [items?, hs]
  change (opening? (skip v mid)).bind _ = _
  rw [ho]
  rfl

/-- The items behind a group, which is closed by a parenthesis. -/
def groupEnd? (fuel : Nat) (v : Bool) (done : List Expr) (capture : Capture)
    (changes : FlagChanges) (body : List Expr) : List Char → Option (Expr × Bool × List Char)
  | ')' :: rest => items? fuel v (.group capture changes (.ofBranches body) :: done) rest
  | _ => none

theorem items_of_group {capture : Capture} {changes : FlagChanges}
    (hs : skip v cs = '(' :: mid) (ho : opening? (skip v mid) = some (.group capture changes, rest)) :
    items? (fuel + 1) v done cs =
      (branches? fuel ((changes.value? .verbose).getD v) rest).bind fun p =>
        groupEnd? fuel v done capture changes p.1 p.2 := by
  rw [items?, hs]
  change (opening? (skip v mid)).bind _ = _
  rw [ho]
  rfl

/-- The branches behind one, which a bar keeps apart. -/
def branchEnd? (fuel : Nat) (branch : Expr) (v : Bool) :
    List Char → Option (List Expr × List Char)
  | '|' :: rest => (branches? fuel v rest).map fun p => (branch :: p.1, p.2)
  | rest => some ([branch], rest)

theorem branchEnd_of_ne {branch : Expr} (h : ∀ mid, cs ≠ '|' :: mid) :
    branchEnd? fuel branch v cs = some ([branch], cs) := by
  unfold branchEnd?
  split
  · exact absurd rfl (h _)
  · rfl

theorem branches_succ (fuel : Nat) (v : Bool) (cs : List Char) :
    branches? (fuel + 1) v cs =
      (items? fuel v [] cs).bind fun p => branchEnd? fuel p.1 p.2.1 p.2.2 := by
  rw [branches?]
  cases items? fuel v [] cs with
  | none => rfl
  | some p =>
    obtain ⟨branch, v', left⟩ := p
    dsimp only [Option.bind_some, bind]
    by_cases hbar : ∀ mid, left ≠ '|' :: mid
    · rw [branchEnd_of_ne hbar]
      split
      · exact absurd rfl (hbar _)
      · rfl
    · obtain ⟨mid, rfl⟩ : ∃ mid, left = '|' :: mid := by simpa using hbar
      change (branches? fuel v' mid).bind _ = (branches? fuel v' mid).map _
      cases branches? fuel v' mid <;> rfl

end Items

section Carrying

theorem forall_succ_le {P : Nat → Prop} (h : ∀ n, fuel ≤ n → P (n + 1)) : ∀ n, fuel + 1 ≤ n → P n
  | 0, hn => absurd hn (Nat.not_succ_le_zero _)
  | n + 1, hn => h n (Nat.le_of_succ_le_succ hn)

variable {v'' : Bool} {bs : List Expr} {branch : Expr}

theorem items_of_nil (h : items? fuel v done [] = some (e, v', rest)) :
    rest = [] ∧ ∀ n, fuel ≤ n → items? n v done [] = some (e, v', []) := by
  obtain _ | fuel := fuel
  · cases h
  rw [items_nil] at h
  cases h
  refine ⟨rfl, fun n hn => ?_⟩
  obtain _ | n := n
  · exact absurd hn (Nat.not_succ_le_zero _)
  exact items_nil n v done

theorem branches_of_nil (h : branches? fuel v [] = some (bs, rest)) :
    rest = [] ∧ ∀ n, fuel ≤ n → branches? n v [] = some (bs, []) := by
  obtain _ | _ | fuel := fuel
  · cases h
  · cases h
  rw [branches_succ, items_nil] at h
  cases h
  refine ⟨rfl, fun n hn => ?_⟩
  obtain _ | _ | n := n
  · omega
  · omega
  rw [branches_succ, items_nil]
  rfl

/-- Items that are read with some fuel are read in the same way with more of it and with a tail
behind the text. -/
def ItemsCarried (fuel : Nat) : Prop :=
  ∀ {v done cs e v' rest}, items? fuel v done cs = some (e, v', rest) →
    ∃ g, Carries rest g ∧ ∀ tail, Tail tail → ∀ n, fuel ≤ n →
      items? n v done (cs ++ tail) = some (e, v', g tail)

/-- The same of branches. -/
def BranchesCarried (fuel : Nat) : Prop :=
  ∀ {v cs bs rest}, branches? fuel v cs = some (bs, rest) →
    ∃ g, Carries rest g ∧ ∀ tail, Tail tail → ∀ n, fuel ≤ n →
      branches? n v (cs ++ tail) = some (bs, g tail)

variable {g : List Char → List Char}

theorem ItemsCarried.onward (ih : ItemsCarried fuel) (hg : Carries mid g)
    (h : items? fuel v done mid = some (e, v', rest)) :
    ∃ g', Carries rest g' ∧ ∀ tail, Tail tail → ∀ n, fuel ≤ n →
      items? n v done (g tail) = some (e, v', g' tail) := by
  refine hg.trans (P := fun cs rest => ∀ n, fuel ≤ n → items? n v done cs = some (e, v', rest))
    (ih h) ?_
  rintro rfl
  exact items_of_nil h

theorem BranchesCarried.onward (ih : BranchesCarried fuel) (hg : Carries mid g)
    (h : branches? fuel v mid = some (bs, rest)) :
    ∃ g', Carries rest g' ∧ ∀ tail, Tail tail → ∀ n, fuel ≤ n →
      branches? n v (g tail) = some (bs, g' tail) := by
  refine hg.trans (P := fun cs rest => ∀ n, fuel ≤ n → branches? n v cs = some (bs, rest))
    (ih h) ?_
  rintro rfl
  exact branches_of_nil h

theorem BranchesCarried.branchEnd (ih : BranchesCarried fuel) (hg : Carries mid g)
    (h : branchEnd? fuel branch v mid = some (bs, rest)) :
    ∃ g', Carries rest g' ∧ ∀ tail, Tail tail → ∀ n, fuel ≤ n →
      branchEnd? n branch v (g tail) = some (bs, g' tail) := by
  refine hg.trans (P := fun cs rest => ∀ n, fuel ≤ n →
    branchEnd? n branch v cs = some (bs, rest)) ?_ ?_
  · by_cases hbar : ∀ more, mid ≠ '|' :: more
    · rw [branchEnd_of_ne hbar] at h
      cases h
      exact ⟨_, carries_append _, fun tail ht n _ =>
        branchEnd_of_ne (ht.ne_cons (by decide) hbar)⟩
    · obtain ⟨more, rfl⟩ : ∃ more, mid = '|' :: more := by simpa using hbar
      obtain ⟨⟨others, left⟩, hb, he⟩ := Option.map_eq_some_iff.1 h
      cases he
      obtain ⟨g', hg', hread⟩ := ih hb
      refine ⟨g', hg', fun tail ht n hn => ?_⟩
      change (branches? n v (more ++ tail)).map _ = _
      rw [hread tail ht n hn]
      rfl
  · rintro rfl
    cases h
    exact ⟨rfl, fun _ _ => rfl⟩

theorem branchesCarried_succ (hb : BranchesCarried fuel) (hi : ItemsCarried fuel) :
    BranchesCarried (fuel + 1) := by
  intro v cs bs rest h
  rw [branches_succ] at h
  obtain ⟨⟨branch, v', left⟩, hitems, hr⟩ := Option.bind_eq_some_iff.1 h
  obtain ⟨g, hg, hread⟩ := hi hitems
  obtain ⟨g', hg', hend⟩ := hb.branchEnd hg hr
  refine ⟨g', hg', fun tail ht n hn => ?_⟩
  obtain _ | n := n
  · exact absurd hn (Nat.not_succ_le_zero _)
  have hn' := Nat.le_of_succ_le_succ hn
  rw [branches_succ, hread tail ht n hn']
  exact hend tail ht n hn'

/-- What an opening parenthesis begins, after what is passed over. -/
theorem opening_carried {o : Opening} (h : opening? (skip v mid) = some (o, rest)) :
    ∃ g, Carries rest g ∧ ∀ tail, Tail tail →
      opening? (skip v (mid ++ tail)) = some (o, g tail) := by
  have hext : Extends opening? (skip v mid) o rest :=
    extends_of_append fun _ ht => opening_append h ht
  refine hext.after (carries_skip v mid) fun hnil => ?_
  rw [hnil] at h
  cases h
  exact ⟨rfl, rfl⟩

/-- A group and what follows it. -/
theorem ItemsCarried.group (hb : BranchesCarried fuel) (hi : ItemsCarried fuel)
    {capture : Capture} {changes : FlagChanges} {body : List Expr} {left : List Char}
    (hg : Carries mid g) (hbody : branches? fuel v' mid = some (body, left))
    (h : groupEnd? fuel v done capture changes body left = some (e, v'', rest)) :
    ∃ g', Carries rest g' ∧ ∀ tail, Tail tail → ∀ n, fuel ≤ n →
      ((branches? n v' (g tail)).bind fun p => groupEnd? n v done capture changes p.1 p.2) =
        some (e, v'', g' tail) := by
  obtain ⟨g₁, hg₁, hread⟩ := hb.onward hg hbody
  unfold groupEnd? at h
  split at h
  · next more =>
    obtain ⟨g₂, hg₂, hafter⟩ := hi h
    refine ⟨g₂, hg₂, fun tail ht n hn => ?_⟩
    rw [hread tail ht n hn, Option.bind_some, hg₁.kept (List.cons_ne_nil _ _) ht]
    exact hafter tail ht n hn
  · cases h

/-- Items that end with the text end before a tail, or lose it in a comment. -/
theorem items_of_skipped (hs : skip v cs = []) :
    ∃ g, Carries [] g ∧ ∀ tail, Tail tail → ∀ n,
      items? (n + 1) v done (cs ++ tail) = some (.ofItems done.reverse, v, g tail) := by
  have hg := carries_skip v cs
  rw [hs] at hg
  rcases hg with hkept | ⟨-, hlost⟩
  · refine ⟨_, carries_append [], fun tail ht n => ?_⟩
    obtain ⟨more, rfl⟩ := ht.eq_cons
    exact items_of_end (hkept _ ht) (.inl rfl)
  · refine ⟨fun _ => [], .inr ⟨rfl, fun _ _ => rfl⟩, fun tail ht n => ?_⟩
    have hnone : skip v (cs ++ tail) = [] := hlost tail ht
    rw [items?, hnone]

/-- What is read first is the end of the items, a parenthesis, or an item by itself. -/
theorem itemsCarried_succ (hb : BranchesCarried fuel) (hi : ItemsCarried fuel) :
    ItemsCarried (fuel + 1) := by
  intro v done cs e v' rest h
  cases hs : skip v cs with
  | nil =>
    rw [items?, hs] at h
    cases h
    obtain ⟨g, hg, hread⟩ := items_of_skipped hs
    refine ⟨g, hg, fun tail ht => forall_succ_le fun n _ => hread tail ht n⟩
  | cons c mid =>
    have hs' := skip_append hs
    by_cases hend : c = ')' ∨ c = '|'
    · rw [items_of_end hs hend] at h
      cases h
      exact ⟨_, carries_append _, fun tail _ => forall_succ_le fun n _ =>
        items_of_end (hs' tail) hend⟩
    obtain ⟨hclose, hbar⟩ := not_or.1 hend
    by_cases hopen : c = '('
    · subst hopen
      cases ho : opening? (skip v mid) with
      | none =>
        rw [items?, hs] at h
        change (opening? (skip v mid)).bind _ = _ at h
        rw [ho] at h
        cases h
      | some p =>
        obtain ⟨opening, left⟩ := p
        obtain ⟨g, hg, hopening⟩ := opening_carried ho
        cases opening with
        | flags changes =>
          rw [items_of_flags hs ho] at h
          obtain ⟨g', hg', hread⟩ := hi.onward hg h
          refine ⟨g', hg', fun tail ht => forall_succ_le fun n hn => ?_⟩
          rw [items_of_flags (hs' tail) (hopening tail ht)]
          exact hread tail ht n hn
        | group capture changes =>
          rw [items_of_group hs ho] at h
          obtain ⟨⟨body, after⟩, hbody, hafter⟩ := Option.bind_eq_some_iff.1 h
          obtain ⟨g', hg', hread⟩ := ItemsCarried.group hb hi hg hbody hafter
          refine ⟨g', hg', fun tail ht => forall_succ_le fun n hn => ?_⟩
          rw [items_of_group (hs' tail) (hopening tail ht)]
          exact hread tail ht n hn
    · rw [items_of_next hs hclose hbar hopen] at h
      obtain ⟨⟨items, left⟩, hnext, hafter⟩ := Option.bind_eq_some_iff.1 h
      obtain ⟨g, hg, hcarried⟩ := extends_nextItems hnext
      obtain ⟨g', hg', hread⟩ := hi.onward hg hafter
      refine ⟨g', hg', fun tail ht => forall_succ_le fun n hn => ?_⟩
      rw [items_of_next (hs' tail) hclose hbar hopen, hcarried tail ht]
      exact hread tail ht n hn

/-- Branches and their items are read in the same way with a tail behind them. -/
theorem carried (fuel : Nat) : BranchesCarried fuel ∧ ItemsCarried fuel := by
  -- branches spend fuel on their items, and items on the branches in parentheses
  induction fuel with
  | zero =>
    constructor
    · intro v cs bs rest h
      cases h
    · intro v done cs e v' rest h
      cases h
  | succ fuel ih => exact ⟨branchesCarried_succ ih.1 ih.2, itemsCarried_succ ih.1 ih.2⟩

end Carrying

/-- A text in a group between the start and the end. -/
def enclosed (cs : List Char) : List Char := '^' :: '(' :: '?' :: ':' :: (cs ++ [')', '$'])

/-- An expression in a group between the start and the end. -/
def Expr.enclosed (e : Expr) : Expr :=
  .sequence [.assertion .lineStart, .group .none [] e, .assertion .lineEnd]

section Enclosed

theorem depth_enclosed (e : Expr) : e.enclosed.depth = e.depth + 2 := by
  simp [Expr.enclosed, Expr.depth, Expr.maxDepth]

theorem groupNames_enclosed (e : Expr) : e.enclosed.groupNames = e.groupNames := by
  simp [Expr.enclosed, Expr.groupNames, Expr.allGroupNames, Capture.name?]

theorem meaning_enclosed (e : Expr) :
    e.enclosed.meaning? .start = (e.meaning? .start).map fun p =>
      (.sequence (.condition atTextStart)
        (.sequence p.1 (.sequence (.condition atTextEnd) .empty)), .start) := by
  simp only [Expr.enclosed, Expr.meaning?, Expr.sequenceMeaning?, Option.bind_eq_bind,
    Option.bind_some]
  have hstart : Flags.start.changeAll [] = .start := rfl
  rw [hstart]
  cases e.meaning? .start <;> rfl

theorem Expr.ofText?_eq_some_iff : Expr.ofText? cs = some e ↔
    ∃ body, branches? (2 * cs.length + 2) false cs = some (body, []) ∧ e = .ofBranches body ∧
      e.groupNames.Nodup ∧ e.depth ≤ Expr.maxNesting := by
  unfold Expr.ofText?
  cases branches? (2 * cs.length + 2) false cs with
  | none => simp
  | some p =>
    obtain ⟨body, rest⟩ := p
    cases rest with
    | cons c rest => simp
    | nil =>
      dsimp only [Option.bind_some, bind]
      constructor
      · intro h
        split at h
        · next hok =>
          cases h
          simp only [List.isEmpty_nil, Bool.true_and, Bool.and_eq_true, decide_eq_true_eq] at hok
          exact ⟨body, rfl, rfl, hok⟩
        · cases h
      · rintro ⟨body, hb, rfl, hok⟩
        cases hb
        exact if_pos (by simpa using hok)

/-- What is read from an enclosed text, once the branches between the parentheses have been. -/
theorem branches_enclosed {body : List Expr}
    (hbody : branches? (fuel + 2) false (cs ++ [')', '$']) = some (body, rest)) :
    branches? (fuel + 5) false (enclosed cs) =
      (groupEnd? (fuel + 2) false [.assertion .lineStart] .none [] body rest).bind fun p =>
        branchEnd? (fuel + 4) p.1 p.2.1 p.2.2 := by
  have hgroup : items? (fuel + 3) false [.assertion .lineStart]
      ('(' :: '?' :: ':' :: (cs ++ [')', '$'])) =
        groupEnd? (fuel + 2) false [.assertion .lineStart] .none [] body rest := by
    rw [items_of_group rfl rfl]
    change Option.bind (branches? (fuel + 2) false (cs ++ [')', '$'])) _ = _
    rw [hbody]
    rfl
  have hnext : ∀ cs, nextItems? false [] '^' cs = some ([.assertion .lineStart], cs) :=
    fun _ => rfl
  rw [branches_succ, enclosed, items_of_next rfl (by decide) (by decide) (by decide), hnext,
    Option.bind_some, hgroup]

theorem branches_enclosed_of_kept {body : List Expr}
    (hbody : branches? (fuel + 2) false (cs ++ [')', '$']) = some (body, [')', '$'])) :
    branches? (fuel + 5) false (enclosed cs) =
      some ([(Expr.ofBranches body).enclosed], []) := by
  rw [branches_enclosed hbody]
  change (items? (fuel + 2) false _ ['$']).bind _ = _
  rw [items_of_next rfl (by decide) (by decide) (by decide)]
  change (items? (fuel + 1) false _ []).bind _ = _
  rw [items_nil]
  rfl

theorem branches_enclosed_of_lost {body : List Expr}
    (hbody : branches? (fuel + 2) false (cs ++ [')', '$']) = some (body, [])) :
    branches? (fuel + 5) false (enclosed cs) = none := by
  rw [branches_enclosed hbody]
  rfl

/-- A text that is read stays so when it is enclosed, if the parts are not nested too deep then. If
it ends in a comment, a closing parenthesis behind it makes no difference, and the enclosed text
has none. -/
theorem ofText_enclosed (h : Expr.ofText? cs = some e) :
    (Expr.ofText? (cs ++ [')']) = none ∧ Expr.ofText? (enclosed cs) =
      if e.depth + 2 ≤ Expr.maxNesting then some e.enclosed else none) ∨
    (Expr.ofText? (cs ++ [')']) = some e ∧ Expr.ofText? (enclosed cs) = none) := by
  obtain ⟨body, hbody, rfl, hnames, hdepth⟩ := Expr.ofText?_eq_some_iff.1 h
  -- what is left of a tail, all of it or nothing, is the same for both of these
  obtain ⟨g, hg, hread⟩ := (carried _).1 hbody
  have hbehind := hread _ tail_parenthesis (2 * (cs ++ [')']).length + 2) (by
    rw [List.length_append]
    omega)
  have hinside := hread _ tail_parenthesis_end (2 * cs.length + 11) (by omega)
  have hfuel : 2 * (enclosed cs).length + 2 = 2 * cs.length + 9 + 5 := by
    simp [enclosed]
    omega
  rcases hg with hkept | ⟨-, hlost⟩
  · left
    rw [hkept _ tail_parenthesis] at hbehind
    rw [hkept _ tail_parenthesis_end] at hinside
    constructor
    · refine Option.eq_none_iff_forall_ne_some.2 fun e he => ?_
      obtain ⟨body', hb, -⟩ := Expr.ofText?_eq_some_iff.1 he
      rw [hbehind] at hb
      cases hb
    · have henclosed := branches_enclosed_of_kept hinside
      split
      · next hle =>
        refine Expr.ofText?_eq_some_iff.2 ⟨[(Expr.ofBranches body).enclosed], ?_, rfl, ?_, ?_⟩
        · rw [hfuel]
          exact henclosed
        · rw [groupNames_enclosed]
          exact hnames
        · rw [depth_enclosed]
          exact hle
      · next hgt =>
        refine Option.eq_none_iff_forall_ne_some.2 fun e he => ?_
        obtain ⟨body', hb, rfl, -, hle⟩ := Expr.ofText?_eq_some_iff.1 he
        rw [hfuel, henclosed] at hb
        cases hb
        exact hgt (depth_enclosed _ ▸ hle)
  · right
    rw [hlost _ tail_parenthesis] at hbehind
    rw [hlost _ tail_parenthesis_end] at hinside
    constructor
    · exact Expr.ofText?_eq_some_iff.2 ⟨body, hbehind, rfl, hnames, hdepth⟩
    · refine Option.eq_none_iff_forall_ne_some.2 fun e he => ?_
      obtain ⟨body', hb, -⟩ := Expr.ofText?_eq_some_iff.1 he
      rw [hfuel, branches_enclosed_of_lost hinside] at hb
      cases hb

end Enclosed

end Cardfile.Pattern
