import Cardfile.Pattern.Bracket
import Cardfile.Proofs.Tails
import Mathlib.Data.List.TakeWhile

/-! # Tails of classes

A class ends with its own bracket, so a tail behind the text is out of reach once the class has been
read. On the way it could only be met by looking ahead: for the name of a class, for the second
character of an operator or for the end of a range.
-/

namespace Cardfile.Pattern

variable {v : Bool} {c d : Char} {cs rest tail : List Char} {fuel fuel' : Nat}

section Classes

/-- The class of a name that ends with a colon and a bracket. -/
def namedClass? (negated : Bool) (cs : List Char) : Option (ClassExpr × List Char) :=
  let name := cs.takeWhile (· ≠ ':')
  match cs.drop name.length with
  | ':' :: ']' :: rest => (asciiClassOfName? name).map fun kind => (.ascii kind negated, rest)
  | _ => none

theorem drop_length_takeWhile (p : Char → Bool) (cs : List Char) :
    cs.drop (cs.takeWhile p).length = cs.dropWhile p := by
  induction cs with
  | nil => rfl
  | cons c cs ih =>
    rw [List.takeWhile_cons, List.dropWhile_cons]
    split
    · exact ih
    · rfl

theorem dropWhile_append_of_cons {p : Char → Bool} {more : List Char}
    (h : cs.dropWhile p = c :: more) (tail : List Char) :
    (cs ++ tail).dropWhile p = c :: (more ++ tail) := by
  rw [List.dropWhile_append, h, List.isEmpty_cons, if_neg Bool.false_ne_true, List.cons_append]

theorem takeWhile_append_of_dropWhile {p : Char → Bool} {more : List Char}
    (h : cs.dropWhile p = c :: more) (tail : List Char) :
    (cs ++ tail).takeWhile p = cs.takeWhile p := by
  rw [List.takeWhile_append, if_neg]
  intro he
  have hlength := congrArg List.length (List.takeWhile_append_dropWhile (p := p) (l := cs))
  rw [List.length_append, he, h, List.length_cons] at hlength
  omega

theorem asciiClass_cons (cs : List Char) :
    asciiClass? (':' :: cs) =
      if cs.head? = some '^' then namedClass? true (cs.drop 1) else namedClass? false cs := by
  have hdef : asciiClass? (':' :: cs) = namedClass? (decide (cs.head? = some '^'))
      (if cs.head? = some '^' then cs.drop 1 else cs) := rfl
  rw [hdef]
  by_cases hc : cs.head? = some '^'
  · rw [decide_eq_true hc, if_pos hc, if_pos hc]
  · rw [decide_eq_false hc, if_neg hc, if_neg hc]

theorem namedClass_of_end {negated : Bool} (h : cs.dropWhile (· ≠ ':') = ':' :: ']' :: rest) :
    namedClass? negated cs =
      (asciiClassOfName? (cs.takeWhile (· ≠ ':'))).map fun kind => (.ascii kind negated, rest) := by
  unfold namedClass?
  dsimp only
  rw [drop_length_takeWhile, h]
  rfl

theorem namedClass_of_ne {negated : Bool}
    (h : ∀ rest, cs.dropWhile (· ≠ ':') ≠ ':' :: ']' :: rest) : namedClass? negated cs = none := by
  unfold namedClass?
  dsimp only
  rw [drop_length_takeWhile]
  split
  · next rest he => exact absurd he (h rest)
  · rfl

theorem namedClass_append (negated : Bool) (cs : List Char) (ht : Tail tail) :
    namedClass? negated (cs ++ tail) =
      (namedClass? negated cs).map fun p => (p.1, p.2 ++ tail) := by
  by_cases hend : ∃ rest, cs.dropWhile (· ≠ ':') = ':' :: ']' :: rest
  · obtain ⟨rest, hd⟩ := hend
    rw [namedClass_of_end hd, namedClass_of_end (dropWhile_append_of_cons hd tail),
      takeWhile_append_of_dropWhile hd]
    cases asciiClassOfName? (cs.takeWhile (· ≠ ':')) <;> rfl
  · have hplain : tail.dropWhile (· ≠ ':') = [] :=
      List.dropWhile_eq_nil_iff.2 fun c hc => decide_eq_true fun he => ht.plain (he ▸ hc)
    rw [namedClass_of_ne fun rest hd => hend ⟨rest, hd⟩, namedClass_of_ne]
    · rfl
    · intro rest he
      cases hd : cs.dropWhile (· ≠ ':') with
      | nil =>
        rw [List.dropWhile_append, hd, List.isEmpty_nil, if_pos rfl, hplain] at he
        cases he
      | cons c more =>
        rw [dropWhile_append_of_cons hd] at he
        obtain ⟨rfl, hmore⟩ := List.cons_eq_cons.1 he
        obtain ⟨before, rfl, -⟩ := ht.cons_of_append (by decide) hmore
        exact hend ⟨before, hd⟩

/-- A tail makes no class of what is none. -/
theorem asciiClass_append (cs : List Char) (ht : Tail tail) :
    asciiClass? (cs ++ tail) = (asciiClass? cs).map fun p => (p.1, p.2 ++ tail) := by
  by_cases hc : ∃ mid, cs = ':' :: mid
  · obtain ⟨mid, rfl⟩ := hc
    rw [List.cons_append, asciiClass_cons, asciiClass_cons]
    cases mid with
    | nil =>
      obtain ⟨more, rfl⟩ := ht.eq_cons
      exact namedClass_append false [] ht
    | cons c mid =>
      rw [List.cons_append, List.head?_cons, List.head?_cons]
      split
      · exact namedClass_append true mid ht
      · exact namedClass_append false (c :: mid) ht
  · have hnone : ∀ cs, (¬ ∃ mid, cs = ':' :: mid) → asciiClass? cs = none := by
      intro cs hc
      unfold asciiClass?
      split
      · next mid => exact absurd ⟨mid, rfl⟩ hc
      · rfl
    rw [hnone cs hc, hnone (cs ++ tail)]
    · rfl
    · rintro ⟨mid, he⟩
      obtain ⟨before, he, -⟩ := ht.cons_of_append (by decide) he
      exact hc ⟨before, he⟩

theorem classPrimitive_of_ne (hc : c ≠ '\\') (cs : List Char) :
    classPrimitive? v (c :: cs) = some (plainLetter c, cs) := by
  unfold classPrimitive?
  split
  · next heq => cases heq
  · next heq =>
    cases heq
    exact absurd rfl hc
  · next heq =>
    cases heq
    rfl

theorem extends_classPrimitive {p : Primitive} (h : classPrimitive? v cs = some (p, rest)) :
    Extends (classPrimitive? v) cs p rest := by
  cases cs with
  | nil => cases h
  | cons c mid =>
    by_cases hc : c = '\\'
    · subst hc
      exact extends_escape h
    · rw [classPrimitive_of_ne hc] at h
      cases h
      exact extends_of_append fun tail _ => classPrimitive_of_ne hc (rest ++ tail)

theorem skipFilling_dropWhile (cs : List Char) :
    skipFilling false cs = skipFilling false (cs.dropWhile Text.isBlank) := by
  induction cs with
  | nil => rfl
  | cons c cs ih =>
    rw [List.dropWhile_cons]
    split
    · next hb => rw [skipFilling, if_neg Bool.false_ne_true, if_pos hb, ih]
    · rfl

theorem skipFilling_of_blank (inComment : Bool) (h : cs.dropWhile Text.isBlank = []) :
    skipFilling inComment cs = [] := by
  induction cs generalizing inComment with
  | nil => rfl
  | cons c cs ih =>
    have hall := List.dropWhile_eq_nil_iff.1 h
    have hblank : Text.isBlank c = true := hall c List.mem_cons_self
    have hrest := List.dropWhile_eq_nil_iff.2 fun d hd => hall d (List.mem_cons_of_mem c hd)
    unfold skipFilling
    cases inComment with
    | true => exact ih _ hrest
    | false =>
      rw [if_neg Bool.false_ne_true, if_pos hblank]
      exact ih _ hrest

/-- The character that counts in a verbose pattern, behind blanks and at most one mark. -/
inductive Counts (cs : List Char) (c : Char) : Prop
  | plain {after : List Char} : cs.dropWhile Text.isBlank = c :: after → c ≠ '#' → Counts cs c
  | marked {after left : List Char} : cs.dropWhile Text.isBlank = '#' :: after →
    after.dropWhile Text.isBlank = c :: left → Counts cs c

theorem Counts.append (h : Counts cs c) (tail : List Char) : Counts (cs ++ tail) c := by
  cases h with
  | plain hd hc => exact .plain (dropWhile_append_of_cons hd tail) hc
  | marked hd ha =>
    exact .marked (dropWhile_append_of_cons hd tail) (dropWhile_append_of_cons ha tail)

theorem Counts.peekSecond (h : Counts cs c) : peekSecond true (d :: cs) = some c := by
  simp only [Pattern.peekSecond, List.drop_succ_cons, List.drop_zero, if_true]
  cases h with
  | plain hd hc =>
    rw [hd]
    split
    · next heq =>
      cases heq
      exact absurd rfl hc
    · next heq =>
      cases heq
      rfl
    · next heq => cases heq
  | marked hd ha =>
    rw [hd]
    simp only [ha]

/-- If nothing counts, then only blanks and a comment are left. -/
theorem counts_or_blank (cs : List Char) : (∃ c, Counts cs c) ∨
    (skip true cs = [] ∧ ∀ c, peekSecond true (d :: cs) = some c → Text.isBlank c ∨ c = '#') := by
  have hhead : ∀ {c}, cs.head? = some c →
      Text.isBlank c ∨ (cs.dropWhile Text.isBlank).head? = some c := by
    intro c hc
    obtain ⟨more, rfl⟩ := List.head?_eq_some_iff.1 hc
    rw [List.dropWhile_cons]
    split
    · next hb => exact .inl hb
    · exact .inr rfl
  have hskip : skip true cs = skipFilling false (cs.dropWhile Text.isBlank) :=
    skipFilling_dropWhile cs
  simp only [Pattern.peekSecond, List.drop_succ_cons, List.drop_zero, if_true]
  cases hd : cs.dropWhile Text.isBlank with
  | nil =>
    rw [hd] at hskip hhead
    exact .inr ⟨hskip, fun c hc => (hhead hc).imp_right nofun⟩
  | cons c after =>
    by_cases hc : c = '#'
    · subst hc
      cases ha : after.dropWhile Text.isBlank with
      | cons e left => exact .inl ⟨e, .marked hd ha⟩
      | nil =>
        rw [hd] at hskip hhead
        refine .inr ⟨hskip.trans (skipFilling_of_blank true ha), fun c hc => ?_⟩
        simp only [ha] at hc
        exact (hhead hc).imp_right fun he => (Option.some.inj he).symm
    · exact .inl ⟨c, .plain hd hc⟩

/-- What comes second is not touched by a tail if there is something to come. -/
theorem peekSecond_append {more : List Char} (h : skip v more ≠ [] ∨
      peekSecond v ('-' :: more) = some ']' ∨ peekSecond v ('-' :: more) = some '-')
    (tail : List Char) : peekSecond v ('-' :: (more ++ tail)) = peekSecond v ('-' :: more) := by
  cases v with
  | false =>
    cases more with
    | nil =>
      rcases h with h | h | h
      · exact absurd rfl h
      · cases h
      · cases h
    | cons c more => rfl
  | true =>
    rcases counts_or_blank (d := '-') more with ⟨c, hc⟩ | ⟨hnil, hblank⟩
    · rw [hc.peekSecond, (hc.append tail).peekSecond]
    · rcases h with h | h | h
      · exact absurd hnil h
      · exact absurd (hblank _ h) (by decide)
      · exact absurd (hblank _ h) (by decide)

/-- A range between letters in their order. -/
def rangeOf? (first last : Primitive) : Option ClassExpr :=
  first.toLetter?.bind fun a => last.toLetter?.bind fun b =>
    if a.char ≤ b.char then some (.range a b) else none

theorem classItem_of_minus {first : Primitive} {left more : List Char}
    (hp : classPrimitive? v cs = some (first, left)) (hs : skip v left = '-' :: more) :
    classItem? v cs =
      if peekSecond v ('-' :: more) = some ']' ∨ peekSecond v ('-' :: more) = some '-' then
        first.toClass?.map fun e => (e, '-' :: more)
      else
        (classPrimitive? v (skip v more)).bind fun p =>
          (rangeOf? first p.1).map fun e => (e, p.2) := by
  unfold classItem?
  rw [hp, Option.bind_eq_bind, Option.bind_some]
  dsimp only
  rw [hs]
  by_cases hsecond : peekSecond v ('-' :: more) = some ']' ∨ peekSecond v ('-' :: more) = some '-'
  · rw [if_pos hsecond]
    refine (if_pos (by simpa using hsecond)).trans ?_
    cases first.toClass? <;> rfl
  · rw [if_neg hsecond]
    refine (if_neg (by simpa using hsecond)).trans ?_
    refine congrArg (Option.bind _) (funext fun ⟨last, left⟩ => ?_)
    unfold rangeOf?
    dsimp only
    cases first.toLetter? with
    | none => rfl
    | some a =>
      cases last.toLetter? with
      | none => rfl
      | some b =>
        dsimp only [Option.bind_some, bind]
        split <;> rfl

theorem classItem_of_ne {first : Primitive} {left more : List Char}
    (hp : classPrimitive? v cs = some (first, left)) (hs : skip v left = c :: more)
    (hc : c ≠ '-') : classItem? v cs = first.toClass?.map fun e => (e, c :: more) := by
  unfold classItem?
  rw [hp, Option.bind_eq_bind, Option.bind_some]
  dsimp only
  rw [hs]
  split
  · next heq => cases heq
  · next heq =>
    cases heq
    exact absurd rfl hc
  · cases first.toClass? <;> rfl

theorem extends_classItem {e : ClassExpr} (h : classItem? v cs = some (e, rest)) :
    Extends (classItem? v) cs e rest := by
  obtain ⟨⟨first, left⟩, hp, h'⟩ := Option.bind_eq_some_iff.1 h
  obtain ⟨g, hg, hf⟩ := extends_classPrimitive hp
  cases hs : skip v left with
  | nil =>
    dsimp only at h'
    rw [hs] at h'
    cases h'
  | cons c more =>
    have hleft : ∀ tail, Tail tail →
        classPrimitive? v (cs ++ tail) = some (first, left ++ tail) := by
      intro tail ht
      rw [hf tail ht, hg.kept _ ht]
      rintro rfl
      rw [skip_nil] at hs
      cases hs
    by_cases hc : c = '-'
    · subst hc
      rw [classItem_of_minus hp hs] at h
      split at h
      · next hsecond =>
        obtain ⟨_, he, hr⟩ := Option.map_eq_some_iff.1 h
        cases hr
        refine extends_of_append fun tail ht => ?_
        rw [classItem_of_minus (hleft tail ht) (skip_append hs tail),
          peekSecond_append (.inr hsecond), if_pos hsecond, he]
        rfl
      · next hsecond =>
        obtain ⟨⟨last, left'⟩, hl, hr⟩ := Option.bind_eq_some_iff.1 h
        obtain ⟨_, hrange, hr⟩ := Option.map_eq_some_iff.1 hr
        cases hr
        have hmore : skip v more ≠ [] := by
          intro hnil
          rw [hnil] at hl
          cases hl
        obtain ⟨g', hg', hf'⟩ :=
          (extends_classPrimitive hl).after (carries_skip v more) fun he => absurd he hmore
        refine ⟨g', hg', fun tail ht => ?_⟩
        rw [classItem_of_minus (hleft tail ht) (skip_append hs tail),
          peekSecond_append (.inl hmore), if_neg hsecond, hf' tail ht, Option.bind_some, hrange]
        rfl
    · rw [classItem_of_ne hp hs hc] at h
      obtain ⟨_, he, hr⟩ := Option.map_eq_some_iff.1 h
      cases hr
      refine extends_of_append fun tail ht => ?_
      rw [classItem_of_ne (hleft tail ht) (skip_append hs tail) hc, he]
      rfl

theorem leadingMinus_eq (v : Bool) (fuel : Nat) (cs : List Char) :
    leadingMinus v fuel cs =
      ((taken (· = '-') v fuel cs).1.map fun _ => .letter ⟨'-', false⟩,
        (taken (· = '-') v fuel cs).2) := by
  induction fuel generalizing cs with
  | zero => rfl
  | succ fuel ih =>
    cases cs with
    | nil => rfl
    | cons c cs =>
      by_cases hc : c = '-'
      · subst hc
        rw [leadingMinus, ih]
        rfl
      · rw [taken, if_neg (by simpa using hc)]
        unfold leadingMinus
        split
        · next heq =>
          cases heq
          exact absurd rfl hc
        · rfl

/-- The start of a class once it is known to be negated or not. -/
def listStart (v : Bool) (negated : Bool) (cs : List Char) : Bool × List ClassExpr × List Char :=
  let (items, cs) := leadingMinus v (cs.length + 1) cs
  match cs with
  | ']' :: rest =>
    if items.isEmpty then (negated, [.letter ⟨']', false⟩], skip v rest) else (negated, items, cs)
  | _ => (negated, items, cs)

/-- Whether a class is negated. -/
def negation (v : Bool) (cs : List Char) : Bool × List Char :=
  match cs with
  | '^' :: rest => (true, skip v rest)
  | _ => (false, cs)

theorem negation_of_ne (hc : c ≠ '^') (cs : List Char) :
    negation v (c :: cs) = (false, c :: cs) := by
  unfold negation
  split
  · next heq =>
    cases heq
    exact absurd rfl hc
  · rfl

theorem classStart_eq (v : Bool) (cs : List Char) :
    classStart v cs = listStart v (negation v (skip v cs)).1 (negation v (skip v cs)).2 := rfl

theorem listStart_eq {n : Bool} {run left : List Char}
    (h : taken (· = '-') v (cs.length + 1) cs = (run, d :: left)) :
    listStart v n cs =
      if d = ']' ∧ run = [] then (n, [.letter ⟨']', false⟩], skip v left)
      else (n, run.map fun _ => .letter ⟨'-', false⟩, d :: left) := by
  unfold listStart
  rw [leadingMinus_eq, h]
  dsimp only
  by_cases hd : d = ']'
  · subst hd
    cases run <;> rfl
  · rw [if_neg fun hboth => hd hboth.1]
    split
    · next heq =>
      cases heq
      exact absurd rfl hd
    · rfl

theorem listStart_append {negated : Bool} {items : List ClassExpr} {n : Bool}
    (h : listStart v n cs = (negated, items, c :: rest)) (tail : List Char) :
    listStart v n (cs ++ tail) = (negated, items, c :: (rest ++ tail)) := by
  obtain ⟨run, left, ht⟩ : ∃ run left, taken (· = '-') v (cs.length + 1) cs = (run, left) :=
    ⟨_, _, rfl⟩
  cases left with
  | nil =>
    unfold listStart at h
    rw [leadingMinus_eq, ht] at h
    cases h
  | cons d left =>
    have hmore := fuel_append cs tail
    have ht' := taken_append (Nat.lt_succ_self _) hmore
      (by rw [ht]; exact List.cons_ne_nil _ _) tail
    rw [ht] at ht'
    rw [listStart_eq ht] at h
    rw [listStart_eq ht']
    split at h
    · next hd =>
      obtain ⟨rfl, hr⟩ := Prod.mk.inj h
      obtain ⟨rfl, hs⟩ := Prod.mk.inj hr
      rw [if_pos hd, ← skip_append hs]
      rfl
    · next hd =>
      cases h
      rw [if_neg hd]
      rfl

/-- The start of a class that goes on is not touched by a tail. -/
theorem classStart_append {negated : Bool} {items : List ClassExpr}
    (h : classStart v cs = (negated, items, c :: rest)) (tail : List Char) :
    classStart v (cs ++ tail) = (negated, items, c :: (rest ++ tail)) := by
  cases hs : skip v cs with
  | nil =>
    unfold classStart at h
    rw [hs] at h
    cases h
  | cons d mid =>
    rw [classStart_eq, hs] at h
    rw [classStart_eq, skip_append hs]
    by_cases hd : d = '^'
    · subst hd
      change listStart v true (skip v mid) = _ at h
      change listStart v true (skip v (mid ++ tail)) = _
      cases hm : skip v mid with
      | nil =>
        rw [hm] at h
        cases h
      | cons e named =>
        rw [hm] at h
        rw [skip_append hm]
        exact listStart_append h tail
    · rw [negation_of_ne hd] at h ⊢
      exact listStart_append h tail

/-- The operator that two characters make. -/
def operator? (c d : Char) : Option SetOperation :=
  if c ≠ d then none
  else if c = '&' then some .both
  else if c = '-' then some .without
  else if c = '~' then some .either
  else none

section Rest

variable {pending : Pending} {done : List ClassExpr} {mid : List Char}

/-- What a class does with the next character: it ends, a bracket begins a named class or one that
is nested, two characters make an operator, and everything else is an item. -/
theorem classRest_cons (hs : skip v cs = c :: mid) :
    classRest? (fuel + 1) v pending done cs =
      if c = ']' then some (pending.apply (.ofItems done.reverse), mid)
      else if c = '[' then
        (asciiClass? mid).elim
          ((classRest? fuel v none (classStart v mid).2.1.reverse (classStart v mid).2.2).bind
            fun p => classRest? fuel v pending (.bracket (classStart v mid).1 p.1 :: done) p.2)
          fun p => classRest? fuel v pending (p.1 :: done) p.2
      else
        (mid.head?.bind (operator? c)).elim
          ((classItem? v (c :: mid)).bind fun p => classRest? fuel v pending (p.1 :: done) p.2)
          fun op => classRest? fuel v (some (op, pending.apply (.ofItems done.reverse))) []
            mid.tail := by
  rw [classRest?, hs]
  split
  · next heq => cases heq
  · next heq =>
    cases heq
    rfl
  · next heq =>
    cases heq
    rw [if_neg (by decide), if_pos rfl]
    cases asciiClass? mid <;> rfl
  iterate 3
    next heq =>
      cases heq
      rfl
  · next hclose hopen hboth hwithout heither =>
    have hnone : mid.head?.bind (operator? c) = none := by
      cases mid with
      | nil => rfl
      | cons d more =>
        rw [List.head?_cons, Option.bind_some]
        unfold operator?
        split
        · rfl
        · next hcd =>
          cases Decidable.not_not.1 hcd
          rw [if_neg, if_neg, if_neg]
          · rintro rfl
            exact heither more rfl
          · rintro rfl
            exact hwithout more rfl
          · rintro rfl
            exact hboth more rfl
    rw [if_neg, if_neg, hnone]
    · rfl
    · rintro rfl
      exact hopen mid rfl
    · rintro rfl
      exact hclose mid rfl

theorem classRest_nil : classRest? fuel v pending done [] = none := by
  cases fuel with
  | zero => rfl
  | succ fuel => rw [classRest?, skip_nil]

theorem operator_parenthesis (c : Char) : operator? c ')' = none := by
  unfold operator?
  split
  · rfl
  · next hc =>
    cases Decidable.not_not.1 hc
    decide

/-- A tail does not complete an operator. -/
theorem operator_append (c : Char) (mid : List Char) (ht : Tail tail) :
    (mid ++ tail).head?.bind (operator? c) = mid.head?.bind (operator? c) := by
  cases mid with
  | nil =>
    obtain ⟨more, rfl⟩ := ht.eq_cons
    exact operator_parenthesis c
  | cons d mid => rfl

theorem classRest_append {e : ClassExpr} (h : classRest? fuel v pending done cs = some (e, rest))
    (hf : fuel ≤ fuel') (ht : Tail tail) :
    classRest? fuel' v pending done (cs ++ tail) = some (e, rest ++ tail) := by
  induction fuel generalizing pending done cs e rest fuel' with
  | zero => cases h
  | succ fuel ih =>
    obtain _ | fuel' := fuel'
    · exact absurd hf (Nat.not_succ_le_zero _)
    have hf' := Nat.le_of_succ_le_succ hf
    cases hs : skip v cs with
    | nil =>
      rw [classRest?, hs] at h
      cases h
    | cons c mid =>
      rw [classRest_cons hs] at h
      rw [classRest_cons (skip_append hs tail), asciiClass_append mid ht, operator_append c mid ht]
      by_cases hclose : c = ']'
      · rw [if_pos hclose] at h ⊢
        cases h
        rfl
      rw [if_neg hclose] at h ⊢
      by_cases hopen : c = '['
      · rw [if_pos hopen] at h ⊢
        cases ha : asciiClass? mid with
        | some p =>
          rw [ha] at h
          exact ih h hf'
        | none =>
          rw [ha] at h
          obtain ⟨negated, items, left, hstart⟩ :
              ∃ negated items left, classStart v mid = (negated, items, left) := ⟨_, _, _, rfl⟩
          rw [hstart] at h
          obtain ⟨⟨body, after⟩, hb, hr⟩ := Option.bind_eq_some_iff.1 h
          cases left with
          | nil =>
            rw [classRest_nil] at hb
            cases hb
          | cons d left =>
            have hb' := ih hb hf'
            rw [List.cons_append] at hb'
            rw [classStart_append hstart tail, Option.map_none, Option.elim_none, hb',
              Option.bind_some]
            exact ih hr hf'
      rw [if_neg hopen] at h ⊢
      cases ho : mid.head?.bind (operator? c) with
      | some op =>
        rw [ho] at h
        have hmid : mid ≠ [] := by
          rintro rfl
          cases ho
        rw [List.tail_append_of_ne_nil hmid]
        exact ih h hf'
      | none =>
        rw [ho] at h
        obtain ⟨⟨item, left⟩, hi, hr⟩ := Option.bind_eq_some_iff.1 h
        have hleft : left ≠ [] := by
          rintro rfl
          rw [classRest_nil] at hr
          cases hr
        obtain ⟨g, hg, he⟩ := extends_classItem hi
        rw [Option.elim_none, ← List.cons_append, he tail ht, Option.bind_some,
          hg.kept hleft ht]
        exact ih hr hf'

theorem bracket_append {e : Expr} (h : bracket? v cs = some (e, rest)) (ht : Tail tail) :
    bracket? v (cs ++ tail) = some (e, rest ++ tail) := by
  obtain ⟨negated, items, left, hstart⟩ :
      ∃ negated items left, classStart v cs = (negated, items, left) := ⟨_, _, _, rfl⟩
  unfold bracket? at h ⊢
  rw [hstart] at h
  obtain ⟨⟨body, after⟩, hb, hr⟩ := Option.bind_eq_some_iff.1 h
  cases hr
  cases left with
  | nil =>
    rw [classRest_nil] at hb
    cases hb
  | cons d left =>
    have hmore := fuel_append (d :: left) tail
    rw [classStart_append hstart tail]
    dsimp only
    rw [← List.cons_append, classRest_append hb hmore ht]
    rfl

end Rest

end Classes

end Cardfile.Pattern
