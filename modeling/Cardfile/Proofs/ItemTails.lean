import Cardfile.Pattern.Reading
import Cardfile.Proofs.ClassTails

/-! # Tails of parentheses and counts

What an opening parenthesis begins, and how often something is repeated, is read up to a character
that ends it. A tail is behind that character.
-/

namespace Cardfile.Pattern

variable {v : Bool} {c d : Char} {cs mid rest tail : List Char} {fuel fuel' : Nat}

section Openings

theorem flagChanges_minus (value : Bool) (seen : List Flag) (cs : List Char) :
    flagChanges? value seen ('-' :: cs) =
      (if value then flagChanges? false seen cs else none).bind fun p =>
        if p.1.isEmpty then none else some p := by
  rw [flagChanges?]
  cases value with
  | false => rfl
  | true =>
    refine congrArg (Option.bind _) (funext fun ⟨changes, left⟩ => ?_)
    dsimp only
    split <;> rfl

theorem flagChanges_of_flag {value : Bool} {seen : List Flag} (hcolon : c ≠ ':') (hclose : c ≠ ')')
    (hminus : c ≠ '-') (cs : List Char) :
    flagChanges? value seen (c :: cs) =
      (flagOf? c).bind fun flag =>
        if seen.contains flag then none
        else (flagChanges? value (flag :: seen) cs).map fun p => ((flag, value) :: p.1, p.2) := by
  rw [flagChanges?]
  · cases flagOf? c with
    | none => rfl
    | some flag =>
      dsimp only [Option.bind_some, bind]
      split
      · rfl
      · cases flagChanges? value (flag :: seen) cs <;> rfl
  · exact hcolon
  · exact hclose
  · exact hminus

theorem flagChanges_append {value : Bool} {seen : List Flag} {changes : FlagChanges}
    (h : flagChanges? value seen cs = some (changes, rest)) (tail : List Char) :
    flagChanges? value seen (cs ++ tail) = some (changes, rest ++ tail) := by
  induction cs generalizing value seen changes rest with
  | nil => cases h
  | cons c cs ih =>
    rw [List.cons_append]
    by_cases hcolon : c = ':'
    · subst hcolon
      cases h
      rfl
    by_cases hclose : c = ')'
    · subst hclose
      cases h
      rfl
    by_cases hminus : c = '-'
    · subst hminus
      rw [flagChanges_minus] at h ⊢
      obtain ⟨⟨changes, left⟩, hp, he⟩ := Option.bind_eq_some_iff.1 h
      split at hp
      · next hv =>
        rw [if_pos hv, ih hp, Option.bind_some]
        split at he
        · cases he
        · next hne =>
          cases he
          rw [if_neg hne]
      · cases hp
    · rw [flagChanges_of_flag hcolon hclose hminus] at h ⊢
      obtain ⟨flag, hflag, he⟩ := Option.bind_eq_some_iff.1 h
      rw [hflag, Option.bind_some]
      split at he
      · cases he
      · next hseen =>
        obtain ⟨⟨changes, left⟩, hp, hr⟩ := Option.map_eq_some_iff.1 he
        cases hr
        rw [if_neg hseen, ih hp]
        rfl

theorem groupName_append {name : List Char} (h : groupName? cs = some (name, rest))
    (tail : List Char) : groupName? (cs ++ tail) = some (name, rest ++ tail) := by
  unfold groupName? at h ⊢
  simp only [drop_length_takeWhile] at h ⊢
  cases hd : cs.dropWhile (· ≠ '>') with
  | nil =>
    rw [hd] at h
    split at h
    · next heq => cases heq
    · cases h
  | cons closing left =>
    rw [takeWhile_append_of_dropWhile hd, dropWhile_append_of_cons hd]
    rw [hd] at h
    cases hn : cs.takeWhile (· ≠ '>') with
    | nil =>
      rw [hn] at h
      cases h
    | cons first others =>
      rw [hn] at h
      dsimp only at h ⊢
      split at h
      · next hvalid =>
        cases h
        rw [if_pos hvalid]
      · cases h

theorem namedOpening_append {o : Opening} (h : namedOpening? cs = some (o, rest))
    (tail : List Char) : namedOpening? (cs ++ tail) = some (o, rest ++ tail) := by
  obtain ⟨⟨name, left⟩, hn, he⟩ := Option.map_eq_some_iff.1 h
  cases he
  rw [namedOpening?, groupName_append hn]
  rfl

/-- What flags begin: a group if a colon ends them. -/
def flagsEnd? (changes : FlagChanges) : List Char → Option (Opening × List Char)
  | ':' :: rest => some (.group .none changes, rest)
  | _ :: rest => if changes.isEmpty then none else some (.flags changes, rest)
  | [] => none

theorem flagsEnd_append {changes : FlagChanges} {o : Opening}
    (h : flagsEnd? changes cs = some (o, rest)) (tail : List Char) :
    flagsEnd? changes (cs ++ tail) = some (o, rest ++ tail) := by
  unfold flagsEnd? at h
  split at h
  · cases h
    rfl
  · next c left hc =>
    rw [List.cons_append]
    unfold flagsEnd?
    split at h
    · cases h
    · next hne =>
      cases h
      split
      · next heq =>
        cases heq
        exact (hc rfl).elim
      · next heq =>
        cases heq
        rw [if_neg hne]
      · next heq => cases heq
  · cases h

theorem opening_of_plain (h : ∀ mid, cs ≠ '?' :: mid) :
    opening? cs = some (.group .numbered [], cs) := by
  unfold opening?
  split
  iterate 7 exact absurd rfl (h _)
  rfl

theorem opening_of_name (hequal : ∀ mid, cs ≠ '=' :: mid) (hbang : ∀ mid, cs ≠ '!' :: mid) :
    opening? ('?' :: '<' :: cs) = namedOpening? cs := by
  unfold opening?
  split
  · next heq => cases heq
  · next heq => cases heq
  · next heq =>
    cases heq
    exact absurd rfl (hequal _)
  · next heq =>
    cases heq
    exact absurd rfl (hbang _)
  · next heq => cases heq
  · next heq =>
    cases heq
    rfl
  · next hangle heq => exact (hangle _ (List.cons.inj heq).2.symm).elim
  · next hplain => exact (hplain _ rfl).elim

theorem opening_of_flags (hequal : ∀ mid, cs ≠ '=' :: mid) (hbang : ∀ mid, cs ≠ '!' :: mid)
    (hangle : ∀ mid, cs ≠ '<' :: mid) (hname : ∀ mid, cs ≠ 'P' :: '<' :: mid) :
    opening? ('?' :: cs) = (flagChanges? true [] cs).bind fun p => flagsEnd? p.1 p.2 := by
  unfold opening?
  split
  · next heq => exact absurd (List.cons.inj heq).2 (hequal _)
  · next heq => exact absurd (List.cons.inj heq).2 (hbang _)
  · next heq => exact absurd (List.cons.inj heq).2 (hangle _)
  · next heq => exact absurd (List.cons.inj heq).2 (hangle _)
  · next heq => exact absurd (List.cons.inj heq).2 (hname _)
  · next heq => exact absurd (List.cons.inj heq).2 (hangle _)
  · next heq =>
    cases heq
    rfl
  · next hplain => exact (hplain _ rfl).elim

/-- What begins a text with a tail begins the text, unless it is the parenthesis. -/
theorem Tail.ne_cons (ht : Tail tail) (hd : d ≠ ')') (h : ∀ more, cs ≠ d :: more)
    (more : List Char) : cs ++ tail ≠ d :: more := fun he =>
  let ⟨before, hbefore, _⟩ := ht.cons_of_append hd he
  h before hbefore

theorem opening_append {o : Opening} (h : opening? cs = some (o, rest)) (ht : Tail tail) :
    opening? (cs ++ tail) = some (o, rest ++ tail) := by
  -- none of what is looked for begins with the parenthesis that the tail brings
  by_cases hplain : ∀ mid, cs ≠ '?' :: mid
  · rw [opening_of_plain hplain] at h
    cases h
    exact opening_of_plain (ht.ne_cons (by decide) hplain)
  obtain ⟨mid, rfl⟩ : ∃ mid, cs = '?' :: mid := by simpa using hplain
  by_cases hequal : ∃ more, mid = '=' :: more
  · obtain ⟨more, rfl⟩ := hequal
    cases h
  by_cases hbang : ∃ more, mid = '!' :: more
  · obtain ⟨more, rfl⟩ := hbang
    cases h
  by_cases hangle : ∃ more, mid = '<' :: more
  · obtain ⟨more, rfl⟩ := hangle
    have hequal : ∀ after, more ≠ '=' :: after := by
      rintro after rfl
      cases h
    have hbang : ∀ after, more ≠ '!' :: after := by
      rintro after rfl
      cases h
    rw [opening_of_name hequal hbang] at h
    refine (opening_of_name (ht.ne_cons (by decide) hequal) (ht.ne_cons (by decide) hbang)).trans ?_
    exact namedOpening_append h tail
  by_cases hname : ∃ more, mid = 'P' :: '<' :: more
  · obtain ⟨more, rfl⟩ := hname
    exact namedOpening_append h tail
  simp only [not_exists] at hequal hbang hangle hname
  rw [opening_of_flags hequal hbang hangle hname] at h
  obtain ⟨⟨changes, left⟩, hp, hr⟩ := Option.bind_eq_some_iff.1 h
  rw [List.cons_append, opening_of_flags (ht.ne_cons (by decide) hequal)
    (ht.ne_cons (by decide) hbang) (ht.ne_cons (by decide) hangle), flagChanges_append hp]
  · exact flagsEnd_append hr tail
  · intro more he
    obtain ⟨before, rfl, hmore⟩ := ht.cons_of_append (by decide) he
    obtain ⟨after, rfl, -⟩ := ht.cons_of_append (d := '<') (by decide) hmore.symm
    exact hname after rfl

end Openings

section Counts

theorem countDigits_eq (fuel : Nat) (v : Bool) (cs : List Char) :
    countDigits fuel v cs = taken Char.isDigit v fuel cs := by
  induction fuel generalizing cs with
  | zero => rfl
  | succ fuel ih =>
    cases cs with
    | nil => rfl
    | cons c cs => rw [countDigits, taken, ih]

theorem skipBlanks_eq (fuel : Nat) (v : Bool) (cs : List Char) :
    skipBlanks v fuel cs = (taken Text.isBlank v fuel cs).2 := by
  induction fuel generalizing cs with
  | zero => rfl
  | succ fuel ih =>
    cases cs with
    | nil => rfl
    | cons c cs =>
      rw [skipBlanks, taken, ih]
      split <;> rfl

/-- The number that digits write, if it is not too large. -/
def numberOf? (digits : List Char) : Option Nat :=
  let n := digits.foldl (fun n c => 10 * n + (c.toNat - '0'.toNat)) 0
  if digits.isEmpty || 0x100000000 ≤ n then none else some n

/-- The digits of a count and what is left behind them. -/
def countRun (v : Bool) (cs : List Char) : List Char × List Char :=
  taken Char.isDigit v (cs.length + 1) (cs.dropWhile Text.isBlank)

theorem count_eq (v : Bool) (cs : List Char) :
    count v cs = (numberOf? (countRun v cs).1,
      (taken Text.isBlank v ((countRun v cs).2.length + 1) (countRun v cs).2).2) := by
  rw [← skipBlanks_eq]
  unfold countRun
  rw [← countDigits_eq]
  rfl

theorem countRun_append (h : (countRun v cs).2 ≠ []) (tail : List Char) :
    countRun v (cs ++ tail) = ((countRun v cs).1, (countRun v cs).2 ++ tail) := by
  have hmore := fuel_append cs tail
  have hshort : (cs.dropWhile Text.isBlank).length ≤ cs.length :=
    (List.dropWhile_sublist _).length_le
  unfold countRun at h ⊢
  cases hd : cs.dropWhile Text.isBlank with
  | nil =>
    rw [hd, taken_nil] at h
    exact absurd rfl h
  | cons c left =>
    rw [hd] at h hshort
    rw [dropWhile_append_of_cons hd, ← List.cons_append]
    exact taken_append (Nat.lt_succ_of_le hshort) hmore h tail

/-- A count that does not end the text is not touched by what is behind the text. -/
theorem count_append {n : Option Nat} (h : count v cs = (n, c :: rest)) (tail : List Char) :
    count v (cs ++ tail) = (n, c :: (rest ++ tail)) := by
  rw [count_eq] at h ⊢
  obtain ⟨rfl, hleft⟩ := Prod.mk.inj h
  have hrun : (countRun v cs).2 ≠ [] := by
    intro hnil
    rw [hnil, taken_nil] at hleft
    cases hleft
  have hmore := fuel_append (countRun v cs).2 tail
  rw [countRun_append hrun, taken_append (Nat.lt_succ_self _) hmore, hleft]
  · rfl
  · rw [hleft]
    exact List.cons_ne_nil _ _

/-- What is read on from a count does not meet the tail either. -/
theorem bind_count_append {β : Type} {f : Nat → List Char → Option (β × List Char)} {x : β}
    {tail : List Char} (hnil : ∀ n, f n [] = none)
    (hf : ∀ {n cs rest}, f n cs = some (x, rest) → f n (cs ++ tail) = some (x, rest ++ tail))
    (h : (count v cs).1.bind (f · (count v cs).2) = some (x, rest)) :
    (count v (cs ++ tail)).1.bind (f · (count v (cs ++ tail)).2) = some (x, rest ++ tail) := by
  obtain ⟨n, hn, hr⟩ := Option.bind_eq_some_iff.1 h
  cases hc : count v cs with
  | mk n? left =>
    rw [hc] at hn hr
    cases left with
    | nil =>
      rw [hnil] at hr
      cases hr
    | cons c left =>
      rw [count_append hc, hn, Option.bind_some]
      exact hf hr

/-- The end of a repetition behind its greatest count. -/
def mostEnd? (least most : Nat) : List Char → Option ((Nat × Option Nat) × List Char)
  | '\x7d' :: rest => if least ≤ most then some ((least, some most), rest) else none
  | _ => none

/-- The end of a repetition behind the comma. -/
def commaEnd? (v : Bool) (least : Nat) : List Char → Option ((Nat × Option Nat) × List Char)
  | '\x7d' :: rest => some ((least, none), rest)
  | rest => (count v rest).1.bind (mostEnd? least · (count v rest).2)

/-- The end of a repetition behind its least count. -/
def leastEnd? (v : Bool) (least : Nat) : List Char → Option ((Nat × Option Nat) × List Char)
  | '\x7d' :: rest => some ((least, some least), rest)
  | ',' :: rest => commaEnd? v least (skip v rest)
  | _ => none

theorem bounds_eq (v : Bool) (cs : List Char) :
    bounds? v cs = (count v (skip v cs)).1.bind (leastEnd? v · (count v (skip v cs)).2) := by
  unfold bounds? leastEnd? commaEnd? mostEnd?
  cases count v (skip v cs) with
  | mk least left => cases least <;> rfl

theorem mostEnd_append {least most : Nat} {b : Nat × Option Nat}
    (h : mostEnd? least most cs = some (b, rest)) :
    mostEnd? least most (cs ++ tail) = some (b, rest ++ tail) := by
  unfold mostEnd? at h
  split at h
  · split at h
    · next hle =>
      cases h
      exact if_pos hle
    · cases h
  · cases h

theorem commaEnd_of_ne {least : Nat} (hc : ∀ mid, cs ≠ '\x7d' :: mid) :
    commaEnd? v least cs = (count v cs).1.bind (mostEnd? least · (count v cs).2) := by
  unfold commaEnd?
  split
  · exact absurd rfl (hc _)
  · rfl

theorem commaEnd_append {least : Nat} {b : Nat × Option Nat}
    (h : commaEnd? v least cs = some (b, rest)) (ht : Tail tail) :
    commaEnd? v least (cs ++ tail) = some (b, rest ++ tail) := by
  by_cases hclose : ∀ mid, cs ≠ '\x7d' :: mid
  · rw [commaEnd_of_ne hclose] at h
    rw [commaEnd_of_ne (ht.ne_cons (by decide) hclose)]
    exact bind_count_append (fun _ => rfl) mostEnd_append h
  · obtain ⟨mid, rfl⟩ : ∃ mid, cs = '\x7d' :: mid := by simpa using hclose
    cases h
    rfl

theorem leastEnd_append {least : Nat} {b : Nat × Option Nat}
    (h : leastEnd? v least cs = some (b, rest)) (ht : Tail tail) :
    leastEnd? v least (cs ++ tail) = some (b, rest ++ tail) := by
  by_cases hclose : ∃ mid, cs = '\x7d' :: mid
  · obtain ⟨mid, rfl⟩ := hclose
    cases h
    rfl
  by_cases hcomma : ∃ mid, cs = ',' :: mid
  · obtain ⟨mid, rfl⟩ := hcomma
    change commaEnd? v least (skip v mid) = _ at h
    change commaEnd? v least (skip v (mid ++ tail)) = _
    cases hs : skip v mid with
    | nil =>
      rw [hs] at h
      cases h
    | cons c left =>
      rw [hs] at h
      rw [skip_append hs]
      exact commaEnd_append h ht
  · unfold leastEnd? at h
    split at h
    · exact absurd ⟨_, rfl⟩ hclose
    · exact absurd ⟨_, rfl⟩ hcomma
    · cases h

theorem bounds_append {b : Nat × Option Nat} (h : bounds? v cs = some (b, rest))
    (ht : Tail tail) : bounds? v (cs ++ tail) = some (b, rest ++ tail) := by
  rw [bounds_eq] at h ⊢
  cases hs : skip v cs with
  | nil =>
    rw [hs] at h
    cases h
  | cons c mid =>
    rw [hs] at h
    rw [skip_append hs, ← List.cons_append]
    exact bind_count_append (fun _ => rfl) (fun hf => leastEnd_append hf ht) h

end Counts

end Cardfile.Pattern
