import Cardfile.Pattern.Escape

/-! # Tails

A closing parenthesis behind a pattern belongs to what is around the pattern. Whatever is read from
the pattern is read in the same way with such a tail behind it, and the tail stays behind what is
left. There is one exception: a comment that runs to the end of the pattern runs on through the
tail.
-/

namespace Cardfile.Pattern

/-- A closing parenthesis and more of its line. A colon would end the name of a class. -/
structure Tail (tail : List Char) : Prop where
  closes : tail.head? = some ')'
  sameLine : '\n' ∉ tail
  plain : ':' ∉ tail

/-- What is left of a text, with a tail behind the text: the same with the tail behind it, or
nothing because the tail is lost in a comment. -/
def Carries (rest : List Char) (g : List Char → List Char) : Prop :=
  (∀ tail, Tail tail → g tail = rest ++ tail) ∨ (rest = [] ∧ ∀ tail, Tail tail → g tail = [])

/-- A reader takes the same from the front of a text with a tail behind it. -/
def Extends {α : Type} (f : List Char → Option (α × List Char)) (cs : List Char) (x : α)
    (rest : List Char) : Prop :=
  ∃ g, Carries rest g ∧ ∀ tail, Tail tail → f (cs ++ tail) = some (x, g tail)

/-- Characters of a kind, up to the first other one. -/
def taken (p : Char → Bool) (verbose : Bool) : Nat → List Char → List Char × List Char
  | 0, cs => ([], cs)
  | _ + 1, [] => ([], [])
  | fuel + 1, c :: rest =>
    if p c then
      let (run, rest) := taken p verbose fuel (skip verbose rest)
      (c :: run, rest)
    else ([], c :: rest)

variable {α β : Type} {v : Bool} {c d : Char} {cs rest tail : List Char} {fuel fuel' : Nat}

section Tails

theorem tail_parenthesis : Tail [')'] := ⟨rfl, by decide, by decide⟩

theorem tail_parenthesis_end : Tail [')', '$'] := ⟨rfl, by decide, by decide⟩

theorem Tail.eq_cons (h : Tail tail) : ∃ more, tail = ')' :: more := by
  obtain ⟨more, he⟩ := List.head?_eq_some_iff.1 h.closes
  exact ⟨more, he⟩

/-- What begins a text with a tail is the parenthesis or began the text before. -/
theorem Tail.cons_of_append (h : Tail tail) (hd : d ≠ ')') {more : List Char}
    (he : cs ++ tail = d :: more) : ∃ before, cs = d :: before ∧ more = before ++ tail := by
  cases cs with
  | nil =>
    obtain ⟨_, rfl⟩ := h.eq_cons
    cases he
    exact absurd rfl hd
  | cons c cs =>
    cases he
    exact ⟨cs, rfl, rfl⟩

theorem carries_append (rest : List Char) : Carries rest (rest ++ ·) := .inl fun _ _ => rfl

theorem extends_of_append {f : List Char → Option (α × List Char)} {x : α}
    (h : ∀ tail, Tail tail → f (cs ++ tail) = some (x, rest ++ tail)) : Extends f cs x rest :=
  ⟨_, carries_append rest, h⟩

theorem Extends.map {f : List Char → Option (α × List Char)} {x : α} (h : Extends f cs x rest)
    (k : α → β) : Extends (fun cs => (f cs).map fun p => (k p.1, p.2)) cs (k x) rest := by
  obtain ⟨g, hg, hf⟩ := h
  exact ⟨g, hg, fun tail ht => by simp only [hf tail ht, Option.map_some]⟩

theorem Carries.kept {g : List Char → List Char} (h : Carries rest g) (hr : rest ≠ [])
    (ht : Tail tail) : g tail = rest ++ tail :=
  h.elim (fun hkept => hkept tail ht) fun hlost => absurd hlost.1 hr

/-- Reading goes on from what is left, also where the tail is lost. -/
theorem Carries.trans {P : List Char → List Char → Prop} {mid : List Char}
    {g : List Char → List Char} (hg : Carries mid g)
    (h : ∃ g', Carries rest g' ∧ ∀ tail, Tail tail → P (mid ++ tail) (g' tail))
    (hnil : mid = [] → rest = [] ∧ P [] []) :
    ∃ g', Carries rest g' ∧ ∀ tail, Tail tail → P (g tail) (g' tail) := by
  rcases hg with hkept | ⟨hm, hlost⟩
  · obtain ⟨g', hg', hp⟩ := h
    exact ⟨g', hg', fun tail ht => by rw [hkept tail ht]; exact hp tail ht⟩
  · obtain ⟨hr, hp⟩ := hnil hm
    exact ⟨fun _ => [], .inr ⟨hr, fun _ _ => rfl⟩, fun tail ht => by rw [hlost tail ht]; exact hp⟩

theorem Extends.after {f : List Char → Option (α × List Char)} {x : α} {mid : List Char}
    {g : List Char → List Char} (h : Extends f mid x rest) (hg : Carries mid g)
    (hnil : mid = [] → rest = [] ∧ f [] = some (x, [])) :
    ∃ g', Carries rest g' ∧ ∀ tail, Tail tail → f (g tail) = some (x, g' tail) :=
  hg.trans (P := fun cs rest => f cs = some (x, rest)) h hnil

end Tails

section Filling

/-- A character is passed over, or it is the first that is left. -/
theorem skipFilling_cons (inComment : Bool) (c : Char) :
    (∃ inside, ∀ cs, skipFilling inComment (c :: cs) = skipFilling inside cs) ∨
      ∀ cs, skipFilling inComment (c :: cs) = c :: cs := by
  simp only [skipFilling]
  split
  · exact .inl ⟨_, fun _ => rfl⟩
  · split
    · exact .inl ⟨_, fun _ => rfl⟩
    · split
      · exact .inl ⟨_, fun _ => rfl⟩
      · exact .inr fun _ => rfl

theorem skipFilling_append {inComment : Bool} (h : skipFilling inComment cs ≠ [])
    (tail : List Char) :
    skipFilling inComment (cs ++ tail) = skipFilling inComment cs ++ tail := by
  induction cs generalizing inComment with
  | nil => exact absurd rfl h
  | cons c cs ih =>
    rw [List.cons_append]
    rcases skipFilling_cons inComment c with ⟨inside, he⟩ | he
    · rw [he] at h ⊢
      rw [he]
      exact ih h
    · rw [he, he, List.cons_append]

theorem skipFilling_of_sameLine (h : '\n' ∉ cs) : skipFilling true cs = [] := by
  induction cs with
  | nil => rfl
  | cons c cs ih =>
    have hsame : (c != '\n') = true := bne_iff_ne.2 fun he => h (he ▸ List.mem_cons_self)
    rw [skipFilling, if_pos rfl, hsame, ih fun hm => h (List.mem_cons_of_mem c hm)]

/-- Where nothing is left, the tail is left or lost, depending on where the text ends. -/
theorem skipFilling_nil {inComment : Bool} (h : skipFilling inComment cs = []) :
    Carries [] fun tail => skipFilling inComment (cs ++ tail) := by
  induction cs generalizing inComment with
  | nil =>
    -- a comment goes on through the tail, which has no end of a line
    cases inComment with
    | true => exact .inr ⟨rfl, fun tail ht => skipFilling_of_sameLine ht.sameLine⟩
    | false =>
      refine .inl fun tail ht => ?_
      obtain ⟨more, rfl⟩ := ht.eq_cons
      rfl
  | cons c cs ih =>
    rcases skipFilling_cons inComment c with ⟨inside, he⟩ | he
    · rw [he] at h
      simp only [List.cons_append, he]
      exact ih h
    · rw [he] at h
      cases h

theorem carries_skip (v : Bool) (cs : List Char) :
    Carries (skip v cs) fun tail => skip v (cs ++ tail) := by
  unfold skip
  cases v with
  | false => exact carries_append cs
  | true =>
    rw [if_pos rfl]
    simp only [if_pos]
    by_cases h : skipFilling false cs = []
    · rw [h]
      exact skipFilling_nil h
    · exact .inl fun tail _ => skipFilling_append h tail

theorem skip_append (h : skip v cs = c :: rest) (tail : List Char) :
    skip v (cs ++ tail) = c :: (rest ++ tail) := by
  unfold skip at h ⊢
  cases v with
  | false =>
    rw [if_neg Bool.false_ne_true] at h ⊢
    rw [h, List.cons_append]
  | true =>
    rw [if_pos rfl] at h ⊢
    rw [skipFilling_append (by rw [h]; exact List.cons_ne_nil _ _), h, List.cons_append]

theorem skip_nil (v : Bool) : skip v [] = [] := by cases v <;> rfl

theorem length_skip_le (v : Bool) (cs : List Char) : (skip v cs).length ≤ cs.length := by
  have hfilling : ∀ inComment, (skipFilling inComment cs).length ≤ cs.length := by
    induction cs with
    | nil => exact fun _ => Nat.le_refl _
    | cons c cs ih =>
      intro inComment
      rcases skipFilling_cons inComment c with ⟨inside, he⟩ | he
      · rw [he]
        exact Nat.le_succ_of_le (ih inside)
      · exact Nat.le_of_eq (congrArg List.length (he cs))
  cases v with
  | false => exact Nat.le_refl _
  | true => exact hfilling false

/-- With a tail behind the text there is at least as much fuel. -/
theorem fuel_append (cs tail : List Char) : cs.length + 1 ≤ (cs ++ tail).length + 1 :=
  Nat.succ_le_succ (List.length_append ▸ Nat.le_add_right _ _)

theorem taken_nil (p : Char → Bool) (v : Bool) (fuel : Nat) : taken p v fuel [] = ([], []) := by
  cases fuel <;> rfl

/-- A run that ends before the text does is not touched by what is behind the text. -/
theorem taken_append {p : Char → Bool} (hl : cs.length < fuel) (hf : fuel ≤ fuel')
    (h : (taken p v fuel cs).2 ≠ []) (tail : List Char) :
    taken p v fuel' (cs ++ tail) = ((taken p v fuel cs).1, (taken p v fuel cs).2 ++ tail) := by
  induction fuel generalizing cs fuel' with
  | zero => exact absurd hl (Nat.not_lt_zero _)
  | succ fuel ih =>
    obtain _ | fuel' := fuel'
    · exact absurd hf (Nat.not_succ_le_zero _)
    cases cs with
    | nil => exact absurd rfl h
    | cons c cs =>
      rw [List.cons_append]
      unfold taken at h ⊢
      split
      · next hp =>
        rw [if_pos hp] at h
        cases hs : skip v cs with
        | nil =>
          rw [hs, taken_nil] at h
          exact absurd rfl h
        | cons d rest =>
          have hlength := length_skip_le v cs
          rw [hs] at h hlength
          rw [skip_append hs, ← List.cons_append,
            ih (Nat.lt_of_le_of_lt hlength (Nat.lt_of_succ_lt_succ hl))
              (Nat.le_of_succ_le_succ hf) h]
      · rfl

end Filling

section Escapes

theorem extends_hexDigits {value n count : Nat}
    (h : hexDigits? v value count cs = some (n, rest)) :
    Extends (hexDigits? v value count) cs n rest := by
  induction count generalizing value cs with
  | zero =>
    cases h
    exact extends_of_append fun _ _ => rfl
  | succ count ih =>
    cases cs with
    | nil => cases h
    | cons c cs =>
      obtain ⟨digit, hd, h⟩ := Option.bind_eq_some_iff.1 h
      have hnil : skip v cs = [] →
          rest = [] ∧ hexDigits? v (16 * value + digit) count [] = some (n, []) := by
        intro hs
        rw [hs] at h
        cases count with
        | zero => cases h; exact ⟨rfl, rfl⟩
        | succ count => cases h
      obtain ⟨g, hg, he⟩ := (ih h).after (carries_skip v cs) hnil
      refine ⟨g, hg, fun tail ht => ?_⟩
      rw [List.cons_append, hexDigits?, hd]
      exact he tail ht

theorem bracedText_append {text : List Char} (h : bracedText? fuel v cs = some (text, rest))
    (hf : fuel ≤ fuel') (tail : List Char) :
    bracedText? fuel' v (cs ++ tail) = some (text, rest ++ tail) := by
  induction fuel generalizing cs text fuel' with
  | zero => cases h
  | succ fuel ih =>
    obtain _ | fuel' := fuel'
    · exact absurd hf (Nat.not_succ_le_zero _)
    unfold bracedText? at h ⊢
    split at h
    · cases h
    · next hs =>
      cases h
      rw [skip_append hs]
      rfl
    · next c mid hc hs =>
      obtain ⟨⟨run, left⟩, hp, he⟩ := Option.map_eq_some_iff.1 h
      cases he
      rw [skip_append hs]
      split
      · next heq => cases heq
      · next heq =>
        cases heq
        exact (hc rfl).elim
      · next heq =>
        cases heq
        rw [ih hp (Nat.le_of_succ_le_succ hf)]
        rfl

/-- The letter whose code stands between braces. -/
def bracedLetter? (digits : List Char) : Option Letter :=
  if digits.isEmpty then none
  else (hexValue? 0 digits).bind fun n => (charOfCode? n).map (⟨·, false⟩)

theorem codeEscape_of_brace {count : Nat} {mid : List Char} (hs : skip v cs = '\x7b' :: mid) :
    codeEscape? v count cs =
      (bracedText? (mid.length + 1) v mid).bind fun p =>
        (bracedLetter? p.1).map fun l => (l, skip v p.2) := by
  rw [codeEscape?, hs]
  refine congrArg (Option.bind _) (funext fun ⟨digits, left⟩ => ?_)
  unfold bracedLetter?
  dsimp only
  cases digits with
  | nil => rfl
  | cons c digits =>
    simp only [List.isEmpty_cons, Bool.false_eq_true, if_false]
    cases hexValue? 0 (c :: digits) with
    | none => rfl
    | some n => cases hn : charOfCode? n <;> simp [hn]

theorem codeEscape_of_ne {count : Nat} {mid : List Char} (hs : skip v cs = c :: mid)
    (hc : c ≠ '\x7b') :
    codeEscape? v count cs =
      (hexDigits? v 0 count (c :: mid)).bind fun p =>
        (charOfCode? p.1).map fun a => (⟨a, count = 2⟩, p.2) := by
  rw [codeEscape?, hs]
  split
  · next heq =>
    cases heq
    exact absurd rfl hc
  · refine congrArg (Option.bind _) (funext fun ⟨n, left⟩ => ?_)
    dsimp only
    cases charOfCode? n <;> rfl

theorem extends_codeEscape {count : Nat} {l : Letter}
    (h : codeEscape? v (count + 1) cs = some (l, rest)) :
    Extends (codeEscape? v (count + 1)) cs l rest := by
  cases hs : skip v cs with
  | nil =>
    rw [codeEscape?, hs] at h
    cases h
  | cons c mid =>
    by_cases hc : c = '\x7b'
    · subst hc
      rw [codeEscape_of_brace hs] at h
      obtain ⟨⟨digits, left⟩, hb, hl⟩ := Option.bind_eq_some_iff.1 h
      obtain ⟨_, hd, he⟩ := Option.map_eq_some_iff.1 hl
      cases he
      refine ⟨_, carries_skip v left, fun tail _ => ?_⟩
      have hmore := fuel_append mid tail
      rw [codeEscape_of_brace (skip_append hs tail), bracedText_append hb hmore,
        Option.bind_some, hd]
      rfl
    · rw [codeEscape_of_ne hs hc] at h
      obtain ⟨⟨n, left⟩, hn, hl⟩ := Option.bind_eq_some_iff.1 h
      obtain ⟨_, ha, he⟩ := Option.map_eq_some_iff.1 hl
      cases he
      obtain ⟨g, hg, hf⟩ := extends_hexDigits hn
      refine ⟨g, hg, fun tail ht => ?_⟩
      rw [codeEscape_of_ne (skip_append hs tail) hc, ← List.cons_append, hf tail ht,
        Option.bind_some, ha]
      rfl

theorem query_of_brace {mid : List Char} (hs : skip v cs = '\x7b' :: mid) :
    query? v cs = (bracedText? (mid.length + 1) v mid).map fun p => (queryOf p.1, p.2) := by
  rw [query?, hs]
  rfl

theorem query_of_ne {mid : List Char} (hs : skip v cs = c :: mid) (hb : c ≠ '\x7b')
    (hc : c ≠ '\\') : query? v cs = some (.named [c], skip v mid) := by
  rw [query?, hs]
  split
  · next heq => cases heq
  · next heq =>
    cases heq
    exact absurd rfl hc
  · next heq =>
    cases heq
    exact absurd rfl hb
  · next heq =>
    cases heq
    rfl

theorem extends_query {q : Query} (h : query? v cs = some (q, rest)) :
    Extends (query? v) cs q rest := by
  cases hs : skip v cs with
  | nil =>
    rw [query?, hs] at h
    cases h
  | cons c mid =>
    by_cases hb : c = '\x7b'
    · subst hb
      rw [query_of_brace hs] at h
      obtain ⟨⟨text, left⟩, ht, he⟩ := Option.map_eq_some_iff.1 h
      cases he
      refine extends_of_append fun tail _ => ?_
      have hmore := fuel_append mid tail
      rw [query_of_brace (skip_append hs tail), bracedText_append ht hmore]
      rfl
    · by_cases hc : c = '\\'
      · subst hc
        rw [query?, hs] at h
        cases h
      · rw [query_of_ne hs hb hc] at h
        cases h
        refine ⟨_, carries_skip v mid, fun tail _ => ?_⟩
        rw [query_of_ne (skip_append hs tail) hb hc]

theorem boundaryName_eq (fuel : Nat) (v : Bool) (cs : List Char) :
    boundaryName fuel v cs = taken isBoundaryLetter v fuel cs := by
  induction fuel generalizing cs with
  | zero => rfl
  | succ fuel ih =>
    cases cs with
    | nil => rfl
    | cons c cs =>
      rw [boundaryName, taken, ih]

/-- What is left behind a closing brace. -/
def closed? (x : α) : List Char → Option (α × List Char)
  | '\x7d' :: rest => some (x, rest)
  | _ => none

theorem closed_append {x y : α} (h : closed? x cs = some (y, rest)) (tail : List Char) :
    closed? x (cs ++ tail) = some (y, rest ++ tail) := by
  unfold closed? at h
  split at h
  · cases h
    rfl
  · cases h

theorem boundary_of_brace {mid named : List Char} (hs : skip v mid = c :: named) :
    boundary? v ('\x7b' :: mid) =
      if isBoundaryLetter c then
        (boundaryOfName? (taken isBoundaryLetter v (mid.length + 1) (c :: named)).1).bind
          (closed? · (taken isBoundaryLetter v (mid.length + 1) (c :: named)).2)
      else some (.boundary, '\x7b' :: mid) := by
  rw [← boundaryName_eq, boundary?, hs]
  dsimp only
  split
  · refine congrArg (Option.bind _) (funext fun a => ?_)
    unfold closed?
    rfl
  · rfl

theorem boundary_of_ne (h : ∀ mid, cs ≠ '\x7b' :: mid) : boundary? v cs = some (.boundary, cs) := by
  unfold boundary?
  split
  · next mid => exact absurd rfl (h mid)
  · rfl

/-- Braces behind a boundary are read in the same way, whether they hold a name or a count. -/
theorem boundary_append {a : Assertion} (h : boundary? v cs = some (a, rest)) (ht : Tail tail) :
    boundary? v (cs ++ tail) = some (a, rest ++ tail) := by
  by_cases hb : ∃ mid, cs = '\x7b' :: mid
  · obtain ⟨mid, rfl⟩ := hb
    cases hs : skip v mid with
    | nil =>
      rw [boundary?, hs] at h
      cases h
    | cons c named =>
      rw [boundary_of_brace hs] at h
      rw [List.cons_append, boundary_of_brace (skip_append hs tail)]
      split at h
      · next hc =>
        obtain ⟨b, hb, hr⟩ := Option.bind_eq_some_iff.1 h
        have hlength : (c :: named).length < mid.length + 1 :=
          Nat.lt_succ_of_le (hs ▸ length_skip_le v mid)
        have hmore := fuel_append mid tail
        have hne : (taken isBoundaryLetter v (mid.length + 1) (c :: named)).2 ≠ [] := by
          intro he
          rw [he] at hr
          cases hr
        rw [if_pos hc, ← List.cons_append, taken_append hlength hmore hne, hb, Option.bind_some]
        exact closed_append hr tail
      · next hc =>
        cases h
        rw [if_neg hc]
        rfl
  · rw [boundary_of_ne fun mid he => hb ⟨mid, he⟩] at h
    cases h
    refine boundary_of_ne fun mid he => ?_
    obtain ⟨before, he, -⟩ := ht.cons_of_append (by decide) he
    exact hb ⟨before, he⟩

/-- The readers for what stands behind the character of an escape. -/
inductive EscapeEnd (v : Bool) : (List Char → Option (Primitive × List Char)) → Prop
  | code (count : Nat) :
    EscapeEnd v fun cs => (codeEscape? v (count + 1) cs).map fun p => (.letter p.1, p.2)
  | query (negated : Bool) :
    EscapeEnd v fun cs => (query? v cs).map fun p => (.property p.1 negated, p.2)
  | boundary : EscapeEnd v fun cs => (boundary? v cs).map fun p => (.assertion p.1, p.2)
  | plain (p : Primitive) : EscapeEnd v fun cs => some (p, cs)
  | unknown : EscapeEnd v fun _ => none

theorem escapeEnd (v : Bool) (c : Char) : EscapeEnd v fun cs => escape? v (c :: cs) := by
  unfold escape?
  dsimp only
  split
  iterate 3 exact .code _
  iterate 2 exact .query _
  iterate 14 exact .plain _
  · exact .boundary
  iterate 3 exact .plain _
  · split
    · exact .plain _
    · exact .unknown

theorem extends_escape {p : Primitive} (h : escape? v cs = some (p, rest)) :
    Extends (escape? v) cs p rest := by
  cases cs with
  | nil => cases h
  | cons c cs =>
    have hend := escapeEnd v c
    suffices hc : ∀ f, EscapeEnd v f → f cs = some (p, rest) → Extends f cs p rest from
      hc _ hend h
    intro f hf h
    cases hf with
    | code count =>
      obtain ⟨⟨l, left⟩, hl, he⟩ := Option.map_eq_some_iff.1 h
      cases he
      exact (extends_codeEscape hl).map Primitive.letter
    | query negated =>
      obtain ⟨⟨q, left⟩, hq, he⟩ := Option.map_eq_some_iff.1 h
      cases he
      exact (extends_query hq).map (Primitive.property · negated)
    | boundary =>
      obtain ⟨⟨a, left⟩, ha, he⟩ := Option.map_eq_some_iff.1 h
      cases he
      exact (extends_of_append fun _ ht => boundary_append ha ht).map Primitive.assertion
    | plain => 
      cases h
      exact extends_of_append fun _ _ => rfl
    | unknown => cases h

end Escapes

end Cardfile.Pattern
