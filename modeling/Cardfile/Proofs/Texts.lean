import Cardfile.Real64.Reading
import Mathlib.Data.List.Induction
import Mathlib.Tactic.Ring

/-! # Texts in parts

What trimming, splitting and the reading of digits make of a text that is put together from known
parts.
-/

namespace Cardfile

namespace Text

variable {cs low : List Char} {sep : Char}

section Trimming

/-- A text with white space around another. -/
def Padded (cs text : List Char) : Prop :=
  ∃ before after : List Char, (∀ c ∈ before, isBlank c = true) ∧ (∀ c ∈ after, isBlank c = true) ∧
    text = before ++ cs ++ after

theorem dropWhile_of_all {p : Char → Bool} (h : ∀ c ∈ cs, p c = true) : cs.dropWhile p = [] := by
  rw [← List.append_nil cs, List.dropWhile_append_of_pos h, List.dropWhile_nil]

theorem trimRight_append (cs : List Char) {after : List Char}
    (h : ∀ c ∈ after, isBlank c = true) : trimRight (cs ++ after) = trimRight cs := by
  unfold trimRight
  rw [List.reverse_append, List.dropWhile_append_of_pos]
  simpa using h

theorem Padded.trimChars_eq {text : List Char} (h : Padded cs text) :
    trimChars text = trimChars cs := by
  obtain ⟨before, after, hb, ha, rfl⟩ := h
  unfold trimChars trimLeft
  rw [List.append_assoc, List.dropWhile_append_of_pos hb, List.dropWhile_append]
  split
  · next hnone =>
    rw [dropWhile_of_all ha, List.isEmpty_iff.1 hnone]
  · exact trimRight_append _ ha

/-- Nothing is trimmed from a text without blanks. -/
theorem trimChars_of_not_blank (h : ∀ c ∈ cs, isBlank c = false) : trimChars cs = cs := by
  have keeps : ∀ l : List Char, (∀ c ∈ l, isBlank c = false) → l.dropWhile isBlank = l := by
    intro l hl
    cases l with
    | nil => rfl
    | cons c rest => simp [hl c List.mem_cons_self]
  unfold trimChars trimRight trimLeft
  rw [keeps cs h, keeps _ (by simpa using h), List.reverse_reverse]

end Trimming

section Splitting

theorem splitAt_of_notMem (h : sep ∉ cs) : splitAt sep cs = [cs] := by
  induction cs with
  | nil => rfl
  | cons c cs ih =>
    obtain ⟨hc, hrest⟩ := List.ne_and_not_mem_of_not_mem_cons h
    rw [splitAt, if_neg (Ne.symm hc), ih hrest]

theorem splitAt_append (h : sep ∉ cs) (rest : List Char) :
    splitAt sep (cs ++ sep :: rest) = cs :: splitAt sep rest := by
  induction cs with
  | nil => simp [splitAt]
  | cons c cs ih =>
    obtain ⟨hc, hrest⟩ := List.ne_and_not_mem_of_not_mem_cons h
    rw [List.cons_append, splitAt, if_neg (Ne.symm hc), ih hrest]

/-- A text that is joined from parts is split into them again. -/
theorem splitAt_intercalate {parts : List (List Char)} (hne : parts ≠ [])
    (h : ∀ part ∈ parts, sep ∉ part) : splitAt sep ([sep].intercalate parts) = parts := by
  induction parts with
  | nil => exact absurd rfl hne
  | cons part rest ih =>
    obtain ⟨hpart, hrest⟩ := List.forall_mem_cons.1 h
    cases rest with
    | nil => simpa using splitAt_of_notMem hpart
    | cons next more =>
      rw [List.intercalate_cons_cons, List.append_assoc, List.singleton_append,
        splitAt_append hpart, ih (List.cons_ne_nil _ _) hrest]

theorem splitOnce?_of_notMem (h : sep ∉ cs) (more : List Char) :
    splitOnce? (sep :: more) cs = none := by
  induction cs with
  | nil => rfl
  | cons c cs ih =>
    obtain ⟨hc, hrest⟩ := List.ne_and_not_mem_of_not_mem_cons h
    simp [splitOnce?, hc, ih hrest]

/-- A text is cut at a separator whose first character does not come before. -/
theorem splitOnce?_append (h : sep ∉ low) (more high : List Char) :
    splitOnce? (sep :: more) (low ++ (sep :: more) ++ high) = some (low, high) := by
  induction low with
  | nil => simp [splitOnce?, List.isPrefixOf_iff_prefix]
  | cons c low ih =>
    obtain ⟨hc, hrest⟩ := List.ne_and_not_mem_of_not_mem_cons h
    rw [List.cons_append, List.cons_append, splitOnce?, ih hrest]
    simp [hc]

end Splitting

end Text

section Digits

variable {ds : List Char} {n : Int}

theorem digitOf_lt {c : Char} (h : c.isDigit = true) : digitOf c < 10 := by
  have hle := (Char.isDigit_iff_toNat.1 h).2
  have hnine : '9'.toNat = '0'.toNat + 9 := rfl
  unfold digitOf
  omega

theorem digitsValue_concat (ds : List Char) (c : Char) :
    digitsValue (ds ++ [c]) = 10 * digitsValue ds + digitOf c := by
  simp [digitsValue]

theorem digitsValue_append (ds es : List Char) :
    digitsValue (ds ++ es) = digitsValue ds * 10 ^ es.length + digitsValue es := by
  induction es using List.reverseRecOn with
  | nil => simp [digitsValue]
  | append_singleton es c ih =>
    rw [← List.append_assoc, digitsValue_concat, ih, digitsValue_concat, List.length_append,
      List.length_singleton]
    ring

theorem digitsValue_cons (c : Char) (ds : List Char) :
    digitsValue (c :: ds) = digitOf c * 10 ^ ds.length + digitsValue ds := by
  simpa [digitsValue] using digitsValue_append [c] ds

theorem digitsValue_lt (h : ∀ c ∈ ds, c.isDigit = true) : digitsValue ds < 10 ^ ds.length := by
  induction ds using List.reverseRecOn with
  | nil => decide
  | append_singleton ds c ih =>
    have hds := ih fun d hd => h d (by simp [hd])
    have hc := digitOf_lt (h c (by simp))
    rw [digitsValue_concat, List.length_append, List.length_singleton, pow_succ]
    omega

/-- The decimal text of a number is read back. -/
theorem digitsValue_toDigits (n : Nat) : digitsValue (Nat.toDigits 10 n) = n :=
  Nat.ofDigitChars_ten_toDigits

end Digits

end Cardfile
