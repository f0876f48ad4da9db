import Cardfile.Catalogue.Restriction
import Cardfile.Proofs.Texts
import Mathlib.Algebra.Order.Field.Rat
import Mathlib.Algebra.Order.Ring.Abs
import Mathlib.Data.Nat.Cast.Order.Ring
import Mathlib.Tactic.FieldSimp
import Mathlib.Tactic.Linarith

/-! # Decimal literals

A decimal type counts the digits on both sides of the point, zeros at the ends left out. For the
number that is written this comes to a bound, and to being a multiple of the last place. Any row of
signs may stand in front.
-/

namespace Cardfile

/-- A number as it is written: signs, digits, and possibly a point with digits behind it. There is
at least one digit. -/
structure Literal where
  signs : List Char
  whole : List Char
  fraction : Option (List Char)
  isSign : ∀ c ∈ signs, c = '-' ∨ c = '+'
  isDigit : ∀ c ∈ whole ++ fraction.getD [], c.isDigit = true
  nonempty : whole ++ fraction.getD [] ≠ []

namespace Literal

/-- The digits behind the point. -/
def places (n : Literal) : List Char := n.fraction.getD []

def unsigned (n : Literal) : List Char :=
  match n.fraction with
  | none => n.whole
  | some places => n.whole ++ '.' :: places

def text (n : Literal) : List Char := n.signs ++ n.unsigned

def magnitude (n : Literal) : ℚ := digitsValue (n.whole ++ n.places) / 10 ^ n.places.length

/-- The number that is written, negative if an odd number of its signs are. -/
def value (n : Literal) : ℚ := (-1) ^ n.signs.count '-' * n.magnitude

variable {n : Literal}

section Text

variable {c : Char} {cs : List Char}

theorem isDigit_whole (hc : c ∈ n.whole) : c.isDigit = true :=
  n.isDigit c (List.mem_append_left _ hc)

theorem isDigit_places (hc : c ∈ n.places) : c.isDigit = true :=
  n.isDigit c (List.mem_append_right _ hc)

theorem point_notMem {ds : List Char} (h : ∀ c ∈ ds, c.isDigit = true) : '.' ∉ ds :=
  fun hm => absurd (h '.' hm) (by decide)

/-- What follows the signs starts with a digit or with the point. -/
theorem head_unsigned (n : Literal) :
    ∃ c rest, n.unsigned = c :: rest ∧ (c.isDigit = true ∨ c = '.') := by
  unfold unsigned
  cases hw : n.whole with
  | cons c rest =>
    have hc : c.isDigit = true := n.isDigit_whole (hw ▸ List.mem_cons_self)
    cases n.fraction with
    | none => exact ⟨c, rest, rfl, .inl hc⟩
    | some places => exact ⟨c, rest ++ '.' :: places, rfl, .inl hc⟩
  | nil =>
    cases hf : n.fraction with
    | none => exact absurd (by simp [hw, hf]) n.nonempty
    | some places => exact ⟨'.', places, rfl, .inr rfl⟩

theorem dropWhile_text (n : Literal) :
    n.text.dropWhile (fun c => c = '-' || c = '+') = n.unsigned := by
  obtain ⟨c, rest, hn, hc⟩ := n.head_unsigned
  have hnone : ¬ (c = '-' ∨ c = '+') := by
    rintro (rfl | rfl) <;> exact absurd hc (by decide)
  unfold text
  rw [List.dropWhile_append_of_pos (by simpa using n.isSign), hn, List.dropWhile_cons_of_neg]
  simpa using hnone

theorem splitOnce?_unsigned (n : Literal) :
    (Text.splitOnce? ['.'] n.unsigned).getD (n.unsigned, []) = (n.whole, n.places) := by
  have hpoint := point_notMem fun c => n.isDigit_whole (c := c)
  unfold unsigned places
  cases n.fraction with
  | none => simp [Text.splitOnce?_of_notMem hpoint]
  | some places =>
    have hsplit := Text.splitOnce?_append hpoint [] places
    rw [List.append_assoc, List.singleton_append] at hsplit
    simp [hsplit]

/-- Signs and the parts of what follows them make a literal if the parts are digits. -/
theorem exists_of_parts {signs unsigned : List Char} (hs : ∀ c ∈ signs, c = '-' ∨ c = '+')
    (hd : ∀ c ∈ ((Text.splitOnce? ['.'] unsigned).getD (unsigned, [])).1 ++
      ((Text.splitOnce? ['.'] unsigned).getD (unsigned, [])).2, c.isDigit = true)
    (hne : ((Text.splitOnce? ['.'] unsigned).getD (unsigned, [])).1 ++
      ((Text.splitOnce? ['.'] unsigned).getD (unsigned, [])).2 ≠ []) :
    ∃ n : Literal, n.text = signs ++ unsigned := by
  by_cases hp : '.' ∈ unsigned
  · obtain ⟨whole, places, rfl, hw⟩ := List.eq_append_cons_of_mem hp
    have hsplit := Text.splitOnce?_append hw [] places
    rw [List.append_assoc, List.singleton_append] at hsplit
    rw [hsplit] at hd hne
    exact ⟨⟨signs, whole, some places, hs, hd, hne⟩, rfl⟩
  · rw [Text.splitOnce?_of_notMem hp] at hd hne
    exact ⟨⟨signs, unsigned, none, hs, hd, hne⟩, rfl⟩

end Text

end Literal

section Arithmetic

variable {ds : List Char} {k : Nat}

/-- Zeros in front do not count. -/
theorem digitsValue_dropWhile (ds : List Char) :
    digitsValue (ds.dropWhile (· = '0')) = digitsValue ds := by
  induction ds with
  | nil => rfl
  | cons c ds ih =>
    by_cases hc : c = '0'
    · subst hc
      simpa [digitsValue_cons, digitOf] using ih
    · simp [hc]

theorem digitOf_pos {c : Char} (h : c.isDigit = true) (hc : c ≠ '0') : 0 < digitOf c := by
  have hle := (Char.isDigit_iff_toNat.1 h).1
  have hne : c.toNat ≠ '0'.toNat := fun he => hc (Char.toNat_inj.1 he)
  unfold digitOf
  omega

theorem digitsValue_lt_pow_iff (h : ∀ c ∈ ds, c.isDigit = true) :
    digitsValue ds < 10 ^ k ↔ (ds.dropWhile (· = '0')).length ≤ k := by
  rw [← digitsValue_dropWhile]
  have hd : ∀ c ∈ ds.dropWhile (· = '0'), c.isDigit = true :=
    fun c hc => h c ((List.dropWhile_suffix _).subset hc)
  constructor
  · intro hlt
    cases he : ds.dropWhile (· = '0') with
    | nil => simp
    | cons c rest =>
      have hc : c ≠ '0' := by
        have hhead := List.head?_dropWhile_not (· = '0') ds
        simpa [he] using hhead
      rw [he] at hlt hd
      have hpos := digitOf_pos (hd c List.mem_cons_self) hc
      refine Nat.succ_le_of_lt ((Nat.pow_lt_pow_iff_right (by decide)).1 (lt_of_le_of_lt ?_ hlt))
      rw [digitsValue_cons]
      exact Nat.le_add_right_of_le (Nat.le_mul_of_pos_left _ hpos)
  · exact fun hle => (digitsValue_lt hd).trans_le (Nat.pow_le_pow_right (by decide) hle)

theorem DecimalSpec.dropTrailingZeros_concat (ds : List Char) (c : Char) :
    dropTrailingZeros (ds ++ [c]) = if c = '0' then dropTrailingZeros ds else ds ++ [c] := by
  unfold dropTrailingZeros
  split
  · next hc => simp [hc]
  · next hc => simp [hc]

/-- Zeros at the end of a fraction do not count. -/
theorem pow_dvd_iff (h : ∀ c ∈ ds, c.isDigit = true) :
    10 ^ ds.length ∣ digitsValue ds * 10 ^ k ↔
      (DecimalSpec.dropTrailingZeros ds).length ≤ k := by
  induction ds using List.reverseRecOn with
  | nil => simp [digitsValue, DecimalSpec.dropTrailingZeros]
  | append_singleton ds c ih =>
    rw [DecimalSpec.dropTrailingZeros_concat, digitsValue_concat, List.length_append,
      List.length_singleton, pow_succ']
    split
    · next hc =>
      have hzero : digitOf c = 0 := hc ▸ rfl
      rw [hzero, Nat.add_zero, Nat.mul_assoc, Nat.mul_dvd_mul_iff_left (by decide)]
      exact ih fun d hd => h d (List.mem_append_left _ hd)
    · next hc =>
      have hdigit := h c (by simp)
      rw [List.length_append, List.length_singleton, ← pow_succ']
      constructor
      · intro hdvd
        by_contra hlt
        -- the last digit would have to be a multiple of ten
        have hmore : 10 * 10 ^ k ∣ (10 * digitsValue ds + digitOf c) * 10 ^ k := by
          rw [← pow_succ']
          exact (pow_dvd_pow 10 (by omega)).trans hdvd
        have hten := Nat.dvd_of_mul_dvd_mul_right (by positivity) hmore
        have hpos := digitOf_pos hdigit hc
        have hlt := digitOf_lt hdigit
        omega
      · exact fun hle => (pow_dvd_pow 10 hle).trans (Nat.dvd_mul_left _ _)

end Arithmetic

namespace Literal

section Value

theorem magnitude_nonneg (n : Literal) : 0 ≤ n.magnitude :=
  div_nonneg (Nat.cast_nonneg _) (by positivity)

theorem value_eq_or (n : Literal) : n.value = n.magnitude ∨ n.value = -n.magnitude := by
  unfold value
  rcases neg_one_pow_eq_or ℚ (n.signs.count '-') with h | h <;> simp [h]

theorem abs_value (n : Literal) : |n.value| = n.magnitude := by
  rcases n.value_eq_or with h | h
  · rw [h, abs_of_nonneg n.magnitude_nonneg]
  · rw [h, abs_neg, abs_of_nonneg n.magnitude_nonneg]

/-- The digits behind the point do not matter to a bound that is a power of ten. -/
theorem abs_value_lt_iff (n : Literal) (k : Nat) :
    |n.value| < 10 ^ k ↔ (n.whole.dropWhile (· = '0')).length ≤ k := by
  have hplaces := digitsValue_lt fun c => n.isDigit_places (c := c)
  have hpos : 0 < 10 ^ n.places.length := by positivity
  calc |n.value| < 10 ^ k
      ↔ (digitsValue (n.whole ++ n.places) : ℚ) < 10 ^ k * 10 ^ n.places.length := by
        rw [abs_value, magnitude, div_lt_iff₀ (by positivity)]
    _ ↔ digitsValue (n.whole ++ n.places) < 10 ^ k * 10 ^ n.places.length := by
        exact_mod_cast Iff.rfl
    _ ↔ digitsValue n.whole < 10 ^ k := by
        rw [← Nat.div_lt_iff_lt_mul hpos, digitsValue_append, Nat.mul_comm, Nat.mul_add_div hpos,
          Nat.div_eq_of_lt hplaces, Nat.add_zero]
    _ ↔ (n.whole.dropWhile (· = '0')).length ≤ k :=
        digitsValue_lt_pow_iff fun c => n.isDigit_whole

/-- The digits in front of the point do not matter to being a multiple of a place behind it. -/
theorem exists_int_iff (n : Literal) (k : Nat) :
    (∃ z : ℤ, n.value * 10 ^ k = z) ↔ (DecimalSpec.dropTrailingZeros n.places).length ≤ k := by
  have hpow : (10 : ℚ) ^ n.places.length ≠ 0 := by positivity
  calc (∃ z : ℤ, n.value * 10 ^ k = z)
      ↔ ∃ z : ℤ, n.magnitude * 10 ^ k = z := by
        rcases n.value_eq_or with h | h
        · rw [h]
        · rw [h]
          constructor
          · rintro ⟨z, hz⟩
            exact ⟨-z, by push_cast; linarith⟩
          · rintro ⟨z, hz⟩
            exact ⟨-z, by push_cast; linarith⟩
    _ ↔ 10 ^ n.places.length ∣ digitsValue (n.whole ++ n.places) * 10 ^ k := by
        rw [← Int.natCast_dvd_natCast]
        constructor
        · rintro ⟨z, hz⟩
          refine ⟨z, ?_⟩
          rw [magnitude, div_mul_eq_mul_div, div_eq_iff hpow, mul_comm (z : ℚ)] at hz
          exact_mod_cast hz
        · rintro ⟨z, hz⟩
          refine ⟨z, ?_⟩
          rw [magnitude, div_mul_eq_mul_div, div_eq_iff hpow, mul_comm (z : ℚ)]
          exact_mod_cast hz
    _ ↔ 10 ^ n.places.length ∣ digitsValue n.places * 10 ^ k := by
        rw [digitsValue_append, Nat.add_mul, Nat.dvd_add_right]
        exact (Nat.dvd_mul_left _ _).mul_right _
    _ ↔ (DecimalSpec.dropTrailingZeros n.places).length ≤ k :=
        pow_dvd_iff fun c => n.isDigit_places

end Value

end Literal

namespace DecimalSpec

variable {d : DecimalSpec} {literal : String}

/-- What belongs to a decimal type is a number with signs in front. -/
theorem exists_literal (h : d.contains literal = true) :
    ∃ n : Literal, n.text = Text.trimChars literal.toList := by
  unfold contains at h
  dsimp only at h
  rw [← List.takeWhile_append_dropWhile (p := fun c => c = '-' || c = '+')
    (l := Text.trimChars literal.toList)]
  split at h
  · cases h
  · next hne =>
    split at h
    · cases h
    · next hdigits =>
      refine Literal.exists_of_parts (fun c hc => ?_) (fun c hc => ?_) ?_
      · simpa using List.all_eq_true.1 List.all_takeWhile c hc
      · exact List.all_eq_true.1 (by simpa using hdigits) c hc
      · simpa using hne

/-- What the digits on both sides of the point come to. -/
theorem contains_iff_digits : d.contains literal = true ↔
    ∃ n : Literal, n.text = Text.trimChars literal.toList ∧
      (n.whole.dropWhile (· = '0')).length ≤ d.precision - d.scale ∧
      (dropTrailingZeros n.places).length ≤ d.scale := by
  -- both ways look at the literal that the trimmed text is, if it is one
  have hcontains : ∀ n : Literal, n.text = Text.trimChars literal.toList →
      (d.contains literal = true ↔ (n.whole.dropWhile (· = '0')).length ≤ d.precision - d.scale ∧
        (dropTrailingZeros n.places).length ≤ d.scale) := by
    intro n hn
    have hne : (n.whole.isEmpty && n.places.isEmpty) = false := by
      simpa [Literal.places] using n.nonempty
    have hdigits : (n.whole ++ n.places).all Char.isDigit = true :=
      List.all_eq_true.2 n.isDigit
    unfold contains
    rw [← hn, n.dropWhile_text]
    dsimp only
    rw [n.splitOnce?_unsigned, hne, hdigits]
    simp [and_comm]
  constructor
  · intro h
    obtain ⟨n, hn⟩ := exists_literal h
    exact ⟨n, hn, (hcontains n hn).1 h⟩
  · rintro ⟨n, hn, hfits⟩
    exact (hcontains n hn).2 hfits

/-- A literal belongs to a decimal type if it is a number with white space around it, which has any
signs in front, is less than the power of ten that the precision leaves to the whole part, and is a
multiple of the last place of the scale. -/
theorem contains_iff_value (d : DecimalSpec) (literal : String) :
    d.contains literal = true ↔
      ∃ n : Literal, n.text = Text.trimChars literal.toList ∧
        |n.value| < 10 ^ (d.precision - d.scale) ∧ ∃ z : ℤ, n.value * 10 ^ d.scale = z := by
  simp only [Literal.abs_value_lt_iff, Literal.exists_int_iff, contains_iff_digits]

example : (⟨5, 2⟩ : DecimalSpec).contains " -0123.450" = true := by decide

/-- A number with two signs in front belongs, which no literal with at most one sign says. -/
theorem contains_two_signs : (⟨5, 2⟩ : DecimalSpec).contains "--5" = true ∧
    ¬ ∃ n : Literal, n.signs.length ≤ 1 ∧ n.text = Text.trimChars "--5".toList := by
  refine ⟨by decide, ?_⟩
  rintro ⟨n, hsigns, hn⟩
  have htext : n.signs ++ n.unsigned = ['-', '-', '5'] := hn
  obtain ⟨c, rest, hhead, hc⟩ := n.head_unsigned
  -- what is left of the text after the signs starts with a sign
  have hsign : c = '-' := by
    rw [hhead] at htext
    match hs : n.signs, hsigns with
    | [], _ => simp_all
    | [_], _ => simp_all
  subst hsign
  exact absurd hc (by decide)

end DecimalSpec

end Cardfile
