import Cardfile.Proofs.Accounting
import Cardfile.Proofs.EntityLinks
import Cardfile.Proofs.Enclosing
import Cardfile.Proofs.Fieldless
import Cardfile.Proofs.Matching

/-! # Whole matches

The rule for patterns reads a pattern by itself, and a type reads it wrapped into a group between
the start and the end of the text. A pattern that the rule accepts is also read wrapped, unless it
ends in a comment, which takes in the end of the group, or is too deep or too large with the group
around it. What is read then matches whole values.
-/

namespace Cardfile

/-- The pattern and the greatest number of characters of a form for patterns. -/
def Form.pattern? : Form → Option (String × Option Nat)
  | stringPattern pattern maxLength => some (pattern, maxLength)
  | _ => none

theorem Form.pattern?_eq_some_iff {form : Form} {source : String} {maxLength : Option Nat} :
    form.pattern? = some (source, maxLength) ↔ form = .stringPattern source maxLength := by
  cases form <;> simp [pattern?]

namespace Pattern

variable {source : String} {e : Expr} {p q : Pattern} {text : List Char} {i j : Nat}

/-- A pattern between the start and the end of a text. -/
def anchored (p : Pattern) : Pattern :=
  .sequence (.condition atTextStart) (.sequence p (.sequence (.condition atTextEnd) .empty))

/-- What it takes for an accepted pattern to be accepted with a group around it: a parenthesis
behind it is not taken in by a comment, and there is room for the group. -/
structure Wraps (source : String) (e : Expr) (p : Pattern) : Prop where
  closes : ofText? (source ++ ")") = none
  nesting : e.depth + 2 ≤ Expr.maxNesting
  size : p.cost + 3 ≤ maxCost

section Anchored

theorem cost_anchored (p : Pattern) : p.anchored.cost = p.cost + 3 := by
  simp only [anchored, cost]
  omega

theorem spans_atTextStart_iff : (condition atTextStart).Spans text i j ↔ i = 0 ∧ j = 0 := by
  constructor
  · rintro ⟨rfl, hi, hstart⟩
    cases i with
    | zero => exact ⟨rfl, rfl⟩
    | succ i =>
      have hnone : text[i]? = none := Option.isNone_iff_eq_none.1 hstart
      exact absurd (List.getElem?_eq_none_iff.1 hnone) (Nat.not_le_of_lt hi)
  · rintro ⟨rfl, rfl⟩
    exact ⟨rfl, Nat.zero_le _, rfl⟩

theorem spans_atTextEnd_iff :
    (condition atTextEnd).Spans text i j ↔ i = text.length ∧ j = text.length := by
  constructor
  · rintro ⟨rfl, hi, hend⟩
    have hnone : text[i]? = none := Option.isNone_iff_eq_none.1 hend
    have he := Nat.le_antisymm hi (List.getElem?_eq_none_iff.1 hnone)
    exact ⟨he, he⟩
  · rintro ⟨rfl, rfl⟩
    refine ⟨rfl, Nat.le_refl _, ?_⟩
    rw [List.getElem?_eq_none (Nat.le_refl _)]
    rfl

/-- An anchored pattern matches somewhere in a text if the pattern matches all of it. -/
theorem isMatch_anchored_iff : p.anchored.isMatch text = true ↔ p.Spans text 0 text.length := by
  rw [isMatch_iff]
  constructor
  · rintro ⟨i, j, -, k, hstart, l, hp, m, hend, -⟩
    obtain ⟨-, rfl⟩ := spans_atTextStart_iff.1 hstart
    obtain ⟨rfl, -⟩ := spans_atTextEnd_iff.1 hend
    exact hp
  · intro hp
    exact ⟨0, text.length, Nat.zero_le _, 0, spans_atTextStart_iff.2 ⟨rfl, rfl⟩, text.length, hp,
      text.length, spans_atTextEnd_iff.2 ⟨rfl, rfl⟩, rfl⟩

end Anchored

section Wrapping

theorem ofText?_eq_some_iff : ofText? source = some p ↔
    ∃ e flags, Expr.ofText? source.toList = some e ∧ e.meaning? .start = some (p, flags) ∧
      p.cost ≤ maxCost := by
  unfold ofText?
  constructor
  · intro h
    obtain ⟨e, he, h⟩ := Option.bind_eq_some_iff.1 h
    obtain ⟨⟨p, flags⟩, hp, h⟩ := Option.bind_eq_some_iff.1 h
    dsimp only at h
    split at h
    · next hcost =>
      cases h
      exact ⟨e, flags, he, hp, hcost⟩
    · cases h
  · rintro ⟨e, flags, he, hp, hcost⟩
    exact Option.bind_eq_some_iff.2 ⟨e, he, Option.bind_eq_some_iff.2 ⟨_, hp, if_pos hcost⟩⟩

theorem toList_wrap (source : String) :
    (StringPattern.wrap source).toList = enclosed source.toList := by
  simp [StringPattern.wrap, enclosed, String.toList_append]

/-- An accepted pattern is read with a group around it just if it can be wrapped. -/
theorem ofText?_wrap_iff (he : Expr.ofText? source.toList = some e)
    (hp : ofText? source = some p) :
    ofText? (StringPattern.wrap source) = some q ↔ Wraps source e p ∧ q = p.anchored := by
  obtain ⟨e', flags, he', hmeaning, hcost⟩ := ofText?_eq_some_iff.1 hp
  rw [he] at he'
  cases he'
  have hanchored : e.enclosed.meaning? .start = some (p.anchored, .start) := by
    rw [meaning_enclosed, hmeaning]
    rfl
  have hbehind : (source ++ ")").toList = source.toList ++ [')'] := by
    rw [String.toList_append]
    rfl
  rcases ofText_enclosed he with ⟨hnone, henclosed⟩ | ⟨hsame, hnone⟩
  · have hcloses : ofText? (source ++ ")") = none := by
      rw [ofText?, hbehind, hnone]
      rfl
    rw [ofText?_eq_some_iff, toList_wrap, henclosed]
    constructor
    · rintro ⟨e', flags', he', hq, hsize⟩
      split at he'
      · next hnesting =>
        cases he'
        rw [hanchored] at hq
        cases hq
        exact ⟨⟨hcloses, hnesting, cost_anchored p ▸ hsize⟩, rfl⟩
      · cases he'
    · rintro ⟨hwraps, rfl⟩
      exact ⟨_, _, if_pos hwraps.nesting, hanchored, (cost_anchored p).symm ▸ hwraps.size⟩
  · constructor
    · intro hq
      obtain ⟨e', _, he', -⟩ := ofText?_eq_some_iff.1 hq
      rw [toList_wrap, hnone] at he'
      cases he'
    · rintro ⟨hwraps, -⟩
      have hsome : ofText? (source ++ ")") = some p :=
        ofText?_eq_some_iff.2 ⟨e, flags, by rw [hbehind, hsame], hmeaning, hcost⟩
      rw [hwraps.closes] at hsome
      cases hsome

end Wrapping

end Pattern

namespace StringPattern

variable {source : String} {maxLength : Option Nat} {e : Pattern.Expr} {p : Pattern}
  {q : StringPattern}

section Patterns

theorem ofText_eq_ok_iff (he : Pattern.Expr.ofText? source.toList = some e)
    (hp : Pattern.ofText? source = some p) :
    ofText source maxLength = .ok q ↔
      Pattern.Wraps source e p ∧ q = ⟨source, maxLength, p.anchored⟩ := by
  unfold ofText
  constructor
  · intro h
    split at h
    · next whole hwhole =>
      obtain ⟨hwraps, rfl⟩ := (Pattern.ofText?_wrap_iff he hp).1 hwhole
      exact ⟨hwraps, (Except.ok.inj h).symm⟩
    · cases h
  · rintro ⟨hwraps, rfl⟩
    rw [(Pattern.ofText?_wrap_iff he hp).2 ⟨hwraps, rfl⟩]

theorem contains_iff {value : String} :
    contains ⟨source, maxLength, p.anchored⟩ value = true ↔
      (∀ n, maxLength = some n → value.length ≤ n) ∧ p.Spans value.toList 0 value.length := by
  unfold contains
  rw [Bool.and_eq_true, Pattern.isMatch_anchored_iff, String.length_toList]
  cases maxLength <;> simp

end Patterns

end StringPattern

namespace Catalogue

variable {m : Model} {rules : RuleBase} {fact : NormalFact} {source : String}
  {maxLength : Option Nat} {failOnOpen : Bool} {q : StringPattern} {cause : Error} {x : Diagnostic}

section Builds

theorem draft?_of_pattern (hf : fact.form = .stringPattern source maxLength)
    (hq : StringPattern.ofText source maxLength = .ok q) :
    fact.draft? = some fun _ => .stringPattern q := by
  unfold NormalFact.draft? restriction
  rw [hf]
  dsimp only
  rw [hq]
  rfl

theorem diagnostics_of_pattern (hf : fact.form = .stringPattern source maxLength)
    (hq : StringPattern.ofText source maxLength = .ok q) : fact.diagnostics = [] := by
  unfold NormalFact.diagnostics NormalFact.issues restriction
  rw [hf]
  dsimp only
  rw [hq]
  rfl

/-- A pattern that is refused is told, and drafts no type. -/
theorem refused_of_pattern (hf : fact.form = .stringPattern source maxLength)
    (hq : StringPattern.ofText source maxLength = .error cause) :
    fact.draft? = none ∧ fact.diagnostics = [⟨fact.name, .rejected cause⟩] := by
  unfold NormalFact.draft? NormalFact.diagnostics NormalFact.issues restriction
  rw [hf]
  dsimp only
  rw [hq]
  exact ⟨rfl, rfl⟩

theorem accepted_iff : Rule.check .patternCompiles (.stringPattern source maxLength) = .ok () ↔
    ∃ p, Pattern.ofText? source = some p := by
  rw [← Option.isSome_iff_exists]
  unfold Rule.check Rule.require
  dsimp only
  cases (Pattern.ofText? source).isSome <;> simp

/-- Under the rule for patterns those of declarations in normal form are accepted. -/
theorem check_of_pattern (hr : Rule.patternCompiles ∈ rules.rulesFor .stringPattern)
    (hm : fact ∈ (Review.ofModel rules m).normalFacts)
    (hf : fact.form = .stringPattern source maxLength) :
    fact.kind = .stringPattern ∧ Rule.check .patternCompiles fact.form = .ok () := by
  have hfits := Review.fits_of_mem hm
  rw [hf] at hfits
  have hkind : fact.kind = .stringPattern := of_decide_eq_true hfits
  have hcheck := Review.check_of_mem hm
  unfold RuleBase.check at hcheck
  rw [hkind] at hcheck
  exact ⟨hkind, forM_ok hcheck _ hr⟩

theorem type?_of_pattern (hm : fact ∈ (Review.ofModel rules m).normalFacts)
    (hf : fact.form = .stringPattern source maxLength) (hk : fact.kind = .stringPattern)
    (hn : Host.ofName? fact.name = none) (hq : StringPattern.ofText source maxLength = .ok q) :
    (completed (.ofModel rules m) failOnOpen).type? fact.name =
        some ⟨fact.name, .stringPattern q⟩ ∧
      ∀ cause, ⟨fact.name, .rejected cause⟩ ∉
        (completed (.ofModel rules m) failOnOpen).diagnostics := by
  obtain ⟨hbrings, -, htold⟩ := brings_of_no_fields (fun _ h => Review.fits_of_mem h)
    (Review.nodup_ofFacts rules [] m.facts) hm (by rw [hk]; rfl) hn
  constructor
  · have htype : (resolved (.ofModel rules m)).type? fact.name = _ :=
      hbrings.type?_resolvePending (draft?_of_pattern hf hq)
    rw [type?_completed, htype]
    rfl
  · intro cause hx
    rcases htold _ (mem_sketch_of_stage hx rfl) rfl with hfailed | hown
    · obtain ⟨failure, -, he⟩ := List.mem_map.1 hfailed
      cases congrArg Diagnostic.issue he
    · rw [diagnostics_of_pattern hf hq] at hown
      cases hown

theorem told_of_pattern (hm : fact ∈ (Review.ofModel rules m).normalFacts)
    (hf : fact.form = .stringPattern source maxLength) (hk : fact.kind = .stringPattern)
    (hn : Host.ofName? fact.name = none)
    (hq : StringPattern.ofText source maxLength = .error cause) :
    ⟨fact.name, .rejected cause⟩ ∈ (completed (.ofModel rules m) failOnOpen).diagnostics ∧
      ∀ q, (completed (.ofModel rules m) failOnOpen).type? fact.name ≠
        some ⟨fact.name, .stringPattern q⟩ := by
  obtain ⟨hdraft, hdiagnostics⟩ := refused_of_pattern hf hq
  have hnodup := Review.nodup_ofFacts rules [] m.facts
  obtain ⟨-, htold, -⟩ := brings_of_no_fields (fun _ h => Review.fits_of_mem h) hnodup hm
    (by rw [hk]; rfl) hn
  constructor
  · have hsketch := htold (hdiagnostics ▸ List.mem_singleton_self _)
    exact List.mem_append_left _ (List.mem_append_left _ hsketch)
  · intro q ht
    rw [type?_completed] at ht
    obtain ⟨t, hresolved, he⟩ := Option.map_eq_some_iff.1 ht
    have hkind : t.body.kind? = some .stringPattern := by
      rw [← kind?_related, he]
      rfl
    obtain ⟨draft, hd, -⟩ :=
      (finished_resolved _).draft_of_kind hnodup hm hresolved hkind
    rw [hdraft] at hd
    cases hd

/-- A pattern that its rule accepts is usable if it can be wrapped: just then it is read again, and
it contains the values, of no more than the greatest number of characters, that the pattern matches
from the first to the last character. Under the rule for patterns a declaration with a free name
becomes a type in that case and is not told anything, and it is rejected otherwise. -/
theorem accepted_patterns_wrap (source : String) (maxLength : Option Nat) :
    (Rule.check .patternCompiles (.stringPattern source maxLength) = .ok () →
      ∃ e p, Pattern.Expr.ofText? source.toList = some e ∧ Pattern.ofText? source = some p ∧
        ((∃ q, StringPattern.ofText source maxLength = .ok q) ↔ Pattern.Wraps source e p) ∧
        ∀ q, StringPattern.ofText source maxLength = .ok q → ∀ value, q.contains value = true ↔
          (∀ n, maxLength = some n → value.length ≤ n) ∧
            p.Spans value.toList 0 value.length) ∧
    ∀ (rules : RuleBase) (failOnOpen : Bool) (m : Model), ∃ c,
      build ⟨rules, false, failOnOpen⟩ m = .ok c ∧
      (∀ strict c', build ⟨rules, strict, failOnOpen⟩ m = .ok c' → c' = c) ∧
      (Rule.patternCompiles ∈ rules.rulesFor .stringPattern →
        ∀ fact ∈ (Review.ofModel rules m).normalFacts,
          fact.form = .stringPattern source maxLength → Host.ofName? fact.name = none →
            Rule.check .patternCompiles (.stringPattern source maxLength) = .ok () ∧
            (∀ q, StringPattern.ofText source maxLength = .ok q →
              c.type? fact.name = some ⟨fact.name, .stringPattern q⟩ ∧
                ∀ cause, ⟨fact.name, .rejected cause⟩ ∉ c.diagnostics) ∧
            ∀ cause, StringPattern.ofText source maxLength = .error cause →
              ⟨fact.name, .rejected cause⟩ ∈ c.diagnostics ∧
                ∀ q, c.type? fact.name ≠ some ⟨fact.name, .stringPattern q⟩) := by
  constructor
  · intro hcheck
    obtain ⟨p, hp⟩ := accepted_iff.1 hcheck
    obtain ⟨e, _, he, -⟩ := Pattern.ofText?_eq_some_iff.1 hp
    refine ⟨e, p, he, hp, ?_, fun q hq value => ?_⟩
    · simp only [StringPattern.ofText_eq_ok_iff he hp, exists_and_left, exists_eq, and_true]
    · obtain ⟨-, rfl⟩ := (StringPattern.ofText_eq_ok_iff he hp).1 hq
      exact StringPattern.contains_iff
  · intro rules failOnOpen m
    refine ⟨completed (.ofModel rules m) failOnOpen, build_eq ⟨rules, false, failOnOpen⟩ m,
      fun strict c' hb => ?_, fun hr fact hm hf hn => ?_⟩
    · have hcompleted := eq_completed_of_build hb
      exact hcompleted
    · obtain ⟨hk, hcheck⟩ := check_of_pattern hr hm hf
      rw [hf] at hcheck
      exact ⟨hcheck, fun q hq => type?_of_pattern hm hf hk hn hq,
        fun cause hq => told_of_pattern hm hf hk hn hq⟩

/-- Alternatives that are repeated, with blanks and with a comment that ends with its line. -/
theorem accepted_patterns_wrap_of_comment :
    let source := "(?x) (a | a b)+ # c\n"
    let m : Model := [⟨"string_pattern", [("name", .text "Code"), ("pattern", .text source),
      ("max_length", .integer 3)]⟩]
    ∃ c q p, build ⟨.default, true, false⟩ m = .ok c ∧ Pattern.ofText? source = some p ∧
      c.type? "Code" = some ⟨"Code", .stringPattern q⟩ ∧
      (∀ cause, ⟨"Code", .rejected cause⟩ ∉ c.diagnostics) ∧
      (∀ value, q.contains value = true ↔
        (∀ n, some 3 = some n → value.length ≤ n) ∧ p.Spans value.toList 0 value.length) ∧
      q.contains "aba" = true ∧ q.contains "ba" = false ∧ q.contains "abab" = false := by
  intro source m
  have hvalues : ((StringPattern.ofText source (some 3)).toOption.map fun q =>
      ["aba", "ba", "abab"].map q.contains) = some [true, false, false] := by decide +kernel
  obtain ⟨q, hq⟩ : ∃ q, StringPattern.ofText source (some 3) = .ok q := by
    cases hq : StringPattern.ofText source (some 3) with
    | ok q => exact ⟨q, rfl⟩
    | error cause =>
      rw [hq] at hvalues
      cases hvalues
  rw [hq] at hvalues
  have hcontained : q.contains "aba" = true ∧ q.contains "ba" = false ∧
      q.contains "abab" = false := by simpa [Except.toOption] using hvalues
  have hone : ((Review.ofModel .default m).normalFacts.map fun fact =>
      (fact.name, fact.form.pattern?)) = [("Code", some (source, some 3))] := by decide +kernel
  obtain ⟨fact, hm, hfact⟩ := List.mem_map.1 (hone ▸ List.mem_singleton_self _)
  have hname : fact.name = "Code" := congrArg Prod.fst hfact
  have hf := Form.pattern?_eq_some_iff.1 (congrArg Prod.snd hfact)
  have hnone : (ofReview (.ofModel .default m)).diagnostics = [] := by decide +kernel
  have hstrict : build ⟨.default, true, false⟩ m =
      .ok { (ofReview (.ofModel .default m)).inferAll (Review.ofModel .default m).links with
        failOnOpen := false } := by
    unfold build
    dsimp only
    rw [hnone]
    rfl
  obtain ⟨husable, hbuilds⟩ := accepted_patterns_wrap source (some 3)
  obtain ⟨c, -, hsame, hall⟩ := hbuilds .default false m
  rw [hsame true _ hstrict] at hstrict
  obtain ⟨hcheck, htype, -⟩ := hall (by decide) fact hm hf (by rw [hname]; decide)
  obtain ⟨ht, hd⟩ := htype q hq
  rw [hname] at ht hd
  obtain ⟨e, p, -, hp, -, hcontains⟩ := husable hcheck
  exact ⟨c, q, p, hstrict, hp, ht, hd, hcontains q hq, hcontained⟩

/-- A pattern that ends in a comment is accepted by its rule, and its declaration is rejected. -/
theorem accepted_pattern_rejected :
    let source := "(?x)a b #c"
    let m : Model := [⟨"string_pattern", [("name", .text "Code"), ("pattern", .text source)]⟩]
    Rule.check .patternCompiles (.stringPattern source none) = .ok () ∧
      StringPattern.ofText source none = .error .badPattern ∧
        ∃ c, build ⟨.default, false, false⟩ m = .ok c ∧ c.type? "Code" = none ∧
          c.diagnostics = [⟨"Code", .rejected .badPattern⟩] := by
  intro source m
  have hnone : Pattern.ofText? (StringPattern.wrap source) = none :=
    Option.isNone_iff_eq_none.1 (by decide +kernel)
  refine ⟨accepted_iff.2 (Option.isSome_iff_exists.1 (by decide +kernel)), ?_, _, rfl, ?_, ?_⟩
  · rw [StringPattern.ofText, hnone]
  · exact Option.isNone_iff_eq_none.1 (by decide +kernel)
  · decide +kernel

end Builds

end Catalogue

end Cardfile
