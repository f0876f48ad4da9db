import Cardfile.Proofs.Declared
import Cardfile.Proofs.Texts

/-! # Spellings of a property

Numbers and lists of names may be written in more than one way, and some properties have two names.
Normal forms depend only on what is read, not on how it is written.
-/

namespace Cardfile

section Numbers

variable {n : Int} {v : Value}

/-- Text of an integer: its digits, with a minus sign in front if it is negative. -/
theorem toList_toString (n : Int) : (toString n).toList =
    if n < 0 then '-' :: Nat.toDigits 10 n.natAbs else Nat.toDigits 10 n.natAbs := by
  rw [Int.toString_eq_repr]
  cases n with
  | ofNat m => simp [Int.repr, Nat.repr, Int.natAbs]
  | negSucc m => simp [Int.repr, Nat.repr, Int.natAbs, Int.negSucc_lt_zero]

theorem isDigit_of_mem_toDigits {c : Char} {m : Nat} (h : c ∈ Nat.toDigits 10 m) :
    c.isDigit = true :=
  Nat.isDigit_of_mem_toDigits (by decide) (by decide) h

/-- Digits and signs are no blanks, points or commas. -/
theorem digit_or_sign_of_mem {c : Char} (h : c ∈ (toString n).toList) :
    c.isDigit = true ∨ c = '-' := by
  rw [toList_toString] at h
  split at h
  · rcases List.mem_cons.1 h with rfl | h
    · exact .inr rfl
    · exact .inl (isDigit_of_mem_toDigits h)
  · exact .inl (isDigit_of_mem_toDigits h)

theorem isBlank_of_isDigit {c : Char} (h : c.isDigit = true) : Text.isBlank c = false := by
  obtain ⟨hl, hu⟩ := Char.isDigit_iff_toNat.1 h
  have hzero : '0'.toNat = 48 := rfl
  have hnine : '9'.toNat = 57 := rfl
  simp only [Text.isBlank, Bool.or_eq_false_iff, Bool.and_eq_false_iff, decide_eq_false_iff_not]
  omega

theorem isBlank_of_mem_toString {c : Char} (h : c ∈ (toString n).toList) :
    Text.isBlank c = false := by
  rcases digit_or_sign_of_mem h with h | rfl
  · exact isBlank_of_isDigit h
  · decide

theorem splitSign_toString (n : Int) :
    splitSign (toString n).toList = (decide (n < 0), Nat.toDigits 10 n.natAbs) := by
  rw [toList_toString]
  split
  · next hneg => simp [splitSign, hneg]
  · next hpos =>
    obtain ⟨c, rest, hd⟩ := List.exists_cons_of_ne_nil (@Nat.toDigits_ne_nil n.natAbs 10)
    have hc : c.isDigit = true := isDigit_of_mem_toDigits (hd ▸ List.mem_cons_self)
    rw [hd, decide_eq_false hpos]
    unfold splitSign
    split
    · next heq => cases heq; cases hc
    · next heq => cases heq; cases hc
    · rfl

/-- The decimal text of a 64-bit integer is read back. -/
theorem int64OfText?_toString (h : fitsInt64 n = true) :
    int64OfText? (toString n).toList = some n := by
  have hdigits : (Nat.toDigits 10 n.natAbs).all Char.isDigit = true :=
    List.all_eq_true.2 fun c hc => isDigit_of_mem_toDigits hc
  have hne : (Nat.toDigits 10 n.natAbs).isEmpty = false :=
    List.isEmpty_eq_false_iff.2 Nat.toDigits_ne_nil
  have hsigned : signed (decide (n < 0)) n.natAbs = n := by
    unfold signed
    split
    · next hneg =>
      have := of_decide_eq_true hneg
      omega
    · next hpos =>
      have := of_decide_eq_false (Bool.eq_false_iff.2 hpos)
      omega
  unfold int64OfText?
  rw [splitSign_toString]
  dsimp only
  rw [hne, hdigits, digitsValue_toDigits, hsigned, h]
  rfl

/-- A value that is an integer, or its decimal text with white space around it. -/
inductive Value.Writes (n : Int) : Value → Prop
  | integer : Writes n (.integer n)
  | text {s : String} : Text.Padded (toString n).toList s.toList → Writes n (.text s)

theorem int64OfText?_of_padded {cs : List Char} (hn : fitsInt64 n = true)
    (h : Text.Padded (toString n).toList cs) : int64OfText? (Text.trimChars cs) = some n := by
  rw [h.trimChars_eq, Text.trimChars_of_not_blank fun c hc => isBlank_of_mem_toString hc,
    int64OfText?_toString hn]

theorem Value.Writes.integer?_eq (h : v.Writes n) (hn : fitsInt64 n = true) :
    v.integer? = some n := by
  cases h with
  | integer => rfl
  | text h => exact int64OfText?_of_padded hn h

end Numbers

variable {p q : Properties}

section Ranges

variable {low high : Int}

/-- Both properties of a pair are there. -/
def Properties.HasBoth (p : Properties) (name name' : String) : Prop :=
  (p.get? name).isSome ∧ (p.get? name').isSome

theorem hasBoth_of_some {name name' : String} {a b : Value} (ha : p.get? name = some a)
    (hb : p.get? name' = some b) : p.HasBoth name name' := by
  simp [Properties.HasBoth, ha, hb]

/-- The ways to write a range of integers. A pair of bounds counts before another and before a
text. -/
inductive WritesRange (low high : Int) (p : Properties) : Prop
  | minMax {a b : Value} : p.get? "min" = some a → p.get? "max" = some b →
      a.Writes low → b.Writes high → WritesRange low high p
  | lowerUpper {a b : Value} : ¬ p.HasBoth "min" "max" → p.get? "lower" = some a →
      p.get? "upper" = some b → a.Writes low → b.Writes high → WritesRange low high p
  | range {s : String} {a b : List Char} : ¬ p.HasBoth "min" "max" → ¬ p.HasBoth "lower" "upper" →
      p.get? "range" = some (.text s) → s.toList = a ++ ['.', '.'] ++ b →
      Text.Padded (toString low).toList a → Text.Padded (toString high).toList b →
      WritesRange low high p

theorem point_notMem_of_padded {n : Int} {cs : List Char}
    (h : Text.Padded (toString n).toList cs) : '.' ∉ cs := by
  obtain ⟨before, after, hb, ha, rfl⟩ := h
  simp only [List.mem_append, not_or]
  refine ⟨⟨fun hm => absurd (hb '.' hm) (by decide), fun hm => ?_⟩,
    fun hm => absurd (ha '.' hm) (by decide)⟩
  rcases digit_or_sign_of_mem hm with hd | hd <;> exact absurd hd (by decide)

/-- All spellings of a range have the same form. -/
theorem formOf_of_writesRange (hl : fitsInt64 low = true) (hh : fitsInt64 high = true)
    (h : WritesRange low high p) : formOf .integerRange p = .ok (.integerRange low high) := by
  have hbounds : boundsOf Value.integer? int64OfText? p = .ok (low, high) := by
    unfold boundsOf
    dsimp only
    -- each way of writing is looked at only if those before it are not there
    cases h with
    | minMax hmin hmax ha hb =>
      rw [hmin, hmax]
      dsimp only
      rw [ha.integer?_eq hl, hb.integer?_eq hh]
    | lowerUpper hno hlower hupper ha hb =>
      split
      · next hmin hmax => exact absurd (hasBoth_of_some hmin hmax) hno
      · rw [hlower, hupper]
        dsimp only
        rw [ha.integer?_eq hl, hb.integer?_eq hh]
    | range hno hno' hrange hs ha hb =>
      split
      · next hmin hmax => exact absurd (hasBoth_of_some hmin hmax) hno
      · split
        · next hlower hupper => exact absurd (hasBoth_of_some hlower hupper) hno'
        · rw [Properties.text?, hrange, Option.bind_some, Value.text?]
          dsimp only
          rw [hs, Text.splitOnce?_append (point_notMem_of_padded ha)]
          dsimp only
          rw [int64OfText?_of_padded hl ha, int64OfText?_of_padded hh hb]
  rw [formOf, hbounds]
  rfl

end Ranges

section Decimals

variable {precision scale : Int}

/-- The ways to write the digits of a decimal. -/
inductive WritesDecimal (precision scale : Int) (p : Properties) : Prop
  | precisionScale {a b : Value} : p.get? "precision" = some a → p.get? "scale" = some b →
      a.Writes precision → b.Writes scale → WritesDecimal precision scale p
  | digitsFraction {a b : Value} : p.get? "precision" = none → p.get? "scale" = none →
      p.get? "digits" = some a → p.get? "fraction" = some b →
      a.Writes precision → b.Writes scale → WritesDecimal precision scale p

theorem decimalForm_of_writes (hp : fitsInt64 precision = true) (hs : fitsInt64 scale = true)
    (h : WritesDecimal precision scale p) : formOf .decimal p = (do
      pure (.decimal (← countOf "precision" precision) (← countOf "scale" scale))) := by
  have hread : p.first? Properties.integer? ["precision", "digits"] = some precision ∧
      p.first? Properties.integer? ["scale", "fraction"] = some scale := by
    cases h with
    | precisionScale ha hb hwa hwb =>
      simp [Properties.first?, Properties.integer?, ha, hb, hwa.integer?_eq hp, hwb.integer?_eq hs]
    | digitsFraction hno hno' ha hb hwa hwb =>
      simp [Properties.first?, Properties.integer?, hno, hno', ha, hb, hwa.integer?_eq hp,
        hwb.integer?_eq hs]
  rw [formOf, decimalForm, hread.1, hread.2]
  rfl

theorem countOf_eq_ok_iff {what : String} {n : Int} {m : Nat} :
    countOf what n = .ok m ↔ (0 ≤ n ∧ n < 2 ^ 32) ∧ m = n.toNat := by
  unfold countOf
  split
  · next h =>
    simp only [Bool.and_eq_true, decide_eq_true_eq] at h
    simp [h, eq_comm]
  · next h =>
    simp only [Bool.and_eq_true, decide_eq_true_eq] at h
    simp [h]

/-- Both numbers of a decimal are counts below `2 ^ 32`, however they are written. -/
theorem formOf_decimal_iff (hp : fitsInt64 precision = true) (hs : fitsInt64 scale = true)
    (h : WritesDecimal precision scale p) {form : Form} : formOf .decimal p = .ok form ↔
      (0 ≤ precision ∧ precision < 2 ^ 32) ∧ (0 ≤ scale ∧ scale < 2 ^ 32) ∧
        form = .decimal precision.toNat scale.toNat := by
  rw [decimalForm_of_writes hp hs h]
  constructor
  · intro hform
    obtain ⟨m, hm, hform⟩ := bind_ok hform
    obtain ⟨k, hk, hform⟩ := bind_ok hform
    cases hform
    obtain ⟨hrange, rfl⟩ := countOf_eq_ok_iff.1 hm
    obtain ⟨hrange', rfl⟩ := countOf_eq_ok_iff.1 hk
    exact ⟨hrange, hrange', rfl⟩
  · rintro ⟨hrange, hrange', rfl⟩
    rw [countOf_eq_ok_iff.2 ⟨hrange, rfl⟩, countOf_eq_ok_iff.2 ⟨hrange', rfl⟩]
    rfl

end Decimals

section Names

/-- A name that can stand between commas. -/
structure PlainName (name : String) : Prop where
  nonempty : name ≠ ""
  comma : ',' ∉ name.toList
  trimmed : Text.trimChars name.toList = name.toList

/-- A text of the names with commas between them, and white space around them. -/
def CommaText (names : List String) (text : String) : Prop :=
  ∃ parts : List (List Char),
    List.Forall₂ (fun name part => Text.Padded name.toList part) names parts ∧
      text.toList = [','].intercalate parts

theorem comma_notMem_of_padded {name : String} {part : List Char} (hn : PlainName name)
    (h : Text.Padded name.toList part) : ',' ∉ part := by
  obtain ⟨before, after, hb, ha, rfl⟩ := h
  simp only [List.mem_append, not_or]
  exact ⟨⟨fun hm => absurd (hb ',' hm) (by decide), hn.comma⟩,
    fun hm => absurd (ha ',' hm) (by decide)⟩

/-- Names that are written with commas between them are read back. -/
theorem commaParts_eq {names : List String} {text : String} (hn : ∀ name ∈ names, PlainName name)
    (h : CommaText names text) : Text.commaParts text = names := by
  obtain ⟨parts, hparts, htext⟩ := h
  have hpart : parts.map Text.trimChars = names.map String.toList ∧ ∀ part ∈ parts, ',' ∉ part := by
    clear htext
    induction hparts with
    | nil => exact ⟨rfl, by simp⟩
    | cons hpart _ ih =>
      obtain ⟨hname, hrest⟩ := List.forall_mem_cons.1 hn
      obtain ⟨htrim, hcomma⟩ := ih hrest
      rw [List.map_cons, List.map_cons, htrim, hpart.trimChars_eq, hname.trimmed]
      exact ⟨rfl, List.forall_mem_cons.2 ⟨comma_notMem_of_padded hname hpart, hcomma⟩⟩
  obtain ⟨htrim, hcomma⟩ := hpart
  have hnonempty : (names.map String.toList).filter (!·.isEmpty) = names.map String.toList := by
    refine List.filter_eq_self.2 fun cs hcs => ?_
    obtain ⟨name, hm, rfl⟩ := List.mem_map.1 hcs
    simpa using (hn name hm).nonempty
  have hsplit : ((Text.splitAt ',' text.toList).map Text.trimChars).filter (!·.isEmpty) =
      names.map String.toList := by
    cases parts with
    | nil =>
      obtain rfl := List.map_eq_nil_iff.1 htrim.symm
      rw [htext]
      rfl
    | cons part more =>
      rw [htext, Text.splitAt_intercalate (List.cons_ne_nil _ _) hcomma, htrim, hnonempty]
  rw [Text.commaParts, hsplit, List.map_map]
  simp [Function.comp_def]

end Names

section Properties

/-- The properties are the same, those with some names left out. -/
def Properties.AgreeBut (names : List String) (p q : Properties) : Prop :=
  ∀ name ∉ names, p.get? name = q.get? name

theorem agreeBut_of_filter {names : List String}
    (h : p.filter (fun entry => entry.1 ∉ names) = q.filter fun entry => entry.1 ∉ names) :
    p.AgreeBut names q := by
  have hfilter : ∀ (p : Properties), ∀ name ∉ names,
      Properties.get? (p.filter fun entry => entry.1 ∉ names) name = p.get? name := by
    intro p name hname
    induction p with
    | nil => rfl
    | cons entry rest ih =>
      unfold Properties.get? at ih ⊢
      by_cases he : entry.1 ∈ names
      · have hne : entry.1 ≠ name := fun h => hname (h ▸ he)
        rw [List.filter_cons_of_neg (by simpa using he), ih, Dict.lookup, if_neg hne]
      · rw [List.filter_cons_of_pos (by simpa using he), Dict.lookup, Dict.lookup, ih]
  intro name hname
  rw [← hfilter p name hname, h, hfilter q name hname]

section Agreement

variable {names : List String} {name : String}

theorem Properties.AgreeBut.text?_eq (h : p.AgreeBut names q) (hn : name ∉ names) :
    p.text? name = q.text? name := by
  rw [Properties.text?, Properties.text?, h name hn]

theorem Properties.AgreeBut.names?_eq (h : p.AgreeBut names q) (hn : name ∉ names) :
    p.names? name = q.names? name := by
  rw [Properties.names?, Properties.names?, h name hn]

theorem Properties.AgreeBut.flag_eq (h : p.AgreeBut names q) (hn : name ∉ names) :
    p.flag name = q.flag name := by
  rw [Properties.flag, Properties.flag, h name hn]

end Agreement

theorem first?_congr {α : Type} (read : Value → Option α) {names : List String}
    (h : ∀ name ∈ names, p.get? name = q.get? name) :
    p.first? (fun p name => (p.get? name).bind read) names =
      q.first? (fun p name => (p.get? name).bind read) names := by
  unfold Properties.first?
  induction names with
  | nil => rfl
  | cons name rest ih =>
    obtain ⟨hname, hrest⟩ := List.forall_mem_cons.1 h
    rw [List.findSome?_cons, List.findSome?_cons, ih hrest]
    dsimp only
    rw [hname]

theorem first?_pair {α : Type} (read : Properties → String → Option α) (name name' : String) :
    p.first? read [name, name'] = (read p name).or (read p name') := by
  unfold Properties.first?
  rw [List.findSome?_cons, List.findSome?_cons, List.findSome?_nil]
  cases read p name with
  | some _ => rfl
  | none => cases read p name' <;> rfl

/-- The names under which there may be names in a list or with commas. -/
def listNames : List String := ["values", "levels", "natural_key", "ancestors", "view_of"]

/-- The names of all properties of which nothing but names or a truth value is read. -/
def readNames : List String := listNames ++ ["external_id", "supports_external_id"]

/-- Properties of which the same is read. -/
structure ReadAlike (p q : Properties) : Prop where
  agree : p.AgreeBut readNames q
  values : p.names? "values" = q.names? "values"
  levels : p.names? "levels" = q.names? "levels"
  naturalKey : p.names? "natural_key" = q.names? "natural_key"
  ancestors : p.first? Properties.names? ["ancestors", "view_of"] =
    q.first? Properties.names? ["ancestors", "view_of"]
  externalId : (p.flag "external_id" || p.flag "supports_external_id") =
    (q.flag "external_id" || q.flag "supports_external_id")

/-- Other kinds than components do not look at fields. -/
theorem formOf_congr {kind : Kind} (hk : kind.isComponent = false)
    (get : p.AgreeBut ("fields" :: readNames) q) (hvalues : p.names? "values" = q.names? "values")
    (hlevels : p.names? "levels" = q.names? "levels") : formOf kind p = formOf kind q := by
  have bounds : ∀ {α : Type} (read : Value → Option α) (parse : List Char → Option α),
      boundsOf read parse p = boundsOf read parse q := by
    intro α read parse
    unfold boundsOf
    rw [get "min" (by decide), get "max" (by decide), get "lower" (by decide),
      get "upper" (by decide), get.text?_eq (by decide)]
  have texts : ∀ names : List String, (∀ name ∈ names, name ∉ "fields" :: readNames) →
      p.first? Properties.text? names = q.first? Properties.text? names :=
    fun names hnames => first?_congr Value.text? fun name hm => get name (hnames name hm)
  have integers : ∀ names : List String, (∀ name ∈ names, name ∉ "fields" :: readNames) →
      p.first? Properties.integer? names = q.first? Properties.integer? names :=
    fun names hnames => first?_congr Value.integer? fun name hm => get name (hnames name hm)
  cases kind with
  | decimal =>
    rw [formOf, formOf, decimalForm, decimalForm, integers _ (by decide), integers _ (by decide)]
  | integerRange => rw [formOf, formOf, bounds]
  | realRange => rw [formOf, formOf, bounds]
  | stringPattern =>
    rw [formOf, formOf, patternForm, patternForm, texts _ (by decide), get "max_length" (by decide)]
  | dateRange =>
    rw [formOf, formOf, dateForm, dateForm, texts _ (by decide), texts _ (by decide)]
  | timeRange =>
    rw [formOf, formOf, timeForm, timeForm, texts _ (by decide), texts _ (by decide)]
  | enumeration =>
    rw [formOf, formOf, enumerationForm, enumerationForm, hvalues, get.flag_eq (by decide)]
  | hierarchy =>
    rw [formOf, formOf, hierarchyForm, hierarchyForm, hlevels, get.flag_eq (by decide),
      get "labels" (by decide)]
  | _ => cases hk

/-- The form depends on what is read only. -/
theorem ReadAlike.formOf_eq (h : ReadAlike p q) (kind : Kind) : formOf kind p = formOf kind q := by
  cases hk : kind.isComponent with
  | false =>
    exact formOf_congr hk (fun name hm => h.agree name fun hr => hm (List.mem_cons_of_mem _ hr))
      h.values h.levels
  | true =>
    rw [formOf_of_isComponent hk, formOf_of_isComponent hk]
    unfold componentForm naturalKeyOf flaggedKeys Properties.nodes
    rw [h.agree "fields" (by decide), h.naturalKey, h.ancestors, h.externalId]

/-- A list of names and a text of them with commas are read alike, wherever names are read. -/
theorem readAlike_of_names {property : String} (hproperty : property ∈ listNames)
    (h : p.AgreeBut [property] q) (hp : p.names? property = q.names? property) :
    ReadAlike p q := by
  have hne : ∀ name ∉ listNames, name ∉ [property] := by
    rintro name hname hm
    exact hname (List.mem_singleton.1 hm ▸ hproperty)
  have hnames : ∀ name, p.names? name = q.names? name := by
    intro name
    by_cases hname : name = property
    · rw [hname, hp]
    · exact h.names?_eq (by simpa using hname)
  refine ⟨fun name hname => h name (hne name ?_), hnames _, hnames _, hnames _, ?_, ?_⟩
  · exact fun hm => hname (List.mem_append_left _ hm)
  · rw [first?_pair, first?_pair, hnames, hnames]
  · rw [h.flag_eq (hne _ (by decide)), h.flag_eq (hne _ (by decide))]

theorem names?_of_list {names : List String} {property : String}
    (h : p.get? property = some (.list (names.map .text))) : p.names? property = some names := by
  rw [Properties.names?, h, Option.bind_some, Value.names?]
  clear h
  induction names with
  | nil => rfl
  | cons name rest ih =>
    rw [List.map_cons, List.mapM_cons, ih]
    rfl

theorem names?_of_commaText {names : List String} {property text : String}
    (hn : ∀ name ∈ names, PlainName name) (ht : CommaText names text)
    (h : p.get? property = some (.text text)) : p.names? property = some names := by
  rw [Properties.names?, h, Option.bind_some, Value.names?, commaParts_eq hn ht]

/-- The names of the component that a view conforms to may stand under either name. -/
theorem readAlike_of_viewOf (h : p.AgreeBut ["ancestors", "view_of"] q)
    (hp : p.get? "view_of" = none) (hq : q.get? "ancestors" = none)
    (hsame : p.get? "ancestors" = q.get? "view_of") : ReadAlike p q := by
  refine ⟨fun name hname => h name ?_, h.names?_eq (by decide), h.names?_eq (by decide),
    h.names?_eq (by decide), ?_, ?_⟩
  · exact fun hm => hname ((by decide : ["ancestors", "view_of"] ⊆ readNames) hm)
  · rw [first?_pair, first?_pair, Properties.names?, Properties.names?, Properties.names?,
      Properties.names?, hp, hq, hsame, Option.bind_none, Option.or_none, Option.none_or]
  · rw [h.flag_eq (by decide), h.flag_eq (by decide)]

/-- So may the flag for external ids. -/
theorem readAlike_of_externalId (h : p.AgreeBut ["external_id", "supports_external_id"] q)
    (hp : p.get? "supports_external_id" = none) (hq : q.get? "external_id" = none)
    (hsame : p.get? "external_id" = q.get? "supports_external_id") : ReadAlike p q := by
  refine ⟨fun name hname => h name ?_, h.names?_eq (by decide), h.names?_eq (by decide),
    h.names?_eq (by decide), ?_, ?_⟩
  · exact fun hm => hname ((by decide : ["external_id", "supports_external_id"] ⊆ readNames) hm)
  · rw [first?_pair, first?_pair, h.names?_eq (by decide), h.names?_eq (by decide)]
  · simp [Properties.flag, hp, hq, hsame]

end Properties

end Cardfile
