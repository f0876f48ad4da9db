import Cardfile.Analysis.Analyzer
import Cardfile.Proofs.Collections
import Cardfile.Search.Relevance
import Mathlib.Data.List.Induction

/-! # Words and their terms

Analysis goes word by word. A word has terms of its own, whatever the text around it and whether the
text is a record or a query, and a query has one group for each of its words that has any.
-/

namespace Cardfile

/-- Steps that treat each member alone treat a list member by member. -/
theorem foldl_flatMap {α ι : Type} (f : ι → α → List α) (steps : List ι) (xs : List α) :
    steps.foldl (fun xs i => xs.flatMap (f i)) xs =
      xs.flatMap fun x => steps.foldl (fun xs i => xs.flatMap (f i)) [x] := by
  induction steps generalizing xs with
  | nil => exact (List.flatMap_singleton' xs).symm
  | cons i rest ih =>
    have hone : ∀ x, (i :: rest).foldl (fun xs i => xs.flatMap (f i)) [x] =
        (f i x).flatMap fun y => rest.foldl (fun xs i => xs.flatMap (f i)) [y] := by
      intro x
      rw [← ih, List.foldl_cons, List.flatMap_singleton]
    simp only [hone]
    rw [List.foldl_cons, ih, List.flatMap_assoc]

theorem OrderedSet.isEmpty_ofList {xs : List String} :
    (OrderedSet.ofList xs).isEmpty = true ↔ xs = [] := by
  rw [isEmpty, List.isEmpty_iff, List.eq_nil_iff_forall_not_mem, List.eq_nil_iff_forall_not_mem]
  simp only [mem_ofList]

namespace Stage

variable {s : Stage} {t u : Token}

/-- What a stage makes of the text of a token. -/
def texts : Stage → String → List String
  | lowercase, x => [Text.lowercase x]
  | synonyms table, x => ((table.get? x).getD []).filter (· ≠ x) ++ [x]
  | stopWords words, x => if x ∈ words then [] else [x]
  | stemmer stem, x => [stem x]

theorem map_text_expand (s : Stage) (t : Token) :
    (s.expand t).map Token.text = s.texts t.text := by
  cases s with
  | lowercase => rfl
  | synonyms table =>
    simp only [expand, texts, List.map_append, List.map_map, Function.comp_def, Token.expansion,
      List.map_id', List.map_cons, List.map_nil]
  | stopWords words =>
    simp only [expand, texts]
    split <;> rfl
  | stemmer stem => rfl

theorem position_of_mem_expand (h : u ∈ s.expand t) : u.position = t.position := by
  cases s with
  | lowercase => rw [List.mem_singleton.1 h, Token.withText]
  | synonyms table =>
    rcases List.mem_append.1 h with h | h
    · obtain ⟨x, -, rfl⟩ := List.mem_map.1 h
      rfl
    · rw [List.mem_singleton.1 h]
  | stopWords words =>
    simp only [expand] at h
    split at h
    · cases h
    · rw [List.mem_singleton.1 h]
  | stemmer stem => rw [List.mem_singleton.1 h, Token.withText]

end Stage

namespace Analyzer

variable {a : Analyzer} {stages : List Stage} {t u : Token} {ts : List Token} {p k : Nat}

/-- The tokens that the stages make of some tokens. -/
def run (stages : List Stage) (ts : List Token) : List Token :=
  stages.foldl (fun ts s => s.apply ts) ts

/-- The texts that the stages make of some texts. -/
def spread (stages : List Stage) (xs : List String) : List String :=
  stages.foldl (fun xs s => xs.flatMap s.texts) xs

/-- The words of a text that are not too long, in text order. -/
def shortWords (a : Analyzer) (text : String) : List String :=
  ((a.words text).filter fun w => w.2.utf8ByteSize ≤ a.maxLength).map Prod.snd

/-- The terms that a word stands for. -/
def termsOf (a : Analyzer) (word : String) : TermSet := .ofList (spread a.stages [word])

/-- The terms of some words, a group for each word that has any. -/
def groupsOf (a : Analyzer) (words : List String) : List TermSet :=
  (words.map a.termsOf).filter (!·.isEmpty)

section Stages

theorem run_eq_flatMap (stages : List Stage) (ts : List Token) :
    run stages ts = ts.flatMap fun t => run stages [t] :=
  foldl_flatMap Stage.expand stages ts

theorem spread_eq_flatMap (stages : List Stage) (xs : List String) :
    spread stages xs = xs.flatMap fun x => spread stages [x] :=
  foldl_flatMap Stage.texts stages xs

theorem map_text_run (stages : List Stage) (ts : List Token) :
    (run stages ts).map Token.text = spread stages (ts.map Token.text) := by
  induction stages generalizing ts with
  | nil => rfl
  | cons s rest ih =>
    have hstep : (s.apply ts).map Token.text = (ts.map Token.text).flatMap s.texts := by
      simp only [Stage.apply, List.map_flatMap, List.flatMap_map, Stage.map_text_expand]
    calc (run (s :: rest) ts).map Token.text
        = spread rest ((s.apply ts).map Token.text) := ih (s.apply ts)
      _ = spread (s :: rest) (ts.map Token.text) := by rw [hstep]; rfl

/-- A token keeps the place of its word. -/
theorem exists_of_mem_run (h : u ∈ run stages ts) : ∃ t ∈ ts, u.position = t.position := by
  induction stages generalizing ts with
  | nil => exact ⟨u, h, rfl⟩
  | cons s rest ih =>
    obtain ⟨v, hv, hp⟩ := ih h
    obtain ⟨t, ht, hvt⟩ := List.mem_flatMap.1 hv
    exact ⟨t, ht, hp.trans (Stage.position_of_mem_expand hvt)⟩

/-- Whatever the stages do, tokens stay in the order of their words. -/
theorem pairwise_run (stages : List Stage) (hts : ts.Pairwise (·.position ≤ ·.position)) :
    (run stages ts).Pairwise (·.position ≤ ·.position) := by
  induction stages generalizing ts with
  | nil => exact hts
  | cons s rest ih =>
    refine ih (List.pairwise_flatMap.2 ⟨fun t _ => ?_, hts.imp fun hle u hu v hv => ?_⟩)
    · refine List.pairwise_of_forall_mem_list fun u hu v hv => ?_
      exact Nat.le_of_eq ((Stage.position_of_mem_expand hu).trans
        (Stage.position_of_mem_expand hv).symm)
    · rwa [Stage.position_of_mem_expand hu, Stage.position_of_mem_expand hv]

end Stages

section Groups

theorem position_of_mem_groups {g : TermSet} (h : (p, g) ∈ groups ts) :
    ∃ t ∈ ts, t.position = p := by
  induction ts generalizing g with
  | nil => cases h
  | cons t ts ih =>
    have later : ∀ g, (p, g) ∈ groups ts → ∃ u ∈ t :: ts, u.position = p := by
      intro g hg
      obtain ⟨u, hu, hp⟩ := ih hg
      exact ⟨u, List.mem_cons_of_mem _ hu, hp⟩
    simp only [groups] at h
    split at h
    · cases List.mem_singleton.1 h
      exact ⟨t, List.mem_cons_self, rfl⟩
    · next q first rest hrest =>
      split at h
      · next hq =>
        rcases List.mem_cons.1 h with he | hm
        · cases he
          exact ⟨t, List.mem_cons_self, hq.symm⟩
        · exact later g (hrest ▸ List.mem_cons_of_mem _ hm)
      · rcases List.mem_cons.1 h with he | hm
        · cases he
          exact ⟨t, List.mem_cons_self, rfl⟩
        · exact later g (hrest ▸ hm)

/-- A token at the end goes to the group of its position, which is the last one or a new one. -/
theorem groups_append_singleton (hts : ts.Pairwise (·.position ≤ ·.position))
    (hlast : ∀ u ∈ ts, u.position ≤ t.position) : groups (ts ++ [t]) = enter t (groups ts) := by
  have swapped : ∀ (g : TermSet) (x y : String), (g.insert x).insert y = (g.insert y).insert x := by
    intro g x y
    refine OrderedSet.eq_of_mem_iff fun z => ?_
    simp only [OrderedSet.mem_insert]
    exact or_left_comm
  induction ts with
  | nil => rfl
  | cons u us ih =>
    obtain ⟨hfirst, hrest⟩ := List.pairwise_cons.1 hts
    have hut : u.position ≤ t.position := hlast u List.mem_cons_self
    rw [List.cons_append, groups, groups,
      ih hrest fun v hv => hlast v (List.mem_cons_of_mem _ hv)]
    cases hg : groups us with
    | nil =>
      by_cases hp : t.position = u.position
      · have hpair : (OrderedSet.ofList [t.text]).insert u.text =
            (OrderedSet.ofList [u.text]).insert t.text := swapped ⟨[], .nil⟩ _ _
        simp [enter, hp, hpair]
      · simp [enter, hp, Ne.symm hp, Nat.not_lt_of_le hut]
    | cons first rest =>
      obtain ⟨p, g⟩ := first
      obtain ⟨v, hv, hvp⟩ := position_of_mem_groups (hg ▸ List.mem_cons_self)
      have hup : u.position ≤ p := hvp ▸ hfirst v hv
      have hpt : p ≤ t.position := hvp ▸ hlast v (List.mem_cons_of_mem _ hv)
      by_cases hp : p = t.position
      · by_cases hu : p = u.position
        · simp [enter, ← hp, ← hu, swapped]
        · simp [enter, ← hp, hu, Ne.symm hu, Nat.not_lt_of_le hup]
      · have hu : u.position ≠ t.position := fun he => hp (Nat.le_antisymm hpt (he ▸ hup))
        by_cases hpu : p = u.position
        · simp [enter, hpu, hu, Nat.not_lt_of_le hut]
        · simp [enter, hp, hu, hpu, Nat.not_lt_of_le hut, Nat.not_lt_of_le hpt]

/-- Tokens in text order are grouped alike by their neighbours and by their positions. -/
theorem byPosition_eq_groups (hts : ts.Pairwise (·.position ≤ ·.position)) :
    byPosition ts = groups ts := by
  unfold byPosition
  induction ts using List.reverseRecOn with
  | nil => rfl
  | append_singleton ts t ih =>
    obtain ⟨hbefore, -, hlast⟩ := List.pairwise_append.1 hts
    rw [List.foldl_append, ih hbefore, List.foldl_cons, List.foldl_nil,
      groups_append_singleton hbefore fun u hu => hlast u hu t List.mem_cons_self]

/-- Tokens of one place, with none of that place after them, are one group. -/
theorem groups_append {us : List Token} (hne : ts ≠ []) (hts : ∀ t ∈ ts, t.position = p)
    (hus : ∀ u ∈ us, u.position ≠ p) :
    groups (ts ++ us) = (p, .ofList (ts.map Token.text)) :: groups us := by
  induction ts with
  | nil => exact absurd rfl hne
  | cons t ts ih =>
    obtain ⟨hp, hts⟩ := List.forall_mem_cons.1 hts
    cases ts with
    | nil =>
      simp only [List.cons_append, List.nil_append, groups, hp]
      split
      · next hnone => rw [hnone]; rfl
      · next q g rest hrest =>
        have hq : q ≠ p := by
          obtain ⟨u, hu, rfl⟩ := position_of_mem_groups (hrest ▸ List.mem_cons_self)
          exact hus u hu
        rw [if_neg hq, hrest]
        rfl
    | cons next more =>
      have hgroup : (OrderedSet.ofList ((next :: more).map Token.text)).insert t.text =
          .ofList ((t :: next :: more).map Token.text) := by
        refine OrderedSet.eq_of_mem_iff fun x => ?_
        rw [OrderedSet.mem_insert, OrderedSet.mem_ofList, OrderedSet.mem_ofList]
        exact List.mem_cons.symm
      rw [List.cons_append, groups, ih (List.cons_ne_nil _ _) hts]
      simp only [hp, if_true, hgroup]

/-- Of words numbered from `k` on, each gives a group if the stages leave anything of it. -/
theorem groups_run (stages : List Stage) (words : List (Nat × String)) (k : Nat) :
    (groups (run stages ((words.zipIdx k).map fun w => ⟨w.1.2, w.2, w.1.1, .word⟩))).map Prod.snd =
      (words.map fun w => OrderedSet.ofList (spread stages [w.2])).filter (!·.isEmpty) := by
  induction words generalizing k with
  | nil =>
    rw [run_eq_flatMap]
    rfl
  | cons w words ih =>
    -- the tokens of the first word have its position, which no later word has
    specialize ih (k + 1)
    generalize hlater : (words.zipIdx (k + 1)).map (fun w => Token.mk w.1.2 w.2 w.1.1 .word) =
      later at ih
    have hsplit : run stages (((w :: words).zipIdx k).map fun w => ⟨w.1.2, w.2, w.1.1, .word⟩) =
        run stages [⟨w.2, k, w.1, .word⟩] ++ run stages later := by
      rw [List.zipIdx_cons, List.map_cons, hlater, run_eq_flatMap, List.flatMap_cons,
        ← run_eq_flatMap]
    have hfirst : ∀ t ∈ run stages [⟨w.2, k, w.1, .word⟩], t.position = k := by
      intro t ht
      obtain ⟨v, hv, hp⟩ := exists_of_mem_run ht
      rw [hp, List.mem_singleton.1 hv]
    have hrest : ∀ t ∈ run stages later, t.position ≠ k := by
      intro t ht
      obtain ⟨v, hv, hp⟩ := exists_of_mem_run ht
      rw [← hlater] at hv
      obtain ⟨x, hx, rfl⟩ := List.mem_map.1 hv
      have hle := List.le_snd_of_mem_zipIdx hx
      rw [hp]
      exact Nat.ne_of_gt hle
    have htexts := map_text_run stages [⟨w.2, k, w.1, .word⟩]
    rw [hsplit, List.map_cons]
    by_cases hnone : run stages [⟨w.2, k, w.1, .word⟩] = []
    · have hempty : spread stages [w.2] = [] := by
        rw [hnone] at htexts
        exact htexts.symm
      rw [hnone, List.nil_append, ih, List.filter_cons_of_neg]
      simpa using OrderedSet.isEmpty_ofList.2 hempty
    · have hsome : spread stages [w.2] ≠ [] :=
        fun he => hnone (List.map_eq_nil_iff.1 (htexts.trans he))
      rw [groups_append hnone hfirst hrest, List.map_cons, ih, htexts, List.map_cons,
        List.filter_cons_of_pos]
      · rfl
      · simpa using mt OrderedSet.isEmpty_ofList.1 hsome

end Groups

section Words

variable {text query term word : String}

theorem tokens_eq_run (a : Analyzer) (text : String) :
    a.tokens text = run a.stages (Token.ofWords a.maxLength (a.words text)) := rfl

theorem map_text_ofWords (a : Analyzer) (text : String) :
    (Token.ofWords a.maxLength (a.words text)).map Token.text = a.shortWords text := by
  unfold Token.ofWords shortWords
  generalize (a.words text).filter _ = words
  rw [List.map_map]
  calc words.zipIdx.map (fun w => w.1.2)
      = (words.zipIdx.map Prod.fst).map Prod.snd := by rw [List.map_map]; rfl
    _ = words.map Prod.snd := by rw [List.zipIdx_map_fst]

/-- The terms of a text are those of its words. -/
theorem mem_terms : term ∈ (a.terms text).toList ↔
    ∃ word ∈ a.shortWords text, term ∈ (a.termsOf word).toList := by
  rw [terms, OrderedSet.mem_ofList, tokens_eq_run, map_text_run, map_text_ofWords,
    spread_eq_flatMap, List.mem_flatMap]
  simp only [termsOf, OrderedSet.mem_ofList]

theorem pairwise_tokens (a : Analyzer) (text : String) :
    (a.tokens text).Pairwise (·.position ≤ ·.position) := by
  refine pairwise_run a.stages (List.pairwise_map.2 ?_)
  generalize (a.words text).filter _ = words
  have hplaces : (words.zipIdx.map Prod.snd).Pairwise (· < ·) := by
    rw [List.zipIdx_map_snd]
    exact List.pairwise_lt_range'
  exact (List.pairwise_map.1 hplaces).imp Nat.le_of_lt

/-- The groups of a query are those of the positions of its tokens. -/
theorem queryGroups_eq_byPosition (a : Analyzer) (query : String) :
    a.queryGroups query = (byPosition (a.tokens query)).map Prod.snd := by
  rw [byPosition_eq_groups (a.pairwise_tokens query)]
  rfl

theorem queryGroups_eq (a : Analyzer) (query : String) :
    a.queryGroups query = a.groupsOf (a.shortWords query) := by
  rw [queryGroups, tokens_eq_run, Token.ofWords, groups_run, groupsOf, shortWords, List.map_map]
  rfl

/-- How many words of a query a text has, itself or by an expansion. -/
theorem matched_eq (a : Analyzer) (query text : String) :
    Scorer.matched (a.queryGroups query) (a.terms text) =
      (a.shortWords query).countP fun word =>
        (a.shortWords text).any fun other => (a.termsOf word).meets (a.termsOf other) := by
  rw [Scorer.matched, queryGroups_eq, groupsOf, List.countP_filter, List.countP_map]
  refine List.countP_congr fun word _ => ?_
  simp only [Function.comp_apply, Bool.and_eq_true, List.any_eq_true, OrderedSet.meets_iff,
    mem_terms]
  constructor
  · rintro ⟨⟨term, hterm, other, ho, hm⟩, -⟩
    exact ⟨other, ho, term, hterm, hm⟩
  · rintro ⟨other, ho, term, hterm, hm⟩
    refine ⟨⟨term, hterm, other, ho, hm⟩, ?_⟩
    rw [Bool.not_eq_true', OrderedSet.isEmpty, List.isEmpty_eq_false_iff]
    exact List.ne_nil_of_mem hterm

end Words

section Parts

variable {words : String → List (Nat × String)} {stem : Option (String → String)}
  {stopWords : List String} {table : Synonyms} {maxLength : Nat} {word term : String}
  {xs : List String}

theorem spread_append (first second : List Stage) (xs : List String) :
    spread (first ++ second) xs = spread second (spread first xs) :=
  List.foldl_append

theorem spread_singleton (s : Stage) (xs : List String) : spread [s] xs = xs.flatMap s.texts := rfl

theorem mem_spread_synonyms :
    term ∈ spread (if table.isEmpty then [] else [.synonyms table.lowercase]) xs ↔
      ∃ x ∈ xs, term = x ∨ term ∈ (table.lowercase.get? x).getD [] := by
  split
  · next hempty =>
    have hnone : ∀ x, table.lowercase.get? x = none := by
      intro x
      rw [Synonyms.lowercase, List.isEmpty_iff.1 hempty]
      rfl
    simp [spread, hnone]
  · simp only [spread_singleton, List.mem_flatMap, Stage.texts, List.mem_append, List.mem_filter,
      List.mem_singleton, decide_eq_true_eq]
    refine exists_congr fun x => and_congr_right fun _ => ?_
    by_cases hx : term = x <;> simp [hx]

theorem mem_spread_stopWords :
    term ∈ spread (if stopWords.isEmpty then [] else [.stopWords (stopWords.map Text.lowercase)])
      xs ↔ term ∈ xs ∧ term ∉ stopWords.map Text.lowercase := by
  split
  · next hempty => simp [List.isEmpty_iff.1 hempty, spread]
  · simp only [spread_singleton, List.mem_flatMap, Stage.texts]
    constructor
    · rintro ⟨x, hx, hm⟩
      split at hm
      · cases hm
      · next hstop =>
        obtain rfl := List.mem_singleton.1 hm
        exact ⟨hx, hstop⟩
    · rintro ⟨hx, hstop⟩
      exact ⟨term, hx, by rw [if_neg hstop]; exact List.mem_singleton_self _⟩

theorem mem_spread_stemmer :
    term ∈ spread (match stem with
      | none => []
      | some stem => [.stemmer stem]) xs ↔ ∃ x ∈ xs, term = stem.getD id x := by
  cases stem with
  | none => simp [spread]
  | some stem => simp [spread_singleton, Stage.texts]

/-- A word stands for itself and its expansions, in lowercase, without stop words, stemmed if there
is a stemmer. -/
theorem mem_termsOf_ofParts :
    term ∈ ((ofParts words stem stopWords table maxLength).termsOf word).toList ↔
      ∃ x, (x = Text.lowercase word ∨ x ∈ (table.lowercase.get? (Text.lowercase word)).getD []) ∧
        x ∉ stopWords.map Text.lowercase ∧ term = stem.getD id x := by
  unfold termsOf ofParts
  rw [OrderedSet.mem_ofList, spread_append, spread_append, spread_append]
  refine mem_spread_stemmer.trans ?_
  simp only [mem_spread_stopWords, mem_spread_synonyms, spread_singleton, Stage.texts,
    List.flatMap_singleton, List.mem_singleton, exists_eq_left, and_assoc]

/-- The analyzer for some settings, with any way to cut texts into words and any stemmer. -/
def Settings.analyzer (s : Settings) (words : String → List (Nat × String))
    (stem : String → String) : Analyzer :=
  ofParts words (s.stemming.map fun _ => stem) s.stopWords s.synonyms s.maxLength

/-- Accepted settings have an analyzer of this form. -/
theorem exists_stem_of_ofSettings {s : Settings} {a : Analyzer} (h : ofSettings s = .ok a) :
    ∃ stem, a = s.analyzer Text.words stem := by
  unfold ofSettings stemOf at h
  cases hs : s.stemming with
  | none =>
    rw [hs] at h
    cases h
    exact ⟨id, by rw [Settings.analyzer, hs]; rfl⟩
  | some name =>
    rw [hs] at h
    dsimp only at h
    split at h
    · next language _ =>
      cases h
      exact ⟨language.stem, by rw [Settings.analyzer, hs]; rfl⟩
    · cases h

/-- One function from words to terms is behind records and queries, whatever the settings that are
accepted. What a text says, up to case, is found by every query that has the same word. -/
theorem analysed_alike (s : Settings) (words : String → List (Nat × String))
    (stem : String → String) :
    let a := s.analyzer words stem
    (∀ b, ofSettings s = .ok b → ∃ stem', b = s.analyzer Text.words stem') ∧
    ∃ exp : String → TermSet,
      (∀ word term, term ∈ (exp word).toList ↔ ∃ x,
        (x = Text.lowercase word ∨
          x ∈ (s.synonyms.lowercase.get? (Text.lowercase word)).getD []) ∧
        x ∉ s.stopWords.map Text.lowercase ∧ term = if s.stemming.isSome then stem x else x) ∧
      (∀ text term, term ∈ (a.terms text).toList ↔
        ∃ word ∈ a.shortWords text, term ∈ (exp word).toList) ∧
      (∀ query, a.queryGroups query = ((a.shortWords query).map exp).filter (!·.isEmpty)) ∧
      (∀ query text, Scorer.matched (a.queryGroups query) (a.terms text) =
        (a.shortWords query).countP fun word =>
          (a.shortWords text).any fun other => (exp word).meets (exp other)) ∧
      ∀ query text, ∀ word ∈ a.shortWords query, ∀ other ∈ a.shortWords text,
        Text.lowercase word = Text.lowercase other → (exp other).isEmpty = false →
        ∀ rating, ∃ n > 0,
          Scorer.score ⟨false⟩ (a.queryGroups query) (a.terms text) rating = some ⟨n, rating⟩ := by
  intro a
  have hexp : ∀ word term, term ∈ (a.termsOf word).toList ↔ ∃ x,
      (x = Text.lowercase word ∨
        x ∈ (s.synonyms.lowercase.get? (Text.lowercase word)).getD []) ∧
      x ∉ s.stopWords.map Text.lowercase ∧ term = if s.stemming.isSome then stem x else x := by
    intro word term
    refine mem_termsOf_ofParts.trans ?_
    cases s.stemming <;> rfl
  refine ⟨fun _ => exists_stem_of_ofSettings, a.termsOf, hexp, fun _ _ => mem_terms,
    a.queryGroups_eq, a.matched_eq, ?_⟩
  intro query text word hw other ho hcase hsome rating
  have hsame : a.termsOf word = a.termsOf other :=
    OrderedSet.eq_of_mem_iff fun term => by rw [hexp, hexp, hcase]
  have hmeets : (a.termsOf word).meets (a.termsOf other) = true := by
    obtain ⟨term, hterm⟩ := List.exists_mem_of_ne_nil _ (List.isEmpty_eq_false_iff.1 hsome)
    exact OrderedSet.meets_iff.2 ⟨term, hsame ▸ hterm, hterm⟩
  have hpos : 0 < Scorer.matched (a.queryGroups query) (a.terms text) := by
    rw [a.matched_eq, List.countP_pos_iff]
    exact ⟨word, hw, List.any_eq_true.2 ⟨other, ho, hmeets⟩⟩
  refine ⟨_, hpos, ?_⟩
  simp [Scorer.score, Nat.ne_of_gt hpos]

end Parts

end Analyzer

end Cardfile
