import Cardfile.Proofs.WordTerms

/-! # Expansions that take effect

The table of synonyms is turned into one with keys in lowercase. A key that no other key equals up
to case keeps its expansions, and each of them that is no stop word goes with every word that is the
key up to case. Of keys that do fall together only one keeps them.
-/

namespace Cardfile

namespace Dict

variable {κ ν : Type} [DecidableEq κ] {k : κ} {v : ν} {l : List (κ × ν)}

/-- A key has the value that all of its entries give it. -/
theorem get?_foldl_insert {d : Dict κ ν} (hall : ∀ e ∈ l, e.1 = k → e.2 = v)
    (hsome : d.get? k = some v ∨ (k, v) ∈ l) :
    (l.foldl (fun d e => d.insert e.1 e.2) d).get? k = some v := by
  induction l generalizing d with
  | nil => exact hsome.resolve_right (List.not_mem_nil)
  | cons e rest ih =>
    obtain ⟨he, hrest⟩ := List.forall_mem_cons.1 hall
    rw [List.foldl_cons]
    by_cases hk : e.1 = k
    · exact ih hrest (.inl (by rw [get?_insert, if_pos hk, he hk]))
    · refine ih hrest (hsome.imp (fun hd => ?_) fun hm => ?_)
      · rw [get?_insert, if_neg hk, hd]
      · refine (List.mem_cons.1 hm).resolve_left ?_
        rintro rfl
        exact hk rfl

end Dict

variable {table : Synonyms} {key word expansion : String} {expansions : List String}

theorem Synonyms.get?_lowercase (hk : table.get? key = some expansions)
    (hone : ∀ other ∈ table.keys, Text.lowercase other = Text.lowercase key → other = key) :
    table.lowercase.get? (Text.lowercase key) = some (expansions.map Text.lowercase) := by
  refine Dict.get?_foldl_insert (fun e he hsame => ?_) (.inr ?_)
  · obtain ⟨⟨other, listed⟩, hm, rfl⟩ := List.mem_map.1 he
    obtain rfl := hone other (List.mem_map_of_mem hm) hsame
    have hlisted := Dict.mem_entries_iff.1 hm
    rw [hk] at hlisted
    cases hlisted
    rfl
  · exact List.mem_map.2 ⟨(key, expansions), Dict.mem_entries_iff.2 hk, rfl⟩

namespace Analyzer

/-- A word brings a term into every text, and into the group that it has in every query. -/
structure Yields (a : Analyzer) (word term : String) : Prop where
  terms : ∀ text, word ∈ a.shortWords text → term ∈ (a.terms text).toList
  group : ∀ query before after, a.shortWords query = before ++ word :: after → ∃ group,
    a.queryGroups query = a.groupsOf before ++ group :: a.groupsOf after ∧ term ∈ group.toList

theorem yields_of_mem {a : Analyzer} {term : String} (h : term ∈ (a.termsOf word).toList) :
    a.Yields word term where
  terms text hw := mem_terms.2 ⟨word, hw, h⟩
  group query before after hq := by
    have hsome : (!(a.termsOf word).isEmpty) = true := by
      rw [Bool.not_eq_true', OrderedSet.isEmpty, List.isEmpty_eq_false_iff]
      exact List.ne_nil_of_mem h
    refine ⟨a.termsOf word, ?_, h⟩
    rw [queryGroups_eq, hq]
    simp only [groupsOf, List.map_append, List.map_cons, List.filter_append]
    rw [List.filter_cons_of_pos]
    exact hsome

/-- A listed expansion takes effect if no other key is the same up to case. -/
theorem synonym_yields (words : String → List (Nat × String)) (stopWords : List String)
    (maxLength : Nat) (hk : table.get? key = some expansions)
    (hone : ∀ other ∈ table.keys, Text.lowercase other = Text.lowercase key → other = key)
    (hw : Text.lowercase word = Text.lowercase key) (he : expansion ∈ expansions)
    (hs : Text.lowercase expansion ∉ stopWords.map Text.lowercase) :
    (ofParts words none stopWords table maxLength).Yields word (Text.lowercase expansion) := by
  refine yields_of_mem (mem_termsOf_ofParts.2 ⟨Text.lowercase expansion, .inr ?_, hs, rfl⟩)
  rw [hw, Synonyms.get?_lowercase hk hone]
  exact List.mem_map_of_mem he

theorem synonym_yields_auto :
    let table : Synonyms := .ofList [("Car", ["Auto", "car"]), ("van", ["bus"])]
    (ofParts Text.words none ["the"] table 255).Yields "CAR" "auto" := by
  intro table
  have hk : table.get? "Car" = some ["Auto", "car"] := rfl
  have hlower : Text.lowercase "Auto" = "auto" := by decide +kernel
  have hone : ∀ other ∈ table.keys, Text.lowercase other = Text.lowercase "Car" →
      other = "Car" := by decide +kernel
  have hword : Text.lowercase "CAR" = Text.lowercase "Car" := by decide +kernel
  have hstop : Text.lowercase "Auto" ∉ ["the"].map Text.lowercase := by decide +kernel
  have h := synonym_yields Text.words ["the"] 255 hk hone hword List.mem_cons_self hstop
  rwa [hlower] at h

/-- Of two keys that differ in case only one loses its expansions, whichever is looked at last. -/
theorem synonyms_fall_together :
    let car := ("Car", ["auto"])
    let car' := ("car", ["automobile"])
    ∀ table ∈ [Dict.ofList [car, car'], .ofList [car', car]], ∃ key expansions expansion,
      table.get? key = some expansions ∧ expansion ∈ expansions ∧
        Text.lowercase "car" = Text.lowercase key ∧
        let a := ofParts Text.words none [] table 255
        "car" ∈ a.shortWords "car" ∧ Text.lowercase expansion ∉ (a.terms "car").toList ∧
          Scorer.matched (a.queryGroups "auto automobile") (a.terms "car") = 1 := by
  intro car car' table ht
  rcases List.mem_pair.1 ht with rfl | rfl
  · refine ⟨"Car", ["auto"], "auto", ?_⟩
    decide +kernel
  · refine ⟨"car", ["automobile"], "automobile", ?_⟩
    decide +kernel

end Analyzer

end Cardfile
