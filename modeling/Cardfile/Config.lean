import Cardfile.Analysis.Synonyms
import Cardfile.Error
import Cardfile.Isolation
import Cardfile.Json.Reading

/-! # Configuration

The settings for reading models and for indexing records. Each may be left out of a file, which
then has its usual value.
-/

namespace Cardfile

structure Config where
  ruleBase : String
  strictReferences : Bool
  failOnNonFinalized : Bool
  isolation : Isolation
  lockTimeout : Nat
  stopWords : List String
  synonyms : Synonyms
  stemming : Option String
  maxTokenLength : Nat

namespace Config

def usual : Config where
  ruleBase := "default"
  strictReferences := false
  failOnNonFinalized := false
  isolation := .readCommitted
  lockTimeout := 5000
  stopWords := []
  synonyms := .empty
  stemming := none
  maxTokenLength := 255

def fieldNames : List String := [
  "rule_base", "strict_references", "fail_on_non_finalized", "isolation_level",
  "lock_timeout_ms", "stop_words", "synonyms", "stemming", "max_token_length"]

/-- A level is given by its name, alone or as the only member of an object, with no content. -/
def isolationOfJson? (room : Nat) : Json → Option Isolation
  | .object members => do
    match ← (Json.object members).members? room with
    | [(name, .null)] => Isolation.ofName? name
    | _ => none
  | j => j.text?.bind Isolation.ofName?

def synonymsOfJson? (room : Nat) (j : Json) : Option Synonyms := do
  let entries ← (← j.members? room).mapM fun m => do pure (m.1, ← m.2.names? (room - 1))
  pure (Dict.ofList entries)

def stemmingOfJson? : Json → Option (Option String)
  | .null => some none
  | j => j.text?.map some

/-- Reads a field if it is there. -/
def orUsual {α : Type} (usual : α) (read : Json → Option α) (field : Option Json) : Option α :=
  match field with
  | none => some usual
  | some j => read j

def ofJson? (j : Json) : Option Config := do
  let room := Json.maxDepth - 1
  match ← j.fields? Json.maxDepth true fieldNames with
  | [ruleBase, strict, fail, isolation, timeout, stopWords, synonyms, stemming, length] => do
    pure {
      ruleBase := ← orUsual usual.ruleBase Json.text? ruleBase
      strictReferences := ← orUsual usual.strictReferences Json.bool? strict
      failOnNonFinalized := ← orUsual usual.failOnNonFinalized Json.bool? fail
      isolation := ← orUsual usual.isolation (isolationOfJson? room) isolation
      lockTimeout := ← orUsual usual.lockTimeout Json.nat? timeout
      stopWords := ← orUsual usual.stopWords (Json.names? room) stopWords
      synonyms := ← orUsual usual.synonyms (synonymsOfJson? room) synonyms
      stemming := ← orUsual usual.stemming stemmingOfJson? stemming
      maxTokenLength := ← orUsual usual.maxTokenLength Json.nat? length }
  | _ => none

def ofText (text : String) : Except Error Config :=
  match (Json.ofText? text).bind ofJson? with
  | some config => .ok config
  | none => .error .malformedJson

end Config

/-- What a file holds, if there is one. -/
abbrev Contents := Option String

/-- The contents of a file that has to be there. -/
def Contents.get (contents : Contents) : Except Error String :=
  match contents with
  | some text => .ok text
  | none => .error .missingFile

def Config.ofFile (contents : Contents) : Except Error Config := contents.get >>= Config.ofText

end Cardfile
