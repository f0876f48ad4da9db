import Cardfile.Form
import Cardfile.Kind

/-! # Rules

What a declaration in normal form may be asked to satisfy. Each rule is about some kinds only.
-/

namespace Cardfile

inductive Rule
  | boundsOrdered | patternCompiles | precisionCoversScale | levelsPresent
  | labelDepthWithinLevels | fieldNamesUnique | fieldsTyped
  deriving DecidableEq

namespace Rule

def all : List Rule := [
  boundsOrdered, patternCompiles, precisionCoversScale, levelsPresent, labelDepthWithinLevels,
  fieldNamesUnique, fieldsTyped]

def name : Rule → String
  | boundsOrdered => "bounds_ordered"
  | patternCompiles => "pattern_compiles"
  | precisionCoversScale => "precision_covers_scale"
  | levelsPresent => "levels_present"
  | labelDepthWithinLevels => "label_depth_within_levels"
  | fieldNamesUnique => "field_names_unique"
  | fieldsTyped => "fields_typed"

def ofName? (name : String) : Option Rule := all.find? (·.name = name)

def appliesTo : Rule → Kind → Bool
  | boundsOrdered, kind =>
    kind = .integerRange || kind = .realRange || kind = .dateRange || kind = .timeRange
  | patternCompiles, kind => kind = .stringPattern
  | precisionCoversScale, kind => kind = .decimal
  | levelsPresent, kind => kind = .hierarchy
  | labelDepthWithinLevels, kind => kind = .hierarchy
  | fieldNamesUnique, kind => kind.isComponent
  | fieldsTyped, kind => kind.isComponent

end Rule

end Cardfile
