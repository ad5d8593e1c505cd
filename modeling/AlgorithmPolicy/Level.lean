import AlgorithmPolicy.Label

namespace AlgorithmPolicy

/-! How severely a finding is reported. Findings fall into categories. A category
either has a level of its own or inherits the root level, at the time a level is
asked for. Findings about algorithms that expired after the policy was due for an
update are apart: they never inherit. -/

inductive Level
  | ignore
  | inform
  | warn
  | fail
  deriving DecidableEq

namespace Level

def label : Level → String
  | .ignore => "ignore"
  | .inform => "inform"
  | .warn => "warn"
  | .fail => "fail"

instance : Labelled Level where
  all := [.ignore, .inform, .warn, .fail]
  label := label
  mem_all level := by cases level <;> decide
  labels_nodup := by decide

def severity : Level → Nat
  | .ignore => 0
  | .inform => 1
  | .warn => 2
  | .fail => 3

def moreSevere (first second : Level) : Level :=
  if first.severity ≤ second.severity then second else first

end Level

inductive Category
  | digestAlgorithms
  | signatureAlgorithms
  | signatureMinKeySize
  | algorithmExpiration
  | expirationAfterPolicyUpdate
  deriving DecidableEq

/-- Where the level of a category comes from. -/
inductive Setting
  | pinned (level : Level)
  | inherits
  deriving DecidableEq

namespace Category

def label : Category → String
  | .digestAlgorithms => "digest_algorithms"
  | .signatureAlgorithms => "signature_algorithms"
  | .signatureMinKeySize => "signature_min_key_size"
  | .algorithmExpiration => "algorithm_expiration"
  | .expirationAfterPolicyUpdate => "expiration_after_policy_update"

def all : List Category :=
  [.digestAlgorithms, .signatureAlgorithms, .signatureMinKeySize, .algorithmExpiration,
   .expirationAfterPolicyUpdate]

instance : Labelled Category where
  all := all
  label := label
  mem_all category := by cases category <;> decide
  labels_nodup := by decide

def followsRoot (category : Category) : Bool :=
  category ≠ .expirationAfterPolicyUpdate

def defaultSetting (category : Category) : Setting :=
  if category.followsRoot then .inherits else .pinned .warn

/-- The place at which the setting of a category is kept. -/
def index : Category → Fin 5
  | .digestAlgorithms => 0
  | .signatureAlgorithms => 1
  | .signatureMinKeySize => 2
  | .algorithmExpiration => 3
  | .expirationAfterPolicyUpdate => 4

theorem index_injective {left right : Category} (same : left.index = right.index) :
    left = right := by
  revert same
  cases left <;> cases right <;> decide

end Category

/-- A root level, and a setting for each category at the place of the category. -/
structure Levels where
  root : Level
  slots : Vector Setting 5
  deriving DecidableEq

namespace Levels

def initial : Levels where
  root := .fail
  slots := #v[
    Category.digestAlgorithms.defaultSetting,
    Category.signatureAlgorithms.defaultSetting,
    Category.signatureMinKeySize.defaultSetting,
    Category.algorithmExpiration.defaultSetting,
    Category.expirationAfterPolicyUpdate.defaultSetting]

def settings (levels : Levels) (category : Category) : Setting :=
  levels.slots[category.index]

/-! ## Changing levels -/

def setRoot (levels : Levels) (level : Level) : Levels :=
  { levels with root := level }

def setSetting (levels : Levels) (category : Category) (setting : Setting) : Levels :=
  { levels with slots := levels.slots.set category.index setting }

def pin (levels : Levels) (category : Category) (level : Level) : Levels :=
  levels.setSetting category (.pinned level)

def reset (levels : Levels) (category : Category) : Levels :=
  levels.setSetting category category.defaultSetting

/-! ## Reading levels -/

def level (levels : Levels) (category : Category) : Level :=
  match levels.settings category with
  | .pinned level => level
  | .inherits => levels.root

def isPinned (levels : Levels) (category : Category) : Bool :=
  match levels.settings category with
  | .pinned _ => true
  | .inherits => false

theorem settings_initial (category : Category) :
    initial.settings category = category.defaultSetting := by
  cases category <;> rfl

/-- Every category has a place of its own. -/
theorem settings_setSetting (levels : Levels) (category other : Category) (setting : Setting) :
    (levels.setSetting category setting).settings other =
      if category = other then setting else levels.settings other := by
  by_cases same : category = other
  · subst same
    simp [settings, setSetting]
  · have apart : category.index.val ≠ other.index.val := fun equal =>
      same (Category.index_injective (Fin.ext equal))
    simp [settings, setSetting, same, Vector.getElem_set_ne _ _ apart]

end Levels

/-! ## Levels of a configuration -/

/-- Levels as a configuration states them: perhaps a root level, and perhaps a level
for each category. -/
structure LevelSection where
  root : Option Level
  pins : Category → Option Level

namespace LevelSection

def empty : LevelSection where
  root := none
  pins := fun _ => none

def applyRoot (levelSection : LevelSection) (levels : Levels) : Levels :=
  match levelSection.root with
  | some level => levels.setRoot level
  | none => levels

def applyPin (levelSection : LevelSection) (levels : Levels) (category : Category) : Levels :=
  match levelSection.pins category with
  | some level => levels.pin category level
  | none => levels

/-- Sets the root level if there is one, then pins what has a level. -/
def apply (levelSection : LevelSection) (levels : Levels) : Levels :=
  Category.all.foldl levelSection.applyPin (levelSection.applyRoot levels)

def toLevels (levelSection : LevelSection) : Levels :=
  levelSection.apply .initial

end LevelSection

end AlgorithmPolicy
