import AlgorithmPolicy.Json
import AlgorithmPolicy.Json.Tagged
import AlgorithmPolicy.Level

namespace AlgorithmPolicy

/-! Settings of categories, and the levels of a configuration, in JSON. -/

namespace Setting

/-- How a category comes by its level. -/
inductive Mode
  | pinned
  | inherits
  deriving DecidableEq

def Mode.label : Mode → String
  | .pinned => "pinned"
  | .inherits => "inherits"

instance : Labelled Mode where
  all := [.pinned, .inherits]
  label := Mode.label
  mem_all mode := by cases mode <;> decide
  labels_nodup := by decide

def toJson : Setting → Json
  | .pinned level =>
      .object [("mode", .string Mode.pinned.label), ("level", .string level.label)]
  | .inherits => .object [("mode", .string Mode.inherits.label)]

def readInherits : Json.Reader Setting := fun draft =>
  (fun _ => .inherits) <$> Json.Reader.unit "unit variant LevelSetting::Inherits" draft

def adjacent : Json.Adjacent Mode Setting where
  title := "adjacently tagged enum LevelSetting"
  tag := "mode"
  content := "level"
  bare?
    | .inherits => some .inherits
    | .pinned => none
  readContent
    | .pinned => fun draft => .pinned <$> Json.Reader.label draft
    | .inherits => readInherits
  readHeldContent
    | .pinned => fun draft => .pinned <$> Json.Reader.heldLabel draft
    | .inherits => readInherits

def reader : Json.Reader Setting :=
  adjacent.read

end Setting

namespace LevelSection

def ofLevels (root digestAlgorithms signatureAlgorithms signatureMinKeySize
    algorithmExpiration expirationAfterPolicyUpdate : Option Level) : LevelSection where
  root := root
  pins
    | .digestAlgorithms => digestAlgorithms
    | .signatureAlgorithms => signatureAlgorithms
    | .signatureMinKeySize => signatureMinKeySize
    | .algorithmExpiration => algorithmExpiration
    | .expirationAfterPolicyUpdate => expirationAfterPolicyUpdate

/-- The root level is called `default`, and the pins are called as their categories. -/
def rootField : String := "default"

def toJson (levelSection : LevelSection) : Json :=
  let write := Json.ofOption fun level : Level => .string level.label
  .object ((rootField, write levelSection.root) ::
    Category.all.map fun category => (category.label, write (levelSection.pins category)))

def declaration : Json.Declaration where
  title := "struct LevelsConfig"
  fields := rootField :: Category.all.map Category.label
  isClosed := true

def reader : Json.Reader LevelSection :=
  declaration.read fun record =>
    let level (name : String) : Json.Attempt (Option Level) :=
      record.defaulted name none (Json.Reader.nullable Json.Reader.label)
    ofLevels
      <$> level rootField
      <*> level Category.digestAlgorithms.label
      <*> level Category.signatureAlgorithms.label
      <*> level Category.signatureMinKeySize.label
      <*> level Category.algorithmExpiration.label
      <*> level Category.expirationAfterPolicyUpdate.label

end LevelSection

end AlgorithmPolicy
