import Mathlib.Data.List.Induction
import AlgorithmPolicy.Suite.Snapshot

/-! Levels after a history of changes. A change says which level the root gets, or which
setting a category gets, or nothing about them. Of a history only what was said last counts:
the root and each category have a history of their own, and they meet when a level is asked
for. Changes of levels change nothing else of a suite. -/

namespace AlgorithmPolicy

namespace Levels

inductive Change
  | setRoot (level : Level)
  | pin (category : Category) (level : Level)
  | reset (category : Category)
  | apply (levelSection : LevelSection)

def change (levels : Levels) : Change → Levels
  | .setRoot level => levels.setRoot level
  | .pin category level => levels.pin category level
  | .reset category => levels.reset category
  | .apply levelSection => levelSection.apply levels

def after (levels : Levels) (history : List Change) : Levels :=
  history.foldl change levels

/-! ## What a history says -/

/-- The setting of a category that was never touched, or was reset. -/
def untouched (category : Category) : Setting :=
  if category = .expirationAfterPolicyUpdate then .pinned .warn else .inherits

/-- The level that a change gives the root. -/
def Change.root? : Change → Option Level
  | .setRoot level => some level
  | .pin _ _ => none
  | .reset _ => none
  | .apply levelSection => levelSection.root

/-- The setting that a change gives a category. -/
def Change.setting? (category : Category) : Change → Option Setting
  | .setRoot _ => none
  | .pin other level => if other = category then some (.pinned level) else none
  | .reset other => if other = category then some (untouched category) else none
  | .apply levelSection => (levelSection.pins category).map .pinned

/-- What is said by the last change that says anything. -/
def lastSaid? {α : Type} (said? : Change → Option α) (history : List Change) : Option α :=
  history.reverse.findSome? said?

theorem lastSaid?_append_singleton {α : Type} (said? : Change → Option α)
    (history : List Change) (change : Change) :
    lastSaid? said? (history ++ [change]) = (said? change).or (lastSaid? said? history) := by
  rw [lastSaid?, List.reverse_append, List.findSome?_append]
  cases said : said? change <;> simp [lastSaid?, said]

/-! ## One change -/

theorem defaultSetting_eq (category : Category) :
    category.defaultSetting = untouched category := by
  cases category <;> rfl

section Sections

variable (levelSection : LevelSection) (levels : Levels)

theorem root_applyPin (category : Category) :
    (levelSection.applyPin levels category).root = levels.root := by
  rw [LevelSection.applyPin]
  cases levelSection.pins category <;> rfl

theorem settings_applyPin (category other : Category) :
    (levelSection.applyPin levels other).settings category =
      if other = category then
        ((levelSection.pins category).map .pinned).getD (levels.settings category)
      else levels.settings category := by
  rw [LevelSection.applyPin]
  by_cases same : other = category
  · subst same
    cases levelSection.pins other <;> simp [pin, settings_setSetting]
  · cases levelSection.pins other <;> simp [pin, settings_setSetting, same]

theorem root_applyPins (categories : List Category) :
    (categories.foldl levelSection.applyPin levels).root = levels.root := by
  induction categories generalizing levels with
  | nil => rfl
  | cons first rest induction => rw [List.foldl_cons, induction, root_applyPin]

/-- Pinning one category after the other pins each of them as if it were alone. -/
theorem settings_applyPins (categories : List Category) (category : Category) :
    (categories.foldl levelSection.applyPin levels).settings category =
      if category ∈ categories then
        ((levelSection.pins category).map .pinned).getD (levels.settings category)
      else levels.settings category := by
  induction categories generalizing levels with
  | nil => rfl
  | cons first rest induction =>
      rw [List.foldl_cons, induction, settings_applyPin]
      by_cases same : first = category
      · cases levelSection.pins category <;> simp [same]
      · simp [same, Ne.symm same]

theorem root_apply :
    (levelSection.apply levels).root = levelSection.root.getD levels.root := by
  rw [LevelSection.apply, root_applyPins, LevelSection.applyRoot]
  cases levelSection.root <;> rfl

theorem settings_apply (category : Category) :
    (levelSection.apply levels).settings category =
      ((levelSection.pins category).map .pinned).getD (levels.settings category) := by
  have everyCategory : category ∈ Category.all := Labelled.mem_all category
  have sameSettings : (levelSection.applyRoot levels).settings = levels.settings := by
    rw [LevelSection.applyRoot]
    cases levelSection.root <;> rfl
  rw [LevelSection.apply, settings_applyPins, if_pos everyCategory, sameSettings]

end Sections

/-- The root is what the change says, and stays if it says nothing. -/
theorem root_change (levels : Levels) (change : Change) :
    (levels.change change).root = change.root?.getD levels.root := by
  cases change with
  | setRoot level => rfl
  | pin category level => rfl
  | reset category => rfl
  | apply levelSection => exact root_apply levelSection levels

/-- A setting is what the change says of the category, and stays if it says nothing. -/
theorem settings_change (levels : Levels) (change : Change) (category : Category) :
    (levels.change change).settings category =
      (change.setting? category).getD (levels.settings category) := by
  cases change with
  | setRoot level => rfl
  | pin other level =>
      rw [Levels.change, pin, settings_setSetting, Change.setting?]
      split <;> rfl
  | reset other =>
      rw [Levels.change, reset, settings_setSetting, Change.setting?]
      by_cases same : other = category
      · rw [if_pos same, if_pos same, same, defaultSetting_eq]
        rfl
      · rw [if_neg same, if_neg same]
        rfl
  | apply levelSection => exact settings_apply levelSection levels category

/-! ## A whole history -/

theorem after_append_singleton (levels : Levels) (history : List Change) (change : Change) :
    levels.after (history ++ [change]) = (levels.after history).change change := by
  rw [after, List.foldl_append]
  rfl

theorem root_after (levels : Levels) (history : List Change) :
    (levels.after history).root = (lastSaid? Change.root? history).getD levels.root := by
  induction history using List.reverseRecOn with
  | nil => rfl
  | append_singleton history change induction =>
      rw [after_append_singleton, root_change, induction, lastSaid?_append_singleton]
      cases change.root? <;> rfl

theorem settings_after (levels : Levels) (history : List Change) (category : Category) :
    (levels.after history).settings category =
      (lastSaid? (Change.setting? category) history).getD (levels.settings category) := by
  induction history using List.reverseRecOn with
  | nil => rfl
  | append_singleton history change induction =>
      rw [after_append_singleton, settings_change, induction, lastSaid?_append_singleton]
      cases change.setting? category <;> rfl

/-- No change makes findings after a due update inherit. -/
theorem setting?_ne_inherits (change : Change) :
    change.setting? .expirationAfterPolicyUpdate ≠ some .inherits := by
  cases change with
  | setRoot level => exact nofun
  | pin other level =>
      rw [Change.setting?]
      split <;> exact nofun
  | reset other =>
      rw [Change.setting?]
      split <;> exact nofun
  | apply levelSection =>
      rw [Change.setting?]
      cases levelSection.pins .expirationAfterPolicyUpdate <;> exact nofun

theorem settings_after_ne_inherits (history : List Change) :
    (initial.after history).settings .expirationAfterPolicyUpdate ≠ .inherits := by
  induction history using List.reverseRecOn with
  | nil => exact nofun
  | append_singleton history change induction =>
      rw [after_append_singleton, settings_change]
      have never := setting?_ne_inherits change
      cases said : change.setting? .expirationAfterPolicyUpdate with
      | none => exact induction
      | some setting =>
          intro inherits
          rw [said] at never
          exact never (congrArg some inherits)

/-- Levels are what a history of changes to the initial levels says. -/
structure Reflects (levels : Levels) (history : List Change) : Prop where
  root : levels.root = (lastSaid? Change.root? history).getD .fail
  setting : ∀ category, levels.settings category =
    (lastSaid? (Change.setting? category) history).getD (untouched category)
  pinned : ∀ category level, levels.settings category = .pinned level →
    levels.level category = level
  inherited : ∀ category, levels.settings category = .inherits →
    levels.level category = levels.root
  neverInherits : levels.settings .expirationAfterPolicyUpdate ≠ .inherits
  rootless : ∀ root,
    (levels.setRoot root).level .expirationAfterPolicyUpdate =
      levels.level .expirationAfterPolicyUpdate

theorem level_of_pinned {levels : Levels} {category : Category} {level : Level}
    (pinned : levels.settings category = .pinned level) : levels.level category = level := by
  rw [Levels.level, pinned]

theorem level_of_inherits {levels : Levels} {category : Category}
    (inherits : levels.settings category = .inherits) :
    levels.level category = levels.root := by
  rw [Levels.level, inherits]

theorem reflects_after (history : List Change) : (initial.after history).Reflects history where
  root := root_after initial history
  setting category := by
    rw [settings_after, settings_initial, defaultSetting_eq]
  pinned _ _ := level_of_pinned
  inherited _ := level_of_inherits
  neverInherits := settings_after_ne_inherits history
  rootless root := by
    cases isSetting : (initial.after history).settings .expirationAfterPolicyUpdate with
    | pinned level =>
        rw [level_of_pinned isSetting]
        exact level_of_pinned isSetting
    | inherits => exact absurd isSetting (settings_after_ne_inherits history)

end Levels

/-! ## Suites -/

namespace Suite

/-- How the levels of a suite can be changed: one by one, in place, or as a whole. -/
inductive LevelChange
  | setRoot (level : Level)
  | pin (category : Category) (level : Level)
  | modify (history : List Levels.Change)
  | replace (levels : Levels)

def changeLevels (suite : Suite) : LevelChange → Suite
  | .setRoot level => suite.setRoot level
  | .pin category level => suite.pin category level
  | .modify history => suite.modifyLevels fun levels => levels.after history
  | .replace levels => suite.withLevels levels

def afterLevelChanges (suite : Suite) (changes : List LevelChange) : Suite :=
  changes.foldl changeLevels suite

/-- What a change of a suite does to levels. -/
def LevelChange.onLevels (levels : Levels) : LevelChange → Levels
  | .setRoot level => levels.change (.setRoot level)
  | .pin category level => levels.change (.pin category level)
  | .modify history => levels.after history
  | .replace others => others

theorem changeLevels_eq (suite : Suite) (change : LevelChange) :
    suite.changeLevels change = suite.withLevels (change.onLevels suite.levels) := by
  cases change <;> rfl

theorem afterLevelChanges_eq (suite : Suite) (changes : List LevelChange) :
    suite.afterLevelChanges changes =
      suite.withLevels (changes.foldl LevelChange.onLevels suite.levels) := by
  induction changes generalizing suite with
  | nil => rfl
  | cons change rest induction =>
      have step : suite.afterLevelChanges (change :: rest) =
          (suite.changeLevels change).afterLevelChanges rest := rfl
      rw [step, induction, changeLevels_eq]
      rfl

/-- The suites may differ in their levels only. -/
structure SameButLevels (suite other : Suite) : Prop where
  records : suite.catalogue.records = other.catalogue.records
  metadata : suite.catalogue.metadata = other.catalogue.metadata
  digests : suite.acceptability.digests = other.acceptability.digests
  signatures : suite.acceptability.signatures = other.acceptability.signatures
  keySizes : suite.acceptability.keySizes = other.acceptability.keySizes
  snapshot : suite.snapshot = other.snapshot

theorem sameButLevels_withLevels (suite : Suite) (levels : Levels) :
    (suite.withLevels levels).SameButLevels suite :=
  ⟨rfl, rfl, rfl, rfl, rfl, rfl⟩

/-- Levels are what their history says, those of a section are a history of one change, and
on a suite changes of levels have the same effect and no other. -/
theorem levels_follow_history (history : List Levels.Change) :
    (Levels.initial.after history).Reflects history ∧
      (∀ levelSection : LevelSection,
        levelSection.toLevels = Levels.initial.after [.apply levelSection]) ∧
      ∀ (suite : Suite) (changes : List LevelChange),
        (suite.afterLevelChanges changes).levels =
            changes.foldl LevelChange.onLevels suite.levels ∧
          (suite.afterLevelChanges changes).SameButLevels suite := by
  refine ⟨Levels.reflects_after history, fun _ => rfl, ?_⟩
  intro suite changes
  rw [afterLevelChanges_eq]
  exact ⟨rfl, sameButLevels_withLevels suite _⟩

end Suite

end AlgorithmPolicy
