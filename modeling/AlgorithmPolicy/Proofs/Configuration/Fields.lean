import AlgorithmPolicy.Configuration.Reader

/-! What sections of a configuration state. A section is a table, whose fields have keys, or an
array, whose items stand for fields by their places. Either way nothing is read that is not
declared, but only a table is refused for it: what an array holds beyond its fields is not
looked at. -/

namespace AlgorithmPolicy

namespace Toml.Value

/-- The keys of a table. An array has none: its items stand for fields by their places. -/
def keys : Toml.Value → List String
  | .table _ entries => entries.map Prod.fst
  | .array _ | .tables _ _ | .string _ | .scalar => []

def items? : Toml.Value → Option (List Toml.Value)
  | .array items => some items
  | .tables last before => some ((last :: before).reverse.map (.table .header))
  | .table _ _ | .string _ | .scalar => none

theorem keys_of_items? {value : Toml.Value} {items : List Toml.Value}
    (isArray : value.items? = some items) : value.keys = [] := by
  cases value with
  | table => cases isArray
  | array | tables | string | scalar => rfl

end Toml.Value

namespace Configuration

/-! ## Declared fields -/

/-- A value states fields: a table states declared ones by their keys, and an array states
those that are declared first. -/
inductive States (names : List String) : Toml.Value → Fields → Prop
  | table {origin : Toml.Origin} {entries : Toml.Entries}
      (areDeclared : ∀ key ∈ entries.map Prod.fst, key ∈ names) :
      States names (.table origin entries) entries
  | array {value : Toml.Value} {items : List Toml.Value} (isArray : value.items? = some items) :
      States names value (names.zip items)

variable {value : Toml.Value} {fields : Fields} {names : List String}
  {items : List Toml.Value}

theorem fields?_of_items? (isArray : value.items? = some items) :
    fields? names value = some (names.zip items) := by
  cases value with
  | array | tables =>
      cases isArray
      rfl
  | table | string | scalar => cases isArray

theorem all_contains_iff {entries : Toml.Entries} :
    (entries.all fun (name, _) => names.contains name) ↔
      ∀ key ∈ entries.map Prod.fst, key ∈ names := by
  rw [List.all_eq_true, List.forall_mem_map]
  simp only [List.contains_iff_mem]

theorem fields?_eq_some_iff : fields? names value = some fields ↔ States names value fields := by
  constructor
  · intro accepted
    cases value with
    | table origin entries =>
        rcases Option.ite_none_right_eq_some.mp accepted with ⟨areDeclared, same⟩
        cases same
        exact .table (all_contains_iff.mp areDeclared)
    | array | tables =>
        cases accepted
        exact .array rfl
    | string | scalar => cases accepted
  · intro states
    cases states with
    | table areDeclared => exact if_pos (all_contains_iff.mpr areDeclared)
    | array isArray => exact fields?_of_items? isArray

theorem mem_of_fields? (accepted : fields? names value = some fields) :
    ∀ key ∈ value.keys, key ∈ names := by
  cases fields?_eq_some_iff.mp accepted with
  | table areDeclared => exact areDeclared
  | array isArray =>
      rw [Toml.Value.keys_of_items? isArray]
      exact nofun

/-- Whether they are stated by keys or by places, nothing but declared fields is read. -/
theorem mem_of_mem_fields? (accepted : fields? names value = some fields) :
    ∀ field ∈ fields, field.1 ∈ names := by
  intro field member
  cases fields?_eq_some_iff.mp accepted with
  | table areDeclared => exact areDeclared _ (List.mem_map_of_mem member)
  | array isArray => exact (List.of_mem_zip member).1

theorem fields?_table {origin : Toml.Origin} {entries : Toml.Entries}
    (accepted : fields? names (.table origin entries) = some fields) : fields = entries := by
  cases fields?_eq_some_iff.mp accepted with
  | table areDeclared => rfl
  | array isArray => cases isArray

/-! ## Fields by place -/

/-- A field is the item at its place. -/
theorem lookup_zip (unique : names.Nodup) {place : Nat} {name : String}
    (isName : names[place]? = some name) : (names.zip items).lookup name = items[place]? := by
  induction names generalizing place items with
  | nil => cases isName
  | cons first names induction =>
      rw [List.nodup_cons] at unique
      cases items with
      | nil => rfl
      | cons item items =>
          cases place with
          | zero =>
              cases isName
              exact List.lookup_cons_self
          | succ place =>
              have inRest : names[place]? = some name := isName
              have isOther : name ≠ first := fun same =>
                unique.1 (same ▸ List.mem_of_getElem? inRest)
              rw [List.zip_cons_cons, List.lookup_cons, beq_false_of_ne isOther]
              exact induction unique.2 inRest

theorem zip_take : names.zip (items.take names.length) = names.zip items :=
  calc names.zip (items.take names.length)
      = (names.take names.length).zip (items.take names.length) := by rw [List.take_length]
    _ = (names.zip items).take names.length := List.take_zipWith.symm
    _ = names.zip items := by
      apply List.take_of_length_le
      rw [List.length_zip]
      exact Nat.min_le_left _ _

/-- Items beyond the fields that are declared are not looked at. -/
theorem fields?_eq_of_take_eq {other : Toml.Value} {others : List Toml.Value}
    (isArray : value.items? = some items) (isOther : other.items? = some others)
    (same : items.take names.length = others.take names.length) :
    fields? names value = fields? names other := by
  rw [fields?_of_items? isArray, fields?_of_items? isOther, ← zip_take, same, zip_take]

/-! ## Sections -/

/-- A field that may be left out is read if it is stated. -/
theorem optional_eq_some_iff {α : Type} {read : Toml.Value → Option α} {name : String}
    {result : Option α} :
    optional read fields name = some result ↔
      (fields.lookup name).map read = result.map some := by
  rw [optional]
  cases fields.lookup name with
  | none => cases result <;> simp
  | some value => cases result <;> simp

theorem exists_of_optional {α : Type} {read : Toml.Value → Option α} {name : String}
    {result : Option α} (accepted : optional read fields name = some result)
    (isStated : fields.lookup name = some value) : ∃ stated, read value = some stated := by
  rw [optional_eq_some_iff, isStated, Option.map_some] at accepted
  rcases Option.map_eq_some_iff.mp accepted.symm with ⟨stated, -, isRead⟩
  exact ⟨stated, isRead.symm⟩

theorem policyPath?_eq_some_iff {path : Option String} :
    policyPath? value = some path ↔
      ∃ fields, fields? ["path"] value = some fields ∧
        (fields.lookup "path").map string? = path.map some := by
  simp only [policyPath?, Option.bind_eq_bind, Option.bind_eq_some_iff, optional_eq_some_iff]

/-- An array for the policy starts with its path. -/
theorem policyPath?_eq_some_iff_of_items? (isArray : value.items? = some items)
    {path : Option String} :
    policyPath? value = some path ↔ items[0]?.map string? = path.map some := by
  have isPath : (["path"].zip items).lookup "path" = items[0]? := lookup_zip (by decide) rfl
  rw [policyPath?_eq_some_iff, fields?_of_items? isArray]
  simp [isPath]

def levelFields : List String :=
  LevelSection.rootField :: Category.all.map Category.label

theorem levels?_eq_some_iff {levels : LevelSection} :
    levels? value = some levels ↔
      ∃ fields, fields? levelFields value = some fields ∧
        (fields.lookup LevelSection.rootField).map level? = levels.root.map some ∧
        ∀ category : Category,
          (fields.lookup category.label).map level? = (levels.pins category).map some := by
  simp only [levels?, Option.bind_eq_bind, Option.bind_eq_some_iff, optional_eq_some_iff, pure,
    Option.some.injEq]
  constructor
  · intro accepted
    rcases accepted with ⟨fields, areFields, root, isRoot, digests, areDigests, signatures,
      areSignatures, keySize, isKeySize, ends, areEnds, lateEnds, areLateEnds, rfl⟩
    refine ⟨fields, areFields, isRoot, ?_⟩
    intro category
    cases category with
    | digestAlgorithms => exact areDigests
    | signatureAlgorithms => exact areSignatures
    | signatureMinKeySize => exact isKeySize
    | algorithmExpiration => exact areEnds
    | expirationAfterPolicyUpdate => exact areLateEnds
  · intro stated
    rcases stated with ⟨fields, areFields, isRoot, arePins⟩
    refine ⟨fields, areFields, _, isRoot, _, arePins _, _, arePins _, _, arePins _, _,
      arePins _, _, arePins _, ?_⟩
    rw [LevelSection.ofLevels, LevelSection.mk.injEq]
    refine ⟨rfl, ?_⟩
    funext category
    cases category <;> rfl

/-- An array for the levels starts with the root level, and the categories follow in order. -/
theorem levels?_eq_some_iff_of_items? (isArray : value.items? = some items)
    {levels : LevelSection} :
    levels? value = some levels ↔
      items[0]?.map level? = levels.root.map some ∧
        ∀ category : Category,
          items[category.index.val + 1]?.map level? = (levels.pins category).map some := by
  have atPlace : ∀ place name, levelFields[place]? = some name →
      (levelFields.zip items).lookup name = items[place]? := fun _ _ => lookup_zip (by decide)
  have isRoot := atPlace 0 LevelSection.rootField rfl
  have arePins : ∀ category : Category,
      (levelFields.zip items).lookup category.label = items[category.index.val + 1]? := by
    intro category
    apply atPlace
    cases category <;> rfl
  rw [levels?_eq_some_iff, fields?_of_items? isArray]
  simp [isRoot, arePins]

theorem mem_of_policyPath? {path : Option String} (accepted : policyPath? value = some path) :
    ∀ key ∈ value.keys, key ∈ ["path"] := by
  rcases policyPath?_eq_some_iff.mp accepted with ⟨fields, areFields, -⟩
  exact mem_of_fields? areFields

theorem mem_of_levels? {levels : LevelSection} (accepted : levels? value = some levels) :
    ∀ key ∈ value.keys, key ∈ levelFields := by
  rcases levels?_eq_some_iff.mp accepted with ⟨fields, areFields, -⟩
  exact mem_of_fields? areFields

end Configuration

end AlgorithmPolicy
