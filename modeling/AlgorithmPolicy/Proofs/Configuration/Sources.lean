import AlgorithmPolicy.FileSystem.Tree
import AlgorithmPolicy.Proofs.Configuration.Files

/-! Where a configuration comes from. A path that is given goes before the variable, and the
variable before the default path. Whatever is wrong with the file that is named, no other file
takes its place, unless the value of the variable is no text: then the file at the default path
is taken, as if no file were named. -/

namespace AlgorithmPolicy

namespace Configuration

variable {files : FileSystem Id} {path : String}

/-- The configuration is what the file at a path states, and nothing is wrong with the file. -/
inductive IsReadFrom (files : FileSystem Id) (path : String) : Configuration → Prop
  | read {bytes : ByteArray} {text : String} {configuration : Configuration}
      (isWithinLimits : Path.IsWithinLimits path)
      (isContent : Lookup.content (files path) = .ok bytes)
      (isSmall : bytes.size ≤ fileLimit)
      (isText : bytes = text.toUTF8)
      (isParsed : parse text = .ok configuration) :
      IsReadFrom files path { configuration with directory := Path.parent? path }

theorem loadPath_eq_ok_iff {configuration : Configuration} :
    loadPath files path = .ok configuration ↔ IsReadFrom files path configuration := by
  change (loadFile files "config" path fileLimit parse).map _ = _ ↔ _
  rw [Except.map_eq_ok_iff]
  constructor
  · intro loaded
    rcases loaded with ⟨stated, loaded, same⟩
    subst same
    rcases loadFile_eq_ok_iff.mp loaded with ⟨text, holdsText, isParsed⟩
    have isWithin := Path.isWithinLimits_iff.mpr holdsText.isBounded
    exact .read isWithin holdsText.isContent holdsText.isSmall rfl isParsed
  · intro isRead
    cases isRead with
    | @read bytes text stated isWithin isContent isSmall isText isParsed =>
        subst isText
        have isBounded := Path.isWithinLimits_iff.mp isWithin
        have holdsText : HoldsText files path fileLimit text := ⟨⟨isBounded, isContent⟩, isSmall⟩
        exact ⟨stated, loadFile_eq_ok_iff.mpr ⟨text, holdsText, isParsed⟩, rfl⟩

/-! ## Looking at files -/

/-- Answers as the files do, and notes every path that is looked at. -/
def noting (files : FileSystem Id) : FileSystem (StateM (List String)) := fun path => do
  modify (· ++ [path])
  return files path

/-- What comes of loading a configuration, and the paths that are looked at for it. -/
def loading (files : FileSystem Id) (given : Option String) (value : Option ByteArray) :
    Except LoadError Configuration × List String :=
  (loadOrInitial (noting files) given value).run []

/-- Beyond the limits of paths nothing is looked at. -/
def lookedAt (path : String) : List String :=
  if Path.excess? path = none then [path] else []

theorem run_loadPath (files : FileSystem Id) (path : String) (earlier : List String) :
    (loadPath (noting files) path).run earlier =
      (loadPath files path, earlier ++ lookedAt path) := by
  rw [loadPath, loadPath, loadFile, loadFile, lookedAt, Path.check]
  cases Path.excess? path with
  | none => rfl
  | some excess =>
      rw [if_neg (Option.some_ne_none excess), List.append_nil]
      cases excess <;> rfl

/-! ## Choosing a path -/

section Choosing

variable {m : Type → Type} [Monad m] {look : FileSystem m}

theorem loadOrInitial_of_named {given : Option String} {value : Option ByteArray}
    (isNamed : given ≠ none ∨ value ≠ none) :
    loadOrInitial look given value = load look given value := by
  rw [loadOrInitial]
  apply if_neg
  intro unnamed
  rw [Option.isNone_iff_eq_none, Option.isNone_iff_eq_none] at unnamed
  exact isNamed.elim (absurd unnamed.1) (absurd unnamed.2)

/-- A value that is too long is refused as any path is. -/
theorem load_of_text [LawfulMonad m] (text : String) :
    load look none (some text.toUTF8) = loadPath look text := by
  have decoded : (some text.toUTF8).bind String.fromUTF8? = some text :=
    fromUTF8?_eq_some_iff.mpr rfl
  rw [load, choosePath, decoded]
  by_cases isTooLong : Path.lengthLimit < text.utf8ByteSize
  · have exceeds : Path.excess? text = some .path := if_pos isTooLong
    simp only [isTooLong, if_true, loadPath, loadFile, Path.check, exceeds, pure_bind]
    rfl
  · simp only [isTooLong, if_false]

theorem load_of_noText {value : ByteArray} (isNoText : ∀ text : String, value ≠ text.toUTF8) :
    load look none (some value) = loadPath look defaultPath := by
  have undecoded : (some value).bind String.fromUTF8? = none := by
    apply Option.eq_none_iff_forall_ne_some.mpr
    intro text decoded
    exact isNoText text (fromUTF8?_eq_some_iff.mp decoded)
  rw [load, choosePath, undecoded]

end Choosing

theorem loading_of_given (files : FileSystem Id) (path : String) (value : Option ByteArray) :
    loading files (some path) value = (loadPath files path, lookedAt path) := by
  rw [loading, loadOrInitial_of_named (.inl (Option.some_ne_none _))]
  exact run_loadPath files path []

theorem loading_of_text (files : FileSystem Id) (text : String) :
    loading files none (some text.toUTF8) = (loadPath files text, lookedAt text) := by
  rw [loading, loadOrInitial_of_named (.inr (Option.some_ne_none _)), load_of_text]
  exact run_loadPath files text []

theorem loading_of_noText (files : FileSystem Id) {value : ByteArray}
    (isNoText : ∀ text : String, value ≠ text.toUTF8) :
    loading files none (some value) = (loadPath files defaultPath, [defaultPath]) := by
  rw [loading, loadOrInitial_of_named (.inr (Option.some_ne_none _)), load_of_noText isNoText]
  exact run_loadPath files defaultPath []

theorem loading_of_unset (files : FileSystem Id) :
    loading files none none =
      if Lookup.isPresent (files defaultPath) then
        (loadPath files defaultPath, [defaultPath, defaultPath])
      else (.ok initial, [defaultPath]) := by
  have isRun : loading files none none =
      (if Lookup.isPresent (files defaultPath) then loadPath (noting files) defaultPath
        else return .ok initial : StateM (List String) _).run [defaultPath] := rfl
  rw [isRun]
  split
  · exact run_loadPath files defaultPath [defaultPath]
  · rfl

/-! ## Keeping to a source -/

/-- The path of the file that is named. A variable that is set names one, or none if its value
is no text. -/
def Names (given : Option String) (value : Option ByteArray) (path : String) : Prop :=
  match given, value with
  | some named, _ => path = named
  | none, some bytes => bytes = path.toUTF8
  | none, none => path = defaultPath

/-- Only the file that is named is looked at. What is loaded was read from it, or nothing is named
and there is no file at the default path. -/
structure KeepsToSource (files : FileSystem Id) (given : Option String)
    (value : Option ByteArray) : Prop where
  looks : ∀ path ∈ (loading files given value).2, Names given value path
  loads : ∀ configuration, (loading files given value).1 = .ok configuration ↔
    (∃ path, Names given value path ∧ IsReadFrom files path configuration) ∨
      given = none ∧ value = none ∧ Lookup.isPresent (files defaultPath) = false ∧
        configuration = initial

/-- The value of the variable is a text, if there is one. -/
def IsText (value : Option ByteArray) : Prop :=
  ∀ bytes ∈ value, ∃ text : String, bytes = text.toUTF8

theorem isText_some_iff {bytes : ByteArray} :
    IsText (some bytes) ↔ ∃ text : String, bytes = text.toUTF8 := by
  constructor
  · intro isText
    exact isText bytes rfl
  · intro isText other same
    cases same
    exact isText

theorem eq_of_mem_lookedAt {other : String} (member : other ∈ lookedAt path) : other = path := by
  rw [lookedAt] at member
  split at member
  · exact List.mem_singleton.mp member
  · cases member

variable {given : Option String} {value : Option ByteArray}

theorem keepsToSource_of_named (isNamed : given ≠ none ∨ value ≠ none)
    (names_iff : ∀ other, Names given value other ↔ other = path)
    (isLoaded : loading files given value = (loadPath files path, lookedAt path)) :
    KeepsToSource files given value := by
  constructor
  case looks =>
    intro other member
    rw [isLoaded] at member
    exact (names_iff other).mpr (eq_of_mem_lookedAt member)
  case loads =>
    intro configuration
    rw [isLoaded, loadPath_eq_ok_iff]
    simp only [names_iff, exists_eq_left]
    apply (or_iff_left _).symm
    intro unnamed
    exact isNamed.elim (absurd unnamed.1) (absurd unnamed.2.1)

theorem keepsToSource_of_given (files : FileSystem Id) (path : String)
    (value : Option ByteArray) : KeepsToSource files (some path) value :=
  keepsToSource_of_named (.inl (Option.some_ne_none _)) (fun _ => Iff.rfl)
    (loading_of_given files path value)

theorem keepsToSource_of_text (files : FileSystem Id) (text : String) :
    KeepsToSource files none (some text.toUTF8) := by
  apply keepsToSource_of_named (.inr (Option.some_ne_none _)) _ (loading_of_text files text)
  intro other
  rw [Names, String.toUTF8, String.toUTF8, String.toByteArray_inj, eq_comm]

theorem isPresent_of_isReadFrom {configuration : Configuration}
    (isRead : IsReadFrom files path configuration) : Lookup.isPresent (files path) = true := by
  cases isRead with
  | read _ isContent =>
      cases found : (files path : Lookup) with
      | present content => rfl
      | absent failure =>
          rw [found] at isContent
          cases isContent

theorem keepsToSource_of_unset (files : FileSystem Id) : KeepsToSource files none none := by
  have isLoaded := loading_of_unset files
  by_cases isPresent : Lookup.isPresent (files defaultPath) = true
  · rw [if_pos isPresent] at isLoaded
    constructor
    case looks =>
      intro path member
      rw [isLoaded] at member
      simpa [Names] using member
    case loads =>
      intro configuration
      rw [isLoaded, loadPath_eq_ok_iff]
      simp [Names, isPresent]
  · rw [if_neg isPresent] at isLoaded
    constructor
    case looks =>
      intro path member
      rw [isLoaded] at member
      exact List.mem_singleton.mp member
    case loads =>
      intro configuration
      rw [isLoaded]
      have isUnread : ¬ IsReadFrom files defaultPath configuration :=
        fun isRead => isPresent (isPresent_of_isReadFrom isRead)
      simp [Names, isPresent, isUnread, eq_comm]

theorem not_keepsToSource_of_noText {bytes : ByteArray}
    (isNoText : ∀ text : String, bytes ≠ text.toUTF8) :
    ¬ KeepsToSource files none (some bytes) := by
  intro keeps
  have looked := keeps.looks defaultPath
  rw [loading_of_noText files isNoText] at looked
  exact isNoText defaultPath (looked List.mem_cons_self)

/-- Configurations keep to their source exactly if a path is given or the variable holds a text,
where it is set. -/
theorem keepsToSource_iff (files : FileSystem Id) (given : Option String)
    (value : Option ByteArray) :
    KeepsToSource files given value ↔ given ≠ none ∨ IsText value := by
  cases given with
  | some path =>
      exact iff_of_true (keepsToSource_of_given files path value) (.inl (Option.some_ne_none _))
  | none =>
      cases value with
      | none => exact iff_of_true (keepsToSource_of_unset files) (.inr nofun)
      | some bytes =>
          rw [or_iff_right (not_not.mpr rfl), isText_some_iff]
          by_cases isText : ∃ text : String, bytes = text.toUTF8
          · rcases isText with ⟨text, same⟩
            subst same
            exact iff_of_true (keepsToSource_of_text files text) ⟨text, rfl⟩
          · exact iff_of_false (not_keepsToSource_of_noText (not_exists.mp isText)) isText

/-- A working directory with a configuration at the default path. -/
def directoryWithDefault : FileTree :=
  FileTree.empty.add "cryptosuite.toml" "[policy]\npath = \"policy.json\"\n".toUTF8

/-- The byte 255 belongs to no text. The configuration is loaded all the same. -/
theorem not_keepsToSource_of_byte255 :
    (loading directoryWithDefault.lookUp none (some ⟨#[255]⟩)).1.toOption.map (·.policyPath) =
        some (some "policy.json") ∧
      (loading directoryWithDefault.lookUp none (some ⟨#[255]⟩)).2 = ["cryptosuite.toml"] ∧
      ¬ Names none (some ⟨#[255]⟩) "cryptosuite.toml" ∧
      ¬ KeepsToSource directoryWithDefault.lookUp none (some ⟨#[255]⟩) := by
  have isLoaded :
      (loading directoryWithDefault.lookUp none (some ⟨#[255]⟩)).1.toOption.map (·.policyPath) =
        some (some "policy.json") := by decide +kernel
  have isLookedAt :
      (loading directoryWithDefault.lookUp none (some ⟨#[255]⟩)).2 = ["cryptosuite.toml"] := by
    decide +kernel
  have isUnnamed : ¬ Names none (some ⟨#[255]⟩) "cryptosuite.toml" := by
    rw [Names]
    decide
  refine ⟨isLoaded, isLookedAt, isUnnamed, fun keeps => ?_⟩
  apply isUnnamed
  apply keeps.looks
  rw [isLookedAt]
  exact List.mem_cons_self

end Configuration

end AlgorithmPolicy
