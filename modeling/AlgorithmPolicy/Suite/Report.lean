import AlgorithmPolicy.Level

namespace AlgorithmPolicy

/-! The findings of a check. -/

structure Violation where
  category : Category
  level : Level
  message : String
  deriving DecidableEq

structure Report where
  violations : List Violation
  deriving DecidableEq

namespace Report

def empty : Report :=
  ⟨[]⟩

/-- A report with one finding, at the level of its category; findings to be ignored
are not reported. -/
def ofFinding (levels : Levels) (category : Category) (message : String) : Report :=
  match levels.level category with
  | .ignore => empty
  | level => ⟨[⟨category, level, message⟩]⟩

def isAcceptable (report : Report) : Bool :=
  !report.violations.any fun violation => violation.level = .fail

def highestLevel? (report : Report) : Option Level :=
  match report.violations with
  | [] => none
  | first :: rest =>
      some (rest.foldl (fun level violation => level.moreSevere violation.level) first.level)

end Report

end AlgorithmPolicy
