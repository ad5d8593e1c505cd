import Std.Data.TreeMap
import AlgorithmPolicy.Expiration

namespace AlgorithmPolicy

/-! Ends of validity, each under what it is stated for, in the order of the keys. Of
several ends that are stated under one key the latest is kept. -/

abbrev Ends (κ : Type) [Ord κ] : Type :=
  Std.TreeMap κ Expiration

/-- Takes one more end of a key into account. -/
def Ends.add {κ : Type} [Ord κ] (ends : Ends κ) (key : κ) (expiration : Expiration) :
    Ends κ :=
  ends.alter key fun
    | some current => some (current.latest expiration)
    | none => some expiration

end AlgorithmPolicy
