/-!
# Variables

A predicate names the variable its leaves read from.  A specification binds one variable, and
specifications built apart may bind different ones.
-/

set_option autoImplicit false
namespace Sift

/-- A name that stands for the entity a predicate is asked about. -/
structure Variable where
  name : String
deriving DecidableEq, Inhabited

namespace Variable

/-- The variable bound when none is named. -/
def default : Variable := ⟨"x"⟩

/-- Variables are ordered by name. -/
instance : Ord Variable := ⟨fun a b ↦ compare a.name b.name⟩

end Variable
end Sift
