/-!
# Intents

What the caller of an evaluation is going to do with the source it gets back.  Where no entities
are wanted (`Intent.materializes`), related data need not be loaded, nor an order kept that no
window depends on.
-/

set_option autoImplicit false
namespace Sift

/-- What an evaluated source is wanted for: its entities, their number, or whether there are
any. -/
inductive Intent where
  | fetch
  | count
  | exists
deriving DecidableEq, Repr

namespace Intent

/-- Whether entities, and so the relations to load along, are wanted. -/
def materializes : Intent → Bool
  | .fetch => true
  | _ => false

/-- The name an intent is logged under. -/
def name : Intent → String
  | .fetch => "Fetch"
  | .count => "Count"
  | .exists => "Exists"

end Intent
end Sift
