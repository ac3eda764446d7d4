import Sift.Error
import Sift.Value

/-!
# Sort chains

A `SortChain` lists sort levels, the primary one first; each further level only breaks ties of
those before it.  A level compares two values by null rank first, if its policy gives one, and
then by value in its direction.  The direction does not touch the null rank: nulls that are put
first stay first in either direction.
-/

set_option autoImplicit false
namespace Sift

/-- Smallest first or largest first. -/
inductive Direction where
  | ascending
  | descending
deriving DecidableEq, Repr

namespace Direction

instance : Inhabited Direction := ⟨.ascending⟩

/-- The order of two values, turned round where the largest comes first. -/
def apply : Direction → Ordering → Ordering
  | .ascending, ordering => ordering
  | .descending, ordering => ordering.swap

/-- The name a direction is shown under. -/
def text : Direction → String
  | .ascending => "asc"
  | .descending => "desc"

end Direction

/-- Where nulls go at one level. -/
inductive NullPolicy where
  | unspecified
  | first
  | last
deriving DecidableEq, Repr

namespace NullPolicy

instance : Inhabited NullPolicy := ⟨.unspecified⟩

/-- The rank that is compared before the value, if the policy gives one. -/
def rank : NullPolicy → Value → Option Nat
  | .unspecified, _ => none
  | .first, value => some (if value.isNull then 0 else 1)
  | .last, value => some (if value.isNull then 1 else 0)

/-- What a policy adds to the text of its level. -/
def text : NullPolicy → String
  | .unspecified => ""
  | .first => " nulls first"
  | .last => " nulls last"

end NullPolicy

/-- One level of a sort. -/
structure SortLevel where
  key : String
  direction : Direction
  nulls : NullPolicy
deriving DecidableEq

namespace SortLevel

/-- Compares two values at a level: null rank first, then the values in the level's direction. -/
def compareValues (level : SortLevel) (a b : Value) : Ordering :=
  (compare (level.nulls.rank a) (level.nulls.rank b)).then (level.direction.apply (a.compare b))

/-- Compares two entities at a level. -/
def compareEntities {α : Type} [Entity α] (level : SortLevel) (a b : α) : Ordering :=
  level.compareValues (Entity.fieldValue a level.key) (Entity.fieldValue b level.key)

/-- How a level is shown. -/
def text (level : SortLevel) : String :=
  level.key ++ " " ++ level.direction.text ++ level.nulls.text

end SortLevel

/-- Compares two entities by levels, each breaking the ties of those before it. -/
def compareByLevels {α : Type} [Entity α] : List SortLevel → α → α → Ordering
  | [], _, _ => .eq
  | level :: levels, a, b => (level.compareEntities a b).then (compareByLevels levels a b)

/-- Sorts entities by levels.  Entities that compare equal keep their order. -/
def sortByLevels {α : Type} [Entity α] (levels : List SortLevel) (entities : List α) : List α :=
  entities.mergeSort fun a b ↦ (compareByLevels levels a b).isLE

/-- Sort levels, the primary one first. -/
structure SortChain where
  levels : List SortLevel
deriving DecidableEq

namespace SortChain

/-- The chain that sorts nothing. -/
def empty : SortChain := ⟨[]⟩

instance : Inhabited SortChain := ⟨empty⟩

/-- Whether a chain has no level. -/
def isEmpty (chain : SortChain) : Bool := chain.levels.isEmpty

/-! ## Steps -/

/-- A chain of given levels, all of which must have a key. -/
def ofLevels (levels : List SortLevel) : Except SpecError SortChain :=
  if levels.any (·.key == "") then .error (.emptyArgument .sortKey) else .ok ⟨levels⟩

/-- A level without a null policy, whose key must not be empty. -/
def newLevel (key : String) (direction : Direction) : Except SpecError SortLevel :=
  if key = "" then .error (.emptyArgument .sortKey) else .ok ⟨key, direction, .unspecified⟩

/-- Starts afresh with one level. -/
def orderBy (_ : SortChain) (key : String) (direction : Direction) :
    Except SpecError SortChain := do
  let level ← newLevel key direction
  return ⟨[level]⟩

/-- Adds a level that breaks ties. -/
def thenBy (chain : SortChain) (key : String) (direction : Direction) :
    Except SpecError SortChain :=
  if chain.isEmpty then .error (.missingPrimarySort .thenBy)
  else do
    let level ← newLevel key direction
    return ⟨chain.levels ++ [level]⟩

/-- Gives the last level a null policy. -/
def setNulls (chain : SortChain) (nulls : NullPolicy) (operation : SecondarySort) :
    Except SpecError SortChain :=
  match chain.levels.getLast? with
  | some last => .ok ⟨chain.levels.dropLast ++ [{ last with nulls }]⟩
  | none => .error (.missingPrimarySort operation)

/-- Puts the nulls of the last level first. -/
def nullsFirst (chain : SortChain) : Except SpecError SortChain :=
  chain.setNulls .first .nullsFirst

/-- Puts the nulls of the last level last. -/
def nullsLast (chain : SortChain) : Except SpecError SortChain :=
  chain.setNulls .last .nullsLast

/-! ## Sorting -/

/-- The order of two entities by all levels of a chain. -/
def compareEntities {α : Type} [Entity α] (chain : SortChain) (a b : α) : Ordering :=
  compareByLevels chain.levels a b

/-- Sorts entities by the chain; an empty chain leaves them alone. -/
def sort {α : Type} [Entity α] (chain : SortChain) (entities : List α) : List α :=
  if chain.isEmpty then entities else sortByLevels chain.levels entities

/-- How a chain is shown. -/
def text (chain : SortChain) : String :=
  ", ".intercalate (chain.levels.map SortLevel.text)

end SortChain

/-- A step of a sort chain. -/
inductive SortStep where
  | orderBy (key : String) (direction : Direction)
  | thenBy (key : String) (direction : Direction)
  | nullsFirst
  | nullsLast
deriving DecidableEq

namespace SortChain

/-- Does one step of a sort program. -/
def runStep (chain : SortChain) : SortStep → Except SpecError SortChain
  | .orderBy key direction => chain.orderBy key direction
  | .thenBy key direction => chain.thenBy key direction
  | .nullsFirst => chain.nullsFirst
  | .nullsLast => chain.nullsLast

end SortChain
end Sift
