import Sift.Predicate.Json
import Sift.Specification

/-!
# Specifications as JSON

A specification is stored as a record of its parts: the variable always, the others where they ask
for something.  Reading takes any of them as not asked for when it is missing, and checks the
parts as `Specification.ofParts` does.
-/

set_option autoImplicit false
namespace Sift

/-! ## Sort chains -/

namespace Direction

/-- The name a direction is stored under. -/
def name : Direction → String
  | .ascending => "ascending"
  | .descending => "descending"

/-- The direction that is stored under a name. -/
def ofName? (name : String) : Option Direction :=
  [ascending, descending].find? (·.name == name)

/-- Reads a direction from its name. -/
def ofJson (json : Json) : Read Direction := do
  let name ← json.readName false
  Json.required (ofName? name)

end Direction

namespace NullPolicy

/-- The name a policy is stored under. -/
def name : NullPolicy → String
  | .unspecified => "unspecified"
  | .first => "nulls_first"
  | .last => "nulls_last"

/-- The policy that is stored under a name. -/
def ofName? (name : String) : Option NullPolicy :=
  [unspecified, first, last].find? (·.name == name)

/-- Reads a policy from its name. -/
def ofJson (json : Json) : Read NullPolicy := do
  let name ← json.readName false
  Json.required (ofName? name)

end NullPolicy

namespace SortLevel

/-- A sort level as JSON. -/
def toJson (level : SortLevel) : Json :=
  .object [("key", .string level.key), ("direction", .string level.direction.name),
    ("nulls", .string level.nulls.name)]

/-- What was read of a level so far. -/
structure Draft where
  key : Option String
  direction : Option Direction
  nulls : Option NullPolicy

/-- Adds a field of a sort level. -/
def Draft.add (draft : Draft) : String × Json → Read Draft
  | ("key", json) => do
    let key ← Json.setOnce draft.key json.readString
    return { draft with key }
  | ("direction", json) => do
    let direction ← Json.setOnce draft.direction (Direction.ofJson json)
    return { draft with direction }
  | ("nulls", json) => do
    let nulls ← Json.setOnce draft.nulls (NullPolicy.ofJson json)
    return { draft with nulls }
  | _ => .ok draft

/-- Reads a sort level.  Its key may be empty here, and without a policy none is asked for. -/
def ofJson (json : Json) : Read SortLevel := do
  let fields ← json.readFields ["key", "direction", "nulls"]
  let draft ← fields.foldlM Draft.add ⟨none, none, none⟩
  let key ← Json.required draft.key
  let direction ← Json.required draft.direction
  return ⟨key, direction, draft.nulls.getD .unspecified⟩

end SortLevel

namespace SortChain

/-- A sort chain as JSON: the array of its levels. -/
def toJson (chain : SortChain) : Json :=
  .array (chain.levels.map SortLevel.toJson)

/-- Reads a chain.  Keys may be empty here. -/
def ofJson (json : Json) : Read SortChain :=
  (json.readList SortLevel.ofJson).map mk

end SortChain

/-! ## Paths -/

/-- An include path as JSON: its text. -/
def IncludePath.toJson (path : IncludePath) : Json :=
  .string path.text

/-- Reads an include path from its text, which is checked. -/
def IncludePath.ofJson (json : Json) : Read IncludePath := do
  let text ← json.readString
  Json.checked (parse text)

/-! ## Parts -/

namespace SpecificationParts

/-- The parts of a specification as JSON.  A part that asks for nothing is left out. -/
def toJson (parts : SpecificationParts) : Json :=
  .object <|
    [("var", .string parts.var.name)] ++
    (parts.criteria.map fun p ↦ ("criteria", p.toJson)).toList ++
    (if parts.sorts.isEmpty then [] else [("sorts", parts.sorts.toJson)]) ++
    (parts.skip.map fun n ↦ ("skip", Json.ofUInt64 n)).toList ++
    (parts.take.map fun n ↦ ("take", Json.ofUInt64 n)).toList ++
    (if parts.includes.isEmpty then []
      else [("includes", .array (parts.includes.map IncludePath.toJson))])

/-- What was read of the parts so far. -/
structure Draft where
  var : Option Variable
  criteria : Option Criteria
  sorts : Option SortChain
  skip : Option (Option UInt64)
  take : Option (Option UInt64)
  includes : Option (List IncludePath)

namespace Draft

/-- A draft in which nothing was read. -/
def start : Draft := ⟨none, none, none, none, none, none⟩

/-- Adds a field of a specification. -/
def add (draft : Draft) : String × Json → Read Draft
  | ("var", json) => do
    let v ← Json.setOnce draft.var (json.readString.map Variable.mk)
    return { draft with var := v }
  | ("criteria", json) => do
    let criteria ← Json.setOnce draft.criteria (json.readOption Predicate.ofJson)
    return { draft with criteria }
  | ("sorts", json) => do
    let sorts ← Json.setOnce draft.sorts (SortChain.ofJson json)
    return { draft with sorts }
  | ("skip", json) => do
    let skip ← Json.setOnce draft.skip (json.readOption Json.readUInt64)
    return { draft with skip }
  | ("take", json) => do
    let take ← Json.setOnce draft.take (json.readOption Json.readUInt64)
    return { draft with take }
  | ("includes", json) => do
    let includes ← Json.setOnce draft.includes (json.readList IncludePath.ofJson)
    return { draft with includes }
  | _ => .ok draft

/-- The parts, with what is missing not asked for. -/
def finish (draft : Draft) : SpecificationParts where
  var := draft.var.getD .default
  criteria := draft.criteria.getD none
  sorts := draft.sorts.getD .empty
  skip := draft.skip.getD none
  take := draft.take.getD none
  includes := orderedSet (draft.includes.getD [])

end Draft

/-- The names of the fields, in order. -/
def fieldNames : List String := ["var", "criteria", "sorts", "skip", "take", "includes"]

/-- Reads the parts of a specification, which are not yet checked. -/
def ofJson (json : Json) : Read SpecificationParts := do
  let fields ← json.readFields fieldNames
  let draft ← fields.foldlM Draft.add .start
  return draft.finish

end SpecificationParts

namespace Specification

/-- A specification as JSON. -/
def toJson (s : Specification) : Json :=
  s.toParts.toJson

/-- The text of a specification as JSON. -/
def jsonText (s : Specification) : String :=
  s.toJson.text

/-- Reads a specification from a whole text. -/
def ofJsonText (text : String) : Read Specification :=
  Json.readTextChecked SpecificationParts.ofJson (fun parts ↦ Json.checked (ofParts parts)) text

end Specification
end Sift
