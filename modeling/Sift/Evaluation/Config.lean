import Sift.Clause.Json

/-!
# Settings of an evaluation

Settings are stored as a record of both fields.  Reading takes the default for a field that is
missing.
-/

set_option autoImplicit false
namespace Sift

/-- How an evaluation treats windows. -/
structure EvaluatorConfig where
  /-- Whether a window over unsorted results is worth a warning. -/
  warnUnorderedPaging : Bool
  /-- What no window may take more of. -/
  maxTake : Option UInt64
deriving DecidableEq

namespace EvaluatorConfig

/-- Warnings and no limit. -/
def default : EvaluatorConfig := ⟨true, none⟩

instance : Inhabited EvaluatorConfig := ⟨default⟩

/-! ## JSON -/

/-- A configuration as JSON.  Without a limit the limit is null. -/
def toJson (config : EvaluatorConfig) : Json :=
  .object [("warn_unordered_paging", .bool config.warnUnorderedPaging),
    ("max_take", config.maxTake.elim .null .ofUInt64)]

/-- What was read of the settings so far. -/
structure Draft where
  warnUnorderedPaging : Option Bool
  maxTake : Option (Option UInt64)

/-- Adds a field of a configuration. -/
def Draft.add (draft : Draft) : String × Json → Read Draft
  | ("warn_unordered_paging", json) => do
    let warnUnorderedPaging ← Json.setOnce draft.warnUnorderedPaging json.readBool
    return { draft with warnUnorderedPaging }
  | ("max_take", json) => do
    let maxTake ← Json.setOnce draft.maxTake (json.readOption Json.readUInt64)
    return { draft with maxTake }
  | _ => .ok draft

/-- Reads a configuration.  What is not given is as in the default one. -/
def ofJson (json : Json) : Read EvaluatorConfig := do
  let fields ← json.readFields ["warn_unordered_paging", "max_take"]
  let draft ← fields.foldlM Draft.add ⟨none, none⟩
  return ⟨draft.warnUnorderedPaging.getD default.warnUnorderedPaging,
    draft.maxTake.getD default.maxTake⟩

end EvaluatorConfig
end Sift
