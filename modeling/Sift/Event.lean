import Sift.Intent
import Sift.Specification.Dump

/-!
# Log events

What composing and evaluating specifications leaves in a log.  An `Event` says what happened;
`Event.level`, `Event.message` and `Event.fields` are how it is logged.

`Specification.andEvents` and `Specification.orEvents` are the events of composing: the criteria
on the right are restated only if the variables differ, and by `or` only if both sides have
criteria.  Negation is not logged.
-/

set_option autoImplicit false
namespace Sift

/-- How much an event matters. -/
inductive EventLevel where
  | trace
  | debug
  | warn
deriving DecidableEq, Repr

/-- The name a level is logged under. -/
def EventLevel.name : EventLevel → String
  | .trace => "TRACE"
  | .debug => "DEBUG"
  | .warn => "WARN"

/-- Something worth logging. -/
inductive Event where
  /-- Two specifications are about to be joined. -/
  | composing (connective : Connective) (left right : Variable)
  /-- A predicate is about to be restated over another variable. -/
  | unifying (source target : Variable) (nodes : Nat)
  /-- A specification is about to go through so many stages. -/
  | evaluating (intent : Intent) (spec : Specification) (stages : Nat)
  | applyingStage (stage : String) (intent : Intent)
  /-- A sort was left out, since nothing can depend on it. -/
  | orderingUnneeded (intent : Intent)
  /-- A window is applied to results in no particular order. -/
  | unstableWindow (window : Window)
  /-- More was asked for than may be taken. -/
  | cappingTake (take max : UInt64)

namespace Event

/-- How much an event matters. -/
def level : Event → EventLevel
  | .composing .. | .unifying .. | .orderingUnneeded _ => .trace
  | .evaluating .. | .applyingStage .. | .cappingTake .. => .debug
  | .unstableWindow _ => .warn

/-- The message an event is logged with. -/
def message : Event → String
  | .composing .and _ _ => "composing specifications with and"
  | .composing .or _ _ => "composing specifications with or"
  | .unifying .. => "unifying predicate tree"
  | .evaluating .. => "evaluating specification"
  | .applyingStage .. => "applying stage"
  | .orderingUnneeded _ => "ordering has no effect without a window"
  | .unstableWindow _ => "paging without a sort chain; the window is not stable"
  | .cappingTake .. => "capping take"

/-- The fields of an event with their texts. -/
def fields : Event → List (String × String)
  | .composing _ left right => [("left", left.name), ("right", right.name)]
  | .unifying source target nodes =>
    [("from", source.name), ("to", target.name), ("nodes", decimalText nodes)]
  | .evaluating intent spec stages =>
    [("intent", intent.name), ("spec", spec.text), ("stages", decimalText stages)]
  | .applyingStage stage intent => [("stage", stage), ("intent", intent.name)]
  | .orderingUnneeded intent => [("intent", intent.name)]
  | .unstableWindow window =>
    [("skip", (Dump.ofCount window.skip).text), ("take", (Dump.ofCount window.take).text)]
  | .cappingTake take max =>
    [("take", decimalText take.toNat), ("max", decimalText max.toNat)]

end Event

/-! ## Composing specifications -/

/-- The events of restating criteria over another variable. -/
def Criteria.renameEvents (source target : Variable) : Criteria → List Event
  | some p => if source = target then [] else [.unifying source target p.size]
  | none => []

namespace Specification

/-- The events of joining two specifications with and. -/
def andEvents (a b : Specification) : List Event :=
  .composing .and a.var b.var :: b.criteria.renameEvents b.var a.var

/-- The events of joining two specifications with or.  Beside one that every entity satisfies
nothing is restated. -/
def orEvents (a b : Specification) : List Event :=
  .composing .or a.var b.var ::
    if a.criteria.isSome then b.criteria.renameEvents b.var a.var else []

end Specification
end Sift
