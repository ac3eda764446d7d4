import Sift.Evaluation.Config
import Sift.Event
import Sift.Source

/-!
# Stages

A stage looks after one concern of a specification: from what is evaluated, what for and under
which settings, it decides what to ask of the source and what to log.  It never sees the source
itself, so it treats every source alike.

The stages of `Stage.pipeline`, in their order:

* `Stage.filter` asks for the criteria, if there are any;
* `Stage.order` asks for the sort chain, unless only a number is wanted and there is no window;
* `Stage.loading` asks for the paths, if entities are wanted;
* `Stage.pagination` skips and then takes, never more than the settings allow.
-/

set_option autoImplicit false
namespace Sift

/-- What a stage may look at. -/
structure StageContext where
  spec : Specification
  intent : Intent
  config : EvaluatorConfig

/-- A step of an evaluation. -/
structure Stage where
  /-- The name a stage is logged under. -/
  name : String
  /-- What is asked of the source, in order. -/
  calls : StageContext → List SourceCall
  /-- What is logged. -/
  events : StageContext → List Event

namespace StageContext

/-- Whether there is an order that nothing can depend on. -/
def orderIsUnneeded (context : StageContext) : Bool :=
  !context.spec.sorts.isEmpty && !context.intent.materializes && context.spec.window.isUnbounded

/-- What the settings leave of the number to take. -/
def cappedTake (context : StageContext) : Option UInt64 :=
  match context.spec.window.take, context.config.maxTake with
  | some take, some max => some (if take > max then max else take)
  | take, _ => take

end StageContext

namespace Stage

/-- The stage that asks for the criteria, if there are any. -/
def filter : Stage where
  name := "filter"
  calls context := (context.spec.criteria.map (.filter context.spec.var)).toList
  events _ := []

/-- The stage that asks for the sort, unless the outcome cannot depend on it. -/
def order : Stage where
  name := "order"
  calls context :=
    if context.spec.sorts.isEmpty || context.orderIsUnneeded then []
    else [.orderBy context.spec.sorts.levels]
  events context := if context.orderIsUnneeded then [.orderingUnneeded context.intent] else []

/-- The stage that asks for the related data, where entities are what is wanted. -/
def loading : Stage where
  name := "include"
  calls context :=
    if context.intent.materializes then context.spec.includes.map .load else []
  events _ := []

/-- The stage that asks for the window, within the limit on how much may be taken. -/
def pagination : Stage where
  name := "pagination"
  calls context :=
    (context.spec.window.skip.map .skip).toList ++ (context.cappedTake.map .take).toList
  events context :=
    let window := context.spec.window
    let unstable := !window.isUnbounded && context.spec.sorts.isEmpty &&
      context.config.warnUnorderedPaging
    (if unstable then [.unstableWindow window] else []) ++
    match window.take, context.config.maxTake with
    | some take, some max => if take > max then [.cappingTake take max] else []
    | _, _ => []

/-- The stages of an ordinary evaluation. -/
def pipeline : List Stage := [filter, order, loading, pagination]

end Stage
end Sift
