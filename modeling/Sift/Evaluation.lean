import Sift.Evaluation.Stage

/-!
# Evaluation

An `Evaluator` runs specifications through stages against a source: `Evaluator.calls` is all that
it asks of a source, whichever that is, and `Evaluator.run` asks it.

`Specification.filter`, `filterCopied`, `count`, `any` and `find?` evaluate with the ordinary
stages and settings over a list.
-/

set_option autoImplicit false
namespace Sift

/-- Stages to go through and the settings they see. -/
structure Evaluator where
  stages : List Stage
  config : EvaluatorConfig

namespace Evaluator

/-- The ordinary stages under given settings. -/
def ofConfig (config : EvaluatorConfig) : Evaluator := ⟨Stage.pipeline, config⟩

/-- The evaluator of the default configuration. -/
def default : Evaluator := ofConfig .default

/-- The names of the stages, in the order in which they are applied. -/
def stageNames (evaluator : Evaluator) : List String :=
  evaluator.stages.map Stage.name

/-- What the stages of an evaluator are told about one evaluation. -/
def context (evaluator : Evaluator) (spec : Specification) (intent : Intent) : StageContext :=
  ⟨spec, intent, evaluator.config⟩

/-- All that is asked of a source, in order. -/
def calls (evaluator : Evaluator) (spec : Specification) (intent : Intent) : List SourceCall :=
  evaluator.stages.flatMap fun stage ↦ stage.calls (evaluator.context spec intent)

/-- Runs a specification against a source. -/
def run {σ : Type} [QuerySource σ] (evaluator : Evaluator) (spec : Specification)
    (intent : Intent) (source : σ) : σ :=
  SourceCall.performAll (evaluator.calls spec intent) source

/-- All that is logged, in order. -/
def events (evaluator : Evaluator) (spec : Specification) (intent : Intent) : List Event :=
  .evaluating intent spec evaluator.stages.length ::
    evaluator.stages.flatMap fun stage ↦
      .applyingStage stage.name intent :: stage.events (evaluator.context spec intent)

end Evaluator

/-! ## Evaluation over a list -/

namespace Specification

/-- The source in memory that the ordinary evaluation leaves. -/
def evaluate {α : Type} [Entity α] (s : Specification) (intent : Intent) (entities : List α) :
    MemorySource α :=
  Evaluator.default.run s intent (.ofList entities)

/-- The entities that a specification asks for. -/
def filter {α : Type} [Entity α] (s : Specification) (entities : List α) : List α :=
  (s.evaluate .fetch entities).items

/-- Copies of the entities that a specification asks for. -/
def filterCopied {α β : Type} [Entity α] (copy : α → β) (s : Specification) (entities : List α) :
    List β :=
  (s.filter entities).map copy

/-- How many entities a specification asks for. -/
def count {α : Type} [Entity α] (s : Specification) (entities : List α) : Nat :=
  (s.evaluate .count entities).size

/-- Whether a specification asks for any entity. -/
def any {α : Type} [Entity α] (s : Specification) (entities : List α) : Bool :=
  !(s.evaluate .exists entities).isEmpty

/-- The first entity that a specification asks for. -/
def find? {α : Type} [Entity α] (s : Specification) (entities : List α) : Option α :=
  (s.evaluate .fetch entities).first?

end Specification
end Sift
