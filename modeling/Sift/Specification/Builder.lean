import Sift.Specification

/-!
# Building specifications

A builder has one part for each concern of a specification — a criteria chain, a sort chain, a
window and a set of paths — and each step changes one of them or fails.  `BuilderStep` makes
programs of steps a data type and `SpecificationBuilder.run` runs a program up to the first error;
`build` cannot fail.
-/

set_option autoImplicit false
namespace Sift

/-- A specification under construction. -/
structure SpecificationBuilder where
  criteria : CriteriaChain
  sorts : SortChain
  window : Window
  includes : List IncludePath
deriving DecidableEq

/-- A step of a builder. -/
inductive BuilderStep where
  | boundTo (var : Variable)
  | criteria (steps : List ChainStep)
  | addWhere (clause : Clause)
  | sort (step : SortStep)
  | skip (count : UInt64)
  | take (count : UInt64)
  | page (number size : UInt64)
  | addInclude (path : String)

namespace SpecificationBuilder

/-- A builder over the default variable that asks for nothing. -/
def new : SpecificationBuilder := ⟨.new, .empty, .unbounded, []⟩

/-! ## Steps -/

/-- Binds another variable, dropping the criteria so far. -/
def boundTo (b : SpecificationBuilder) (var : Variable) : SpecificationBuilder :=
  { b with criteria := .boundTo var }

/-- Goes on with the criteria chain. -/
def withCriteria (b : SpecificationBuilder)
    (extend : CriteriaChain → Except SpecError CriteriaChain) :
    Except SpecError SpecificationBuilder := do
  let criteria ← extend b.criteria
  return { b with criteria }

/-- Goes on with the sort chain. -/
def withSorts (b : SpecificationBuilder) (extend : SortChain → Except SpecError SortChain) :
    Except SpecError SpecificationBuilder := do
  let sorts ← extend b.sorts
  return { b with sorts }

/-- Sets how many results to skip. -/
def skip (b : SpecificationBuilder) (count : UInt64) : SpecificationBuilder :=
  { b with window := b.window.withSkip count }

/-- Sets how many results to take, which may not be none. -/
def take (b : SpecificationBuilder) (count : UInt64) : Except SpecError SpecificationBuilder := do
  let window ← b.window.withTake count
  return { b with window }

/-- Replaces the window by that of a page. -/
def page (b : SpecificationBuilder) (number size : UInt64) :
    Except SpecError SpecificationBuilder := do
  let page ← Page.new number size
  return { b with window := .ofPage page }

/-- Adds a path to load; one that is there already changes nothing. -/
def addInclude (b : SpecificationBuilder) (path : String) :
    Except SpecError SpecificationBuilder := do
  let path ← IncludePath.parse path
  return { b with includes := insertOrdered path b.includes }

/-- Does one step of a builder's program. -/
def runStep (b : SpecificationBuilder) : BuilderStep → Except SpecError SpecificationBuilder
  | .boundTo var => .ok (b.boundTo var)
  | .criteria steps => b.withCriteria (·.run steps)
  | .addWhere clause => b.withCriteria (·.addWhere clause)
  | .sort step => b.withSorts (·.runStep step)
  | .skip count => .ok (b.skip count)
  | .take count => b.take count
  | .page number size => b.page number size
  | .addInclude path => b.addInclude path

/-- Runs a program up to the first error. -/
def run (b : SpecificationBuilder) : List BuilderStep → Except SpecError SpecificationBuilder
  | [] => .ok b
  | step :: steps =>
    match b.runStep step with
    | .ok next => run next steps
    | .error error => .error error

/-! ## The ends -/

/-- The specification that was built. -/
def build (b : SpecificationBuilder) : Specification :=
  ⟨b.criteria.var, b.criteria.tree, b.sorts, b.window, b.includes⟩

end SpecificationBuilder

/-- The builder that goes on from a specification. -/
def Specification.toBuilder (s : Specification) : SpecificationBuilder :=
  ⟨.resume s.var s.criteria, s.sorts, s.window, s.includes⟩

end Sift
