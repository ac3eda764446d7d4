import Sift.CriteriaChain
import Sift.IncludePath
import Sift.Sort
import Sift.Window

/-!
# Specifications

A `Specification` is all that one query asks for: criteria over a variable, a sort chain, a window
and the relations to load along.  Specifications are values; `and`, `or` and `not` make new ones
that carry criteria only, over the variable of the first operand.

`SpecificationParts` is the same data before it is checked.  `Specification.ofParts` lets through
what is well formed: criteria closed over the variable, sort keys that are not empty and a window
that does not take zero.
-/

set_option autoImplicit false
namespace Sift

/-- What one query asks for.  Paths are in order, each once. -/
structure Specification where
  var : Variable
  criteria : Criteria
  sorts : SortChain
  window : Window
  includes : List IncludePath
deriving DecidableEq

namespace Specification

instance : Inhabited Specification := ⟨⟨.default, none, .empty, .unbounded, []⟩⟩

/-- Specifications are equal when their parts are, criteria up to the form of their numbers. -/
instance : BEq Specification where
  beq a b := a.var == b.var && a.criteria == b.criteria && a.sorts == b.sorts &&
    a.window == b.window && a.includes == b.includes

/-! ## Simple specifications -/

/-- A specification with nothing but criteria. -/
def ofCriteria (var : Variable) (criteria : Criteria) : Specification :=
  ⟨var, criteria, .empty, .unbounded, []⟩

/-- What every entity satisfies. -/
def all : Specification := ofCriteria .default none

/-- What no entity satisfies. -/
def none : Specification := ofCriteria .default (some .never)

/-- The default specification asks for nothing. -/
def default : Specification := all

/-- Whether a specification has no criteria, so that every entity satisfies it. -/
def matchesAll (s : Specification) : Bool := s.criteria.isNone

/-- Whether an entity satisfies the criteria. -/
def isSatisfiedBy {α : Type} [Entity α] (s : Specification) (entity : α) : Bool :=
  s.criteria.eval s.var entity

/-! ## Composition -/

/-- What both specifications ask of an entity, over the variable of the first. -/
def and (a b : Specification) : Specification :=
  ofCriteria a.var (Criteria.both a.criteria a.var b.criteria b.var)

/-- What one of two specifications asks of an entity, over the variable of the first. -/
def or (a b : Specification) : Specification :=
  ofCriteria a.var (Criteria.either a.criteria a.var b.criteria b.var)

/-- What a specification does not allow, over its variable. -/
def not (a : Specification) : Specification :=
  ofCriteria a.var a.criteria.negation

/-! ## Text -/

/-- How a specification is shown; parts that ask for nothing are left out. -/
def text (s : Specification) : String :=
  let criteria := s.criteria.elim "true" Predicate.text
  let sorts := if s.sorts.isEmpty then "" else " order by " ++ s.sorts.text
  let skip := s.window.skip.elim "" fun n ↦ " skip " ++ decimalText n.toNat
  let take := s.window.take.elim "" fun n ↦ " take " ++ decimalText n.toNat
  let includes := String.join (s.includes.map fun path ↦ " include " ++ path.text)
  s.var.name ++ " where " ++ criteria ++ sorts ++ skip ++ take ++ includes

end Specification

/-! ## Parts -/

/-- The parts of a specification, not yet checked. -/
structure SpecificationParts where
  var : Variable
  criteria : Criteria
  sorts : SortChain
  skip : Option UInt64
  take : Option UInt64
  includes : List IncludePath
deriving DecidableEq

namespace SpecificationParts

/-- The parts of the default specification. -/
def default : SpecificationParts := ⟨.default, .none, .empty, .none, .none, []⟩

instance : Inhabited SpecificationParts := ⟨default⟩

end SpecificationParts

namespace Specification

/-- The first variable, in name order, that criteria read from and `var` does not bind. -/
def unboundVariable? (var : Variable) (criteria : Criteria) : Option Variable :=
  criteria.bind fun p ↦ p.freeVariables.find? (· != var)

/-- Checks parts: criteria first, then sort keys, then the window. -/
def ofParts (parts : SpecificationParts) : Except SpecError Specification :=
  match unboundVariable? parts.var parts.criteria with
  | some v => .error (.unboundVariable v)
  | Option.none => do
    let sorts ← SortChain.ofLevels parts.sorts.levels
    let window ← Window.new parts.skip parts.take
    return ⟨parts.var, parts.criteria, sorts, window, parts.includes⟩

/-- The parts a specification is made of. -/
def toParts (s : Specification) : SpecificationParts :=
  ⟨s.var, s.criteria, s.sorts, s.window.skip, s.window.take, s.includes⟩

end Specification
end Sift
