import Sift.Proofs.Reachable

/-!
# Composition is boolean logic

`Composite` is what can be written with the connectives over a family of specifications.  A
composite can be read in two ways: composed to one specification (`Composite.compose`), or decided
with a truth value for each member of the family (`Composite.truth`).
`Composite.isHomomorphism` says that the two agree for every entity, whatever variables the members
bind, and what the composed specification carries.
-/

set_option autoImplicit false
namespace Sift

/-! ## One connective -/

namespace Specification

variable {α : Type} [Entity α] {a b : Specification}

theorem isSatisfiedBy_and (hb : b.WellFormed) (entity : α) :
    (a.and b).isSatisfiedBy entity = (a.isSatisfiedBy entity && b.isSatisfiedBy entity) :=
  Criteria.eval_both hb.closed entity

theorem isSatisfiedBy_or (hb : b.WellFormed) (entity : α) :
    (a.or b).isSatisfiedBy entity = (a.isSatisfiedBy entity || b.isSatisfiedBy entity) :=
  Criteria.eval_either hb.closed entity

theorem isSatisfiedBy_not (entity : α) :
    a.not.isSatisfiedBy entity = !a.isSatisfiedBy entity :=
  Criteria.eval_negation entity

end Specification

/-! ## Expressions -/

/-- An expression over a family with members named by `ι`. -/
inductive Composite (ι : Type) where
  | base (i : ι)
  | and (left right : Composite ι)
  | or (left right : Composite ι)
  | not (operand : Composite ι)

namespace Composite

variable {ι : Type}

/-- The specification that an expression composes. -/
def compose (specs : ι → Specification) : Composite ι → Specification
  | .base i => specs i
  | .and left right => (left.compose specs).and (right.compose specs)
  | .or left right => (left.compose specs).or (right.compose specs)
  | .not operand => (operand.compose specs).not

/-- The truth value of an expression, given those of the members. -/
def truth (value : ι → Bool) : Composite ι → Bool
  | .base i => value i
  | .and left right => left.truth value && right.truth value
  | .or left right => left.truth value || right.truth value
  | .not operand => !operand.truth value

/-- The member that stands first. -/
def leftmost : Composite ι → ι
  | .base i => i
  | .and left _ | .or left _ => left.leftmost
  | .not operand => operand.leftmost

/-- Whether an expression is more than one of its specifications. -/
def hasOperator : Composite ι → Bool
  | .base _ => false
  | .and _ _ | .or _ _ | .not _ => true

section Compose

variable (specs : ι → Specification)

theorem var_compose (e : Composite ι) : (e.compose specs).var = (specs e.leftmost).var := by
  induction e with
  | base i => rfl
  | and left right ihl _ => exact ihl
  | or left right ihl _ => exact ihl
  | not operand ih => exact ih

/-- An operator leaves nothing but criteria. -/
theorem compose_of_hasOperator {e : Composite ι} (h : e.hasOperator = true) :
    e.compose specs = .ofCriteria (e.compose specs).var (e.compose specs).criteria := by
  cases e with
  | base i => cases h
  | and left right => rfl
  | or left right => rfl
  | not operand => rfl

end Compose

variable {specs : ι → Specification} (hspecs : ∀ i, (specs i).Reachable)
include hspecs

theorem reachable_compose (e : Composite ι) : (e.compose specs).Reachable := by
  induction e with
  | base i => exact hspecs i
  | and left right ihl ihr => exact .and ihl ihr
  | or left right ihl ihr => exact .or ihl ihr
  | not operand ih => exact .not ih

theorem isSatisfiedBy_compose {α : Type} [Entity α] (entity : α) (e : Composite ι) :
    (e.compose specs).isSatisfiedBy entity = e.truth fun i ↦ (specs i).isSatisfiedBy entity := by
  induction e with
  | base i => rfl
  | and left right ihl ihr =>
    have hright := (reachable_compose hspecs right).wellFormed
    rw [compose, Specification.isSatisfiedBy_and hright, ihl, ihr, truth]
  | or left right ihl ihr =>
    have hright := (reachable_compose hspecs right).wellFormed
    rw [compose, Specification.isSatisfiedBy_or hright, ihl, ihr, truth]
  | not operand ih => rw [compose, Specification.isSatisfiedBy_not, ih, truth]

/-- **Composition is a homomorphism to boolean logic.**  For every expression over reachable
specifications, an entity satisfies the composed specification when the expression is true of the
members that it satisfies.  The composed specification binds the variable of the leftmost member,
its criteria are closed over it, and with an operator there is nothing else to it. -/
theorem isHomomorphism (e : Composite ι) :
    (∀ (α : Type) [Entity α] (entity : α), (e.compose specs).isSatisfiedBy entity =
      e.truth fun i ↦ (specs i).isSatisfiedBy entity) ∧
    (e.compose specs).var = (specs e.leftmost).var ∧
    (e.compose specs).criteria.isClosedOver (specs e.leftmost).var = true ∧
    (e.hasOperator = true → (e.compose specs).sorts = .empty ∧
      (e.compose specs).window = .unbounded ∧ (e.compose specs).includes = []) := by
  refine ⟨fun _ _ entity ↦ isSatisfiedBy_compose hspecs entity e, var_compose specs e, ?_,
    fun h ↦ ?_⟩
  · rw [← var_compose specs e]
    exact (reachable_compose hspecs e).wellFormed.closed
  · rw [compose_of_hasOperator specs h]
    exact ⟨rfl, rfl, rfl⟩

end Composite

/-! ## Records -/

/-- An entity that is nothing but what its fields read as. -/
structure Record where
  read : String → Value

/-- A record has the fields it was given. -/
instance : Entity Record := ⟨Record.read⟩

/-- The specification that a flag is set, over a variable of the flag's name, with a window. -/
def flagIsSet (flag : String) : Specification :=
  ⟨⟨flag⟩, some (.leaf ⟨flag⟩ ⟨flag, .equal, .bool true⟩), .empty, ⟨none, some 5⟩, []⟩

theorem reachable_flagIsSet (flag : String) : (flagIsSet flag).Reachable := by
  have hclosed : (flagIsSet flag).criteria.isClosedOver ⟨flag⟩ = true := by
    simp [flagIsSet, Criteria.isClosedOver]
  exact @Specification.Reachable.ofParts (flagIsSet flag).toParts _ .empty
    (Specification.ofParts_eq_ok.mpr ⟨hclosed, nofun, nofun, rfl⟩)

/-- Members over the variables `p` and `q`, and a record that only has the flag `p`. -/
theorem Composite.isHomomorphism_flags :
    let e : Composite String := .not (.or (.not (.base "p")) (.base "q"))
    let record : Record := ⟨fun name ↦ .bool (name == "p")⟩
    (e.compose flagIsSet).isSatisfiedBy record = true ∧
      (e.compose flagIsSet).var = ⟨"p"⟩ ∧ (e.compose flagIsSet).window = .unbounded := by
  intro e record
  obtain ⟨hvalue, hvar, -, hplain⟩ := isHomomorphism reachable_flagIsSet e
  refine ⟨?_, hvar, (hplain rfl).2.1⟩
  rw [hvalue]
  rfl

end Sift
