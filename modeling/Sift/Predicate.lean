import Sift.Clause
import Sift.OrderedSet
import Sift.Variable

/-!
# Predicates

A `Predicate` is a boolean expression whose leaves are clauses on the fields of a variable.
`Predicate.eval` decides it with one variable bound to an entity; a leaf on any other variable is
unbound and does not hold.

`Predicate.leafVariables` and `Predicate.clauses` list what the leaves read, from left to right, and
`Predicate.freeVariables` is the former in name order without repetition.
-/

set_option autoImplicit false
namespace Sift

/-- A boolean expression over clauses. -/
inductive Predicate where
  | leaf (var : Variable) (clause : Clause)
  | and (left right : Predicate)
  | or (left right : Predicate)
  | not (operand : Predicate)
  | never
deriving DecidableEq

namespace Predicate

instance : Inhabited Predicate := ⟨.never⟩

/-- Predicates are equal when they have one shape and equal leaves. -/
def beq : Predicate → Predicate → Bool
  | .leaf v c, .leaf w d => v == w && c == d
  | .and a b, .and c d => a.beq c && b.beq d
  | .or a b, .or c d => a.beq c && b.beq d
  | .not a, .not b => a.beq b
  | .never, .never => true
  | _, _ => false

/-- Predicates are equal when they are built alike, clauses up to the form of their numbers. -/
instance : BEq Predicate := ⟨beq⟩

/-! ## Meaning -/

/-- Whether a predicate holds with `var` bound to an entity. -/
def eval {α : Type} [Entity α] (var : Variable) (entity : α) : Predicate → Bool
  | .leaf v clause => v == var && clause.holds (Entity.fieldValue entity clause.field)
  | .and left right => left.eval var entity && right.eval var entity
  | .or left right => left.eval var entity || right.eval var entity
  | .not operand => !operand.eval var entity
  | .never => false

/-! ## What a predicate reads -/

/-- The variables of the leaves, from left to right. -/
def leafVariables : Predicate → List Variable
  | .leaf v _ => [v]
  | .and left right | .or left right => left.leafVariables ++ right.leafVariables
  | .not operand => operand.leafVariables
  | .never => []

/-- The clauses of the leaves, from left to right. -/
def clauses : Predicate → List Clause
  | .leaf _ clause => [clause]
  | .and left right | .or left right => left.clauses ++ right.clauses
  | .not operand => operand.clauses
  | .never => []

/-- The number of leaves and connectives. -/
def size : Predicate → Nat
  | .leaf _ _ | .never => 1
  | .and left right | .or left right => 1 + left.size + right.size
  | .not operand => 1 + operand.size

/-- The variables of a predicate in name order, each once. -/
def freeVariables (p : Predicate) : List Variable :=
  orderedSet p.leafVariables

/-- Whether every leaf reads from `var`. -/
def isClosedOver (p : Predicate) (var : Variable) : Bool :=
  p.leafVariables.all (· == var)

/-! ## Text -/

/-- How a predicate is shown: `and` and `or` in parentheses, `not` before its operand. -/
def text : Predicate → String
  | .leaf v clause => v.name ++ "." ++ clause.text
  | .and left right => "(" ++ left.text ++ " and " ++ right.text ++ ")"
  | .or left right => "(" ++ left.text ++ " or " ++ right.text ++ ")"
  | .not operand => "not " ++ operand.text
  | .never => "never"

end Predicate
end Sift
