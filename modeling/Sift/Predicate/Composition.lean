import Sift.Predicate

/-!
# Combining predicates of different variables

Two predicates can share a connective only over one variable, so the second is restated first:
`Predicate.rename` replaces a variable in every leaf.  There are no binders, so nothing can be
captured.

Criteria are optional predicates, where none stands for what every entity satisfies.
`Criteria.both`, `Criteria.either` and `Criteria.negation` are the connectives on them.
-/

set_option autoImplicit false
namespace Sift

/-- The predicate with `target` in place of `source` in every leaf. -/
def Predicate.rename (source target : Variable) : Predicate → Predicate
  | .leaf v clause => .leaf (if v = source then target else v) clause
  | .and left right => .and (left.rename source target) (right.rename source target)
  | .or left right => .or (left.rename source target) (right.rename source target)
  | .not operand => .not (operand.rename source target)
  | .never => .never

theorem Predicate.rename_self (v : Variable) (p : Predicate) : p.rename v v = p := by
  induction p with
  | leaf w clause => by_cases h : w = v <;> simp [rename, h]
  | and left right ihl ihr => simp [rename, ihl, ihr]
  | or left right ihl ihr => simp [rename, ihl, ihr]
  | not operand ih => simp [rename, ih]
  | never => rfl

/-- A predicate or, if there is none, what every entity satisfies. -/
abbrev Criteria := Option Predicate

namespace Criteria

/-- Whether criteria hold with `var` bound to an entity. -/
def eval {α : Type} [Entity α] (var : Variable) (entity : α) (criteria : Criteria) : Bool :=
  criteria.all (·.eval var entity)

/-- Both criteria, over the variable of the first.  None on one side leaves the other. -/
def both (a : Criteria) (aVar : Variable) (b : Criteria) (bVar : Variable) : Criteria :=
  match a, b.map (·.rename bVar aVar) with
  | some p, some q => some (.and p q)
  | some p, none => some p
  | none, q => q

/-- Either criteria, over the variable of the first.  None on one side absorbs the other. -/
def either (a : Criteria) (aVar : Variable) (b : Criteria) (bVar : Variable) : Criteria :=
  match a, b with
  | some p, some q => some (.or p (q.rename bVar aVar))
  | _, _ => none

/-- The opposite criteria.  None and the predicate that never holds are opposites. -/
def negation : Criteria → Criteria
  | none => some .never
  | some .never => none
  | some p => some (.not p)

end Criteria
end Sift
