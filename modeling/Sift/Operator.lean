import Sift.Value

/-!
# Operators of a clause

Sixteen operators, three of which are other names: *before* is *less*, *after* is *greater* and
*is* is *equal*.  A comparison is decided by how the field compares to the operand
(`Operator.accepts`); the other operators accept no ordering.
-/

set_option autoImplicit false
namespace Sift

/-- How a clause compares a field to its operand. -/
inductive Operator where
  | equal
  | notEqual
  | greater
  | greaterOrEqual
  | less
  | lessOrEqual
  | startsWith
  | endsWith
  | contains
  | pattern
  | before
  | after
  | oneOf
  | is
  | isNull
  | notNull
deriving DecidableEq, Repr

namespace Operator

/-- All operators. -/
def every : List Operator :=
  [.equal, .notEqual, .greater, .greaterOrEqual, .less, .lessOrEqual, .startsWith, .endsWith,
   .contains, .pattern, .before, .after, .oneOf, .is, .isNull, .notNull]

/-- Whether an operator looks only at whether the field is null. -/
def isNullCheck : Operator → Bool
  | .isNull | .notNull => true
  | _ => false

/-- The operator that another name stands for. -/
def normal : Operator → Operator
  | .before => .less
  | .after => .greater
  | .is => .equal
  | operator => operator

/-- Whether a comparison holds when the field compares so to the operand. -/
def accepts (operator : Operator) (ordering : Ordering) : Bool :=
  match operator.normal with
  | .equal => ordering.isEq
  | .notEqual => ordering.isNe
  | .greater => ordering.isGT
  | .greaterOrEqual => ordering.isGE
  | .less => ordering.isLT
  | .lessOrEqual => ordering.isLE
  | _ => false

/-- The name an operator is stored and shown under. -/
def name : Operator → String
  | .equal => "eq"
  | .notEqual => "ne"
  | .greater => "gt"
  | .greaterOrEqual => "gte"
  | .less => "lt"
  | .lessOrEqual => "lte"
  | .startsWith => "starts_with"
  | .endsWith => "ends_with"
  | .contains => "contains"
  | .pattern => "regex"
  | .before => "before"
  | .after => "after"
  | .oneOf => "in"
  | .is => "is"
  | .isNull => "is_null"
  | .notNull => "not_null"

/-- The operator that is stored under a name. -/
def ofName? (name : String) : Option Operator :=
  every.find? (·.name == name)

theorem mem_every (operator : Operator) : operator ∈ every := by
  cases operator <;> decide

theorem name_injective {a b : Operator} (h : a.name = b.name) : a = b := by
  cases a <;> cases b <;> first | rfl | exact absurd h (by decide)

theorem ofName?_name (operator : Operator) : ofName? operator.name = some operator := by
  cases operator <;> decide

end Operator
end Sift
