import Sift.Operator
import Sift.Regex.Pattern
import Sift.Text.Quoted

/-!
# Clauses

A `Clause` is one condition: a field, an operator and an operand.  `Clause.holds` decides it for a
field value.  Null satisfies only the check for null, and an operand of one kind never matches a
value of another, whatever the operator is.
-/

set_option autoImplicit false
namespace Sift

/-- What a clause compares a field to. -/
inductive Operand where
  | string (text : String)
  | number (number : Number)
  | timestamp (timestamp : Timestamp)
  | enumeration (discriminant : UInt32)
  | enumerationSet (discriminants : List UInt32)
  | bool (value : Bool)
  | pattern (pattern : Pattern)
  | null
deriving DecidableEq

namespace Operand

instance : Inhabited Operand := ⟨.null⟩

/-- Operands are equal when their kinds and contents are: numbers by what they stand for, patterns
by their text. -/
instance : BEq Operand where
  beq
    | .string a, .string b => a == b
    | .number a, .number b => a == b
    | .timestamp a, .timestamp b => a == b
    | .enumeration a, .enumeration b => a == b
    | .enumerationSet a, .enumerationSet b => a == b
    | .bool a, .bool b => a == b
    | .pattern a, .pattern b => a.source == b.source
    | .null, .null => true
    | _, _ => false

/-- Discriminants with commas between them. -/
def listText (discriminants : List UInt32) : String :=
  "[" ++ ", ".intercalate (discriminants.map fun d ↦ decimalText d.toNat) ++ "]"

/-- How an operand is shown: text in quotes, a timestamp after `@`, a discriminant after `#`, a
pattern between slashes. -/
def text : Operand → String
  | .string s => Text.quoted s
  | .number n => n.text
  | .timestamp t => "@" ++ Number.integerText t.millis.toInt
  | .enumeration d => "#" ++ decimalText d.toNat
  | .enumerationSet ds => listText ds
  | .bool value => if value then "true" else "false"
  | .pattern p => "/" ++ p.source ++ "/"
  | .null => "null"

end Operand

/-- A condition on one field. -/
structure Clause where
  field : String
  operator : Operator
  operand : Operand
deriving DecidableEq

namespace Clause

/-- Clauses are equal when their parts are, operands up to the form of their numbers. -/
instance : BEq Clause where
  beq a b := a.field == b.field && a.operator == b.operator && a.operand == b.operand

/-! ## Deciding a clause -/

/-- Whether a text occurs in another. -/
def occursIn (part text : List Char) : Bool :=
  match text with
  | [] => part.isEmpty
  | _ :: rest => part.isPrefixOf text || occursIn part rest

/-- A text against a text operand. -/
def holdsForText (operator : Operator) (field operand : String) : Bool :=
  match operator.normal with
  | .startsWith => operand.toList.isPrefixOf field.toList
  | .endsWith => operand.toList.isSuffixOf field.toList
  | .contains => occursIn operand.toList field.toList
  | operator => operator.accepts (compare field operand)

/-- Operators that ask only whether two things are the same. -/
def holdsForEquality (operator : Operator) (same : Bool) : Bool :=
  match operator.normal with
  | .equal => same
  | .notEqual => !same
  | _ => false

/-- Whether a clause that is no check for null holds. -/
def holdsForOperand (clause : Clause) (value : Value) : Bool :=
  match clause.operand, value with
  | .string operand, .string field => holdsForText clause.operator field operand
  | .pattern p, .string field => clause.operator == .pattern && p.matchesIn field
  | .number operand, .number field => (field.compare? operand).any clause.operator.accepts
  | .timestamp operand, .timestamp field => clause.operator.accepts (compare field operand)
  | .enumeration operand, .enumeration field =>
    holdsForEquality clause.operator (field == operand)
  | .enumerationSet operands, .enumeration field =>
    clause.operator == .oneOf && operands.contains field
  | .bool operand, .bool field => holdsForEquality clause.operator (field == operand)
  | _, _ => false

/-- Whether a clause holds for a field value. -/
def holds (clause : Clause) (value : Value) : Bool :=
  match clause.operator with
  | .isNull => value.isNull
  | .notNull => !value.isNull
  | _ => clause.holdsForOperand value

/-! ## Text -/

/-- How a clause is shown; a check for null shows no operand. -/
def text (clause : Clause) : String :=
  let head := clause.field ++ " " ++ clause.operator.name
  if clause.operator.isNullCheck then head else head ++ " " ++ clause.operand.text

end Clause
end Sift
