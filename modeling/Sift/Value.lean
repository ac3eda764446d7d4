import Sift.Number

/-!
# Field values

A `Value` is what an entity has in one of its fields.  `Value.compare` orders values of one kind
by what they hold and values of different kinds by kind, with null after everything.
-/

set_option autoImplicit false
namespace Sift

/-- Milliseconds from the epoch. -/
structure Timestamp where
  millis : Int64
deriving DecidableEq

namespace Timestamp

/-- The timestamp of a whole second, if it is in range. -/
def ofSeconds? (seconds : Int64) : Option Timestamp :=
  let millis := seconds.toInt * 1000
  if Int64.minValue.toInt ≤ millis ∧ millis ≤ Int64.maxValue.toInt then some ⟨.ofInt millis⟩
  else none

/-- Timestamps are ordered by their milliseconds. -/
instance : Ord Timestamp := ⟨fun a b ↦ compare a.millis.toInt b.millis.toInt⟩

end Timestamp

/-- The value of a field. -/
inductive Value where
  | string (text : String)
  | number (number : Number)
  | timestamp (timestamp : Timestamp)
  | enumeration (discriminant : UInt32)
  | bool (value : Bool)
  | null
deriving DecidableEq

namespace Value

instance : Inhabited Value := ⟨.null⟩

/-- Whether a value is null. -/
def isNull : Value → Bool
  | .null => true
  | _ => false

/-- Kinds of value in the order they sort. -/
def kindRank : Value → Nat
  | .string _ => 0
  | .number _ => 1
  | .timestamp _ => 2
  | .enumeration _ => 3
  | .bool _ => 4
  | .null => 5

/-- Values are equal when their kinds and contents are, numbers by what they stand for. -/
instance : BEq Value where
  beq
    | .string a, .string b => a == b
    | .number a, .number b => a == b
    | .timestamp a, .timestamp b => a == b
    | .enumeration a, .enumeration b => a == b
    | .bool a, .bool b => a == b
    | .null, .null => true
    | _, _ => false

/-- Within a kind by content, with NaN above every number; otherwise by kind. -/
def compare (a b : Value) : Ordering :=
  match a, b with
  | .string a, .string b => Ord.compare a b
  | .number a, .number b => a.totalCompare b
  | .timestamp a, .timestamp b => Ord.compare a b
  | .enumeration a, .enumeration b => Ord.compare a.toNat b.toNat
  | .bool a, .bool b => Ord.compare a b
  | a, b => Ord.compare a.kindRank b.kindRank

end Value

/-- A type whose fields can be read by name.  A name that is unknown reads as null. -/
class Entity (α : Type) where
  fieldValue : α → String → Value

end Sift
