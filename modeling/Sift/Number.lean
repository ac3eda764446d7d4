import Sift.Number.Decimal

/-!
# Numbers

A `Number` keeps the form it was given in: a signed or unsigned 64-bit integer or a double.  Two
numbers compare according to their forms: integers as integers, doubles as doubles, and an integer
to a double by the whole part of the double and then by what is left of it
(`Number.compareIntDouble`).  No integer is rounded on the way, so `5`, unsigned `5` and `5.0` are
equal, and a double next to a large integer is not mistaken for it.

`Number.standing` is where a number stands on the extended real line, whatever its form.

* `Number.totalCompare` is a total order with NaN above everything and equal to itself.
* `Number.compare?` is the same order without NaN, which compares to nothing.
-/

set_option autoImplicit false
namespace Sift

/-- A number in one of three forms. -/
inductive Number where
  | signed (value : Int64)
  | unsigned (value : UInt64)
  | double (value : Double)
deriving DecidableEq

/-- A place on the extended real line, in units of `2 ^ -1074`, or NaN past its upper end. -/
inductive Standing where
  | negativeInfinity
  | finite (units : Int)
  | positiveInfinity
  | nan
deriving DecidableEq

namespace Standing

/-- Places in order from below. -/
def rank : Standing → Nat
  | .negativeInfinity => 0
  | .finite _ => 1
  | .positiveInfinity => 2
  | .nan => 3

/-- The order of places.  Finite ones are compared by their units. -/
def compare : Standing → Standing → Ordering
  | .finite a, .finite b => Ord.compare a b
  | a, b => Ord.compare a.rank b.rank

/-- Places are ordered from below, with not-a-number above all others. -/
instance : Ord Standing := ⟨compare⟩

end Standing

namespace Double

/-- Where a double stands; the two zeros stand at the same place. -/
def standing : Double → Standing
  | .nan => .nan
  | .infinite negative => if negative then .negativeInfinity else .positiveInfinity
  | .finite negative units _ => .finite (signedUnits negative units)

/-- The order of doubles, in which the two zeros are equal and NaN compares to nothing. -/
def compare? (a b : Double) : Option Ordering :=
  if a.isNaN || b.isNaN then none else some (compare a.standing b.standing)

/-- A bound past every integer of 64 bits, signed or not. -/
def integerBound : Double := ofNat (Nat.pow 2 127)

end Double

namespace Number

instance : Inhabited Number := ⟨.signed 0⟩

/-! ## Order -/

/-- Where a number stands on the extended real line. -/
def standing : Number → Standing
  | .signed value => .finite (value.toInt * Double.unitsPerOne)
  | .unsigned value => .finite (value.toNat * Double.unitsPerOne)
  | .double value => value.standing

/-- Whether a number is not a number. -/
def isNaN : Number → Bool
  | .double value => value.isNaN
  | _ => false

/-- An integer of 64 bits and a double.  Past the bounds the double decides, and NaN is past them
all; between them the whole part decides, and what is left of the double breaks a tie. -/
def compareIntDouble (n : Int) (d : Double) : Ordering :=
  if d.isNaN || (d.compare? .integerBound).any (·.isGE) then .lt
  else if (d.compare? (-.integerBound)).any (·.isLT) then .gt
  else
    let whole := d.truncate
    (compare n whole.toInt128).then ((Double.zero.compare? (d.sub whole)).getD .eq)

/-- Two numbers by their forms, with NaN above every number and equal to itself. -/
def totalCompare : Number → Number → Ordering
  | .signed a, .signed b => compare a.toInt b.toInt
  | .unsigned a, .unsigned b => compare a.toNat b.toNat
  | .double a, .double b =>
    match a.isNaN, b.isNaN with
    | true, true => .eq
    | true, false => .gt
    | false, true => .lt
    | false, false => (a.compare? b).getD .eq
  | .signed a, .unsigned b => compare a.toInt (b.toNat : Int)
  | .unsigned a, .signed b => compare (a.toNat : Int) b.toInt
  | .signed a, .double b => compareIntDouble a.toInt b
  | .unsigned a, .double b => compareIntDouble a.toNat b
  | .double a, .signed b => (compareIntDouble b.toInt a).swap
  | .double a, .unsigned b => (compareIntDouble b.toNat a).swap

/-- The order of numbers, in which NaN compares to nothing. -/
def compare? (a b : Number) : Option Ordering :=
  if a.isNaN || b.isNaN then none else some (a.totalCompare b)

/-- Two numbers are equal when neither is above the other; NaN equals nothing. -/
instance : BEq Number := ⟨fun a b ↦ a.compare? b == some .eq⟩

theorem isNaN_iff_standing {n : Number} : n.isNaN = true ↔ n.standing = .nan := by
  cases n with
  | signed value => exact ⟨nofun, nofun⟩
  | unsigned value => exact ⟨nofun, nofun⟩
  | double value =>
    cases value with
    | nan => exact ⟨fun _ ↦ rfl, fun _ ↦ rfl⟩
    | infinite negative => cases negative <;> exact ⟨nofun, nofun⟩
    | finite negative units h => exact ⟨nofun, nofun⟩

/-! ## Texts -/

/-- A whole number in decimal. -/
def integerText (n : Int) : String :=
  if n < 0 then "-" ++ decimalText n.natAbs else decimalText n.natAbs

/-- A double in plain text never has an exponent, and a whole one no point. -/
def plainLayout : Layout := ⟨none, none, "", "", .up⟩

/-- A double in a dump has a point or an exponent. -/
def dumpLayout : Layout := ⟨some (-4), some 16, ".0", "", .up⟩

/-- A double in stored text has a point or a signed exponent. -/
def storedLayout : Layout := ⟨some (-5), some 16, ".0", "+", .toEven⟩

/-- The text of a number in the given layout. -/
def textIn (layout : Layout) : Number → String
  | .signed value => integerText value.toInt
  | .unsigned value => decimalText value.toNat
  | .double value => layout.text value

/-- A number as it is shown. -/
def text (n : Number) : String :=
  n.textIn plainLayout

/-- A whole number in the first form that holds it: signed, unsigned, or nothing. -/
def ofInt? (n : Int) : Option Number :=
  if Int64.minValue.toInt ≤ n ∧ n ≤ Int64.maxValue.toInt then some (.signed (.ofInt n))
  else if 0 ≤ n ∧ n < UInt64.size then some (.unsigned (.ofNat n.toNat))
  else none

end Number
end Sift
