/-!
# Double-precision numbers

A finite double is a whole number of *units* of `2 ^ -1074`, the smallest step of the format, with
at most 53 significant bits.  Keeping the count of units as a natural number makes every question
about doubles one of integer arithmetic: their order is the order of the counts, and rounding a
quotient to the nearest double is one division.

* `Grid` describes a binary format by its precision, its finest step and its bound.
* `Grid.nearest` rounds a quotient to the nearest multiple of the step that its size calls for,
  a tie going to the even multiple.
* `Double.ofUnits` takes a count to the double it is, or to infinity past the bound.
-/

set_option autoImplicit false
namespace Sift

/-- How many units make one. -/
def Double.unitsPerOne : Nat := Nat.pow 2 1074

/-- The largest double has fewer units than this. -/
def Double.unitBound : Nat := Nat.pow 2 2098

/-- A count of units that some double holds: 53 significant bits, below the bound. -/
def Double.Representable (units : Nat) : Prop :=
  Nat.pow 2 (units.log2 - 52) ∣ units ∧ units < Double.unitBound

/-- Representability is a divisibility and a bound, so it can be decided. -/
instance : DecidablePred Double.Representable :=
  fun _ ↦ inferInstanceAs (Decidable (_ ∧ _))

theorem Double.representable_zero : Double.Representable 0 :=
  by decide +kernel

/-- A double: not a number, an infinity, or a signed count of units of `2 ^ -1074`. -/
inductive Double where
  | nan
  | infinite (negative : Bool)
  | finite (negative : Bool) (units : Nat) (representable : Double.Representable units)
deriving DecidableEq

/-! ## Rounding -/

/-- The quotient rounded to the nearest whole number, a tie going to the even one. -/
def roundHalfEven (num den : Nat) : Nat :=
  let quotient := num / den
  match compare (2 * (num % den)) den with
  | .lt => quotient
  | .gt => quotient + 1
  | .eq => quotient + quotient % 2

/-- A binary format: how many significant bits it keeps, the exponent of its finest step and the
exponent of its bound, both counted in units of `2 ^ -1074`. -/
structure Grid where
  precision : Nat
  finest : Nat
  bound : Nat

namespace Grid

/-- The format of doubles: steps from `2 ^ -1074`, numbers below `2 ^ 1024`. -/
def double : Grid := ⟨53, 0, 2098⟩

/-- The format of half the width: steps from `2 ^ -149`, numbers below `2 ^ 128`. -/
def single : Grid := ⟨24, 925, 1202⟩

/-- The units of the multiple nearest to `num / den` units, with no bound on its size. -/
def nearest (grid : Grid) (num den : Nat) : Nat :=
  let step := max grid.finest ((num / den).log2 + 1 - grid.precision)
  roundHalfEven num (den * Nat.pow 2 step) * Nat.pow 2 step

end Grid

namespace Double

instance : Inhabited Double := ⟨.nan⟩

/-! ## From units -/

/-- The double of so many units, infinite past the bound. -/
def ofUnits (negative : Bool) (units : Nat) : Double :=
  if h : Representable units then .finite negative units h else .infinite negative

/-- The double nearest to `num / den` units. -/
def ofQuotient (negative : Bool) (num den : Nat) : Double :=
  ofUnits negative (Grid.double.nearest num den)

/-- The positive zero. -/
def zero : Double := .finite false 0 representable_zero

/-- The double nearest to a whole number. -/
def ofNat (n : Nat) : Double :=
  ofQuotient false (n * unitsPerOne) 1

/-! ## Arithmetic -/

/-- A double with the other sign. -/
def neg : Double → Double
  | .nan => .nan
  | .infinite negative => .infinite !negative
  | .finite negative units h => .finite (!negative) units h

/-- Negation turns the sign, that of a zero too. -/
instance : Neg Double := ⟨neg⟩

/-- The product of two finite doubles, rounded once. -/
def mul : Double → Double → Double
  | .finite a u _, .finite b v _ => ofQuotient (a != b) (u * v) unitsPerOne
  | _, _ => .nan

/-- The quotient of two finite doubles, rounded once. -/
def div : Double → Double → Double
  | .finite a u _, .finite b v _ => if v = 0 then .nan else ofQuotient (a != b) (u * unitsPerOne) v
  | _, _ => .nan

/-- A count of units with its sign. -/
def signedUnits (negative : Bool) (units : Nat) : Int :=
  if negative then -units else units

@[simp] theorem signedUnits_false (units : Nat) : signedUnits false units = units := rfl

@[simp] theorem signedUnits_true (units : Nat) : signedUnits true units = -units := rfl

/-- The difference of two doubles, rounded once.  Of differences that are zero, only that of the
negative zero and the positive one is negative. -/
def sub : Double → Double → Double
  | .finite a u _, .finite b v _ =>
    let difference := signedUnits a u - signedUnits b v
    if difference = 0 then ofUnits (a && !b) 0
    else ofQuotient (decide (difference < 0)) difference.natAbs 1
  | .infinite a, .infinite b => if a = b then .nan else .infinite a
  | .infinite a, .finite .. => .infinite a
  | .finite .., .infinite b => .infinite !b
  | _, _ => .nan

/-! ## Whole parts -/

/-- A double without what comes after its point. -/
def truncate : Double → Double
  | .finite negative units _ => ofUnits negative (units / unitsPerOne * unitsPerOne)
  | d => d

/-- The whole part of a double as an integer of 128 bits: the nearer end of their range when it
is out of range, and zero for NaN. -/
def toInt128 : Double → Int
  | .nan => 0
  | .infinite negative => if negative then -Nat.pow 2 127 else Nat.pow 2 127 - 1
  | .finite negative units _ =>
    max (-Nat.pow 2 127) (min (Nat.pow 2 127 - 1) (signedUnits negative (units / unitsPerOne)))

/-! ## Asking about a double -/

/-- Whether a double is not a number. -/
def isNaN : Double → Bool
  | .nan => true
  | _ => false

/-- Whether a double is neither infinite nor not a number. -/
def isFinite : Double → Bool
  | .finite .. => true
  | _ => false

/-- Whether a double is one of the two zeros. -/
def isZero : Double → Bool
  | .finite _ units _ => units == 0
  | _ => false

@[simp] theorem isNaN_nan : isNaN .nan = true := rfl

@[simp] theorem isNaN_finite (negative : Bool) (units : Nat) (h : Representable units) :
    isNaN (.finite negative units h) = false := rfl

@[simp] theorem isNaN_infinite (negative : Bool) : isNaN (.infinite negative) = false := rfl

theorem ofUnits_of_representable {negative : Bool} {units : Nat} (h : Representable units) :
    ofUnits negative units = .finite negative units h := by
  simp [ofUnits, h]

end Double
end Sift
