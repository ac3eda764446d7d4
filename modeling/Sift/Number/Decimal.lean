import Sift.Number.Double

/-!
# Decimal texts of doubles

A `Decimal` is a whole number times a power of ten.

* `Decimal.nearest` is the double nearest to a decimal: how a decimal text is read.
* `Decimal.shortest` goes the other way.  It tries one significant digit, then two, and so on; for
  each count it looks at the two decimals of that many digits around the double and stops when
  one of them reads back as the double.  So the text has as few digits as reading back allows.
  When both read back the nearer one is taken, and `Tie` settles a draw.
* A `Layout` says how digits are written: up to which size without an exponent, with what after a
  whole number, and how the exponent looks.
-/

set_option autoImplicit false
namespace Sift

/-- The number `significand * 10 ^ exponent`. -/
structure Decimal where
  significand : Nat
  exponent : Int
deriving DecidableEq, Inhabited

/-- The decimal digits of a number, most significant first; zero has one digit. -/
def decimalDigits (n : Nat) : List Char :=
  Nat.toDigits 10 n

/-- The decimal digits of a number as a text. -/
def decimalText (n : Nat) : String :=
  .ofList (decimalDigits n)

namespace Decimal

/-- The value of a run of digits. -/
def valueOfDigits (digits : List Char) : Nat :=
  digits.foldl (fun n c ↦ 10 * n + (c.toNat - '0'.toNat)) 0

/-! ## From decimals to doubles -/

/-- Powers of ten past which every double is infinite, or zero when the power is negative. -/
def exponentLimit : Int := 400

/-- Units of the multiple of a format nearest to a decimal, or nothing past every bound. -/
def nearestUnits (grid : Grid) (d : Decimal) : Option Nat :=
  let leading := d.exponent + (decimalDigits d.significand).length
  if d.significand = 0 ∨ leading < -exponentLimit then
    some 0
  else if exponentLimit < leading then
    none
  else
    let num := d.significand * Nat.pow 10 d.exponent.toNat * Double.unitsPerOne
    let den := Nat.pow 10 (-d.exponent).toNat
    let units := grid.nearest num den
    if units < Nat.pow 2 grid.bound then some units else none

/-- The double nearest to a decimal on the grid of a format. -/
def nearestOn (grid : Grid) (negative : Bool) (d : Decimal) : Double :=
  match d.nearestUnits grid with
  | some units => .ofUnits negative units
  | none => .infinite negative

/-- The double nearest to a decimal, with a sign. -/
def nearest (negative : Bool) (d : Decimal) : Double :=
  d.nearestOn .double negative

/-! ## From doubles to decimals -/

/-- Which of two decimals equally near to a double is taken. -/
inductive Tie where
  | toEven
  | up
deriving DecidableEq

/-- The greatest decimal of the form `c * 10 ^ exponent` that is not above so many units. -/
def below (units : Nat) (exponent : Int) : Decimal :=
  ⟨units * Nat.pow 10 (-exponent).toNat / (Double.unitsPerOne * Nat.pow 10 exponent.toNat),
    exponent⟩

/-- The least decimal of that form above so many units. -/
def above (units : Nat) (exponent : Int) : Decimal :=
  let b := below units exponent
  ⟨b.significand + 1, exponent⟩

/-- Whether a decimal is read as so many units. -/
def readsBack (units : Nat) (d : Decimal) : Bool :=
  d.nearestUnits .double == some units

/-- Twice the distance of so many units from the lower neighbour, against the grid's step. -/
def compareToMiddle (units : Nat) (exponent : Int) : Ordering :=
  compare (2 * (units * Nat.pow 10 (-exponent).toNat))
    ((2 * (below units exponent).significand + 1) *
      (Double.unitsPerOne * Nat.pow 10 exponent.toNat))

/-- The neighbour on one decimal grid that reads back, the nearer one when both do. -/
def neighbour? (tie : Tie) (units : Nat) (exponent : Int) : Option Decimal :=
  let low := below units exponent
  let high := above units exponent
  match readsBack units low, readsBack units high with
  | true, true =>
    match compareToMiddle units exponent, tie with
    | .lt, _ => some low
    | .gt, _ => some high
    | .eq, .up => some high
    | .eq, .toEven => some (if low.significand % 2 = 0 then low else high)
  | true, false => some low
  | false, true => some high
  | false, false => none

/-- Drops the zeros at the end of a significand. -/
def trimZeros (d : Decimal) : Decimal :=
  let zeros := ((decimalDigits d.significand).reverse.takeWhile (· == '0')).length
  if d.significand = 0 then d else ⟨d.significand / Nat.pow 10 zeros, d.exponent + zeros⟩

/-- One more than the power of ten of the leading digit. -/
def magnitude (units : Nat) : Int :=
  (decimalDigits (units * Nat.pow 10 400 / Double.unitsPerOne)).length - 400

/-- The exact decimal of so many units. -/
def exact (units : Nat) : Decimal :=
  ⟨units * Nat.pow 5 1074, -1074⟩

/-- The decimal with the fewest digits that reads back as so many units. -/
def shortest (tie : Tie) (units : Nat) : Decimal :=
  let found := (List.range 17).findSome? fun (digits : Nat) ↦
    neighbour? tie units (magnitude units - digits - 1)
  trimZeros (found.getD (exact units))

end Decimal

/-! ## Layouts -/

/-- How the digits of a double are laid out. -/
structure Layout where
  /-- The least power of ten of a leading digit that is written without an exponent, if any. -/
  positionalFrom : Option Int
  /-- The first power of ten of a leading digit that is written with an exponent, if any. -/
  positionalBelow : Option Int
  /-- What follows a whole number. -/
  wholeEnding : String
  /-- What stands before an exponent that is not negative. -/
  exponentSign : String
  tie : Decimal.Tie

namespace Layout

/-- Digits with the point where it belongs, zeros filling the places between. -/
def positional (layout : Layout) (digits : List Char) (leading : Int) : List Char :=
  if leading < 0 then
    ['0', '.'] ++ List.replicate (-leading - 1).toNat '0' ++ digits
  else
    let whole := leading.toNat + 1
    if digits.length ≤ whole then
      digits ++ List.replicate (whole - digits.length) '0' ++ layout.wholeEnding.toList
    else
      digits.take whole ++ ['.'] ++ digits.drop whole

/-- One digit, the others after a point, and the exponent. -/
def scientific (layout : Layout) (digits : List Char) (leading : Int) : List Char :=
  let fraction := if digits.length ≤ 1 then [] else '.' :: digits.drop 1
  let sign := if leading < 0 then ['-'] else layout.exponentSign.toList
  digits.take 1 ++ fraction ++ ['e'] ++ sign ++ decimalDigits leading.natAbs

/-- Whether digits whose first has this power of ten are written without an exponent. -/
def isPositional (layout : Layout) (leading : Int) : Bool :=
  layout.positionalFrom.all (· ≤ leading) && layout.positionalBelow.all (leading < ·)

/-- The text of so many units. -/
def magnitudeText (layout : Layout) (units : Nat) : List Char :=
  if units = 0 then
    '0' :: layout.wholeEnding.toList
  else
    let d := Decimal.shortest layout.tie units
    let digits := decimalDigits d.significand
    let leading := d.exponent + digits.length - 1
    if layout.isPositional leading then
      layout.positional digits leading
    else
      layout.scientific digits leading

/-- The text of a double. -/
def text (layout : Layout) : Double → String
  | .nan => "NaN"
  | .infinite negative => if negative then "-inf" else "inf"
  | .finite negative units _ =>
    .ofList ((if negative then ['-'] else []) ++ layout.magnitudeText units)

end Layout

/-! ## Reading a decimal text -/

namespace Double

/-- Splits a text into its sign and the rest. -/
def splitSign : List Char → Bool × List Char
  | '-' :: rest => (true, rest)
  | '+' :: rest => (false, rest)
  | rest => (false, rest)

/-- The exponent of a text after its `e`: a sign if any, then at least one digit. -/
def exponentOfText? (text : List Char) : Option Int :=
  let (negative, digits) := splitSign text
  if digits.isEmpty || !digits.all Char.isDigit then none
  else
    let value : Int := Decimal.valueOfDigits digits
    some (if negative then -value else value)

/-- A decimal written as digits with at most one point and an exponent after `e` if any. -/
def decimalOfText? (text : List Char) : Option Decimal := do
  let isExponentMark (c : Char) := c == 'e' || c == 'E'
  let mantissa := text.takeWhile fun c ↦ !isExponentMark c
  let exponent ← match text.dropWhile fun c ↦ !isExponentMark c with
    | [] => some 0
    | _ :: rest => exponentOfText? rest
  let whole := mantissa.takeWhile (· != '.')
  let fraction := (mantissa.dropWhile (· != '.')).drop 1
  let digits := whole ++ fraction
  if digits.isEmpty || !digits.all Char.isDigit then none
  else some ⟨Decimal.valueOfDigits digits, exponent - fraction.length⟩

/-- Reads a sign, then `inf`, `infinity` or `nan` in any case or a decimal, which is rounded to the
nearest number of the format. -/
def ofTextOn? (grid : Grid) (text : String) : Option Double :=
  let (negative, rest) := splitSign text.toList
  let lowered := String.ofList (rest.map Char.toLower)
  if lowered = "nan" then some .nan
  else if lowered = "inf" ∨ lowered = "infinity" then some (.infinite negative)
  else (decimalOfText? rest).map (·.nearestOn grid negative)

/-- Reads a double from its text. -/
def ofText? (text : String) : Option Double :=
  ofTextOn? .double text

end Double
end Sift
