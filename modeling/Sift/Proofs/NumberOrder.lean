import Mathlib.Data.Nat.Log
import Mathlib.Order.Compare
import Mathlib.Tactic.Linarith
import Sift.Number

/-!
# The order of numbers

`Number.totalCompare` goes by the forms of two numbers, and an integer meets a double through the
whole part of the double.  This file shows that nothing is lost on the way:
`Number.totalCompare_eq_compare` says that the outcome is the order of the places of both numbers
on the extended real line, with NaN past its upper end.  That order is a linear one, so
`totalCompare` is a total preorder, and numbers are tied when they stand at one place.

What carries the argument is that the arithmetic in between is exact:

* `Double.ofQuotient_of_representable` — a count of units that a double holds is not rounded;
* `Double.Representable.floor` and `Double.Representable.fraction` — the whole part of a double
  and what is left of it are doubles.
-/

set_option autoImplicit false
namespace Sift

open Std

/-! ## Places -/

namespace Standing

/-- The units of a finite place. -/
def units : Standing → Int
  | .finite units => units
  | _ => 0

theorem compare_eq_compareLex :
    (compare : Standing → Standing → Ordering) = compareLex (compareOn rank) (compareOn units) := by
  funext a b
  cases a <;> cases b <;> rfl

theorem finite_ne_nan (units : Int) : finite units ≠ nan := nofun

@[simp] theorem compare_finite (a b : Int) :
    Ord.compare (finite a) (finite b) = Ord.compare a b := rfl

end Standing

/-- Places are in a linear order. -/
instance : TransOrd Standing := by
  rw [TransOrd, show (Ord.compare : Standing → Standing → Ordering) = _ from
    Standing.compare_eq_compareLex]
  infer_instance

instance : LawfulEqOrd Standing where
  eq_of_compare {a b} h := by
    cases a <;> cases b <;> first | rfl | cases h | skip
    rw [Standing.compare_finite] at h
    rw [LawfulEqOrd.eq_of_compare h]

/-! ## Doubles that are not rounded -/

theorem roundHalfEven_of_dvd {num den : Nat} (hden : 0 < den) (h : den ∣ num) :
    roundHalfEven num den = num / den := by
  have hlt : compare (2 * (num % den)) den = .lt := by
    rw [Nat.mod_eq_zero_of_dvd h, Nat.mul_zero]
    exact compare_lt_iff_lt.mpr hden
  rw [roundHalfEven, hlt]

namespace Double

theorem Representable.nearest_eq {units : Nat} (h : Representable units) :
    Grid.double.nearest units 1 = units := by
  have hstep : max 0 (units.log2 + 1 - 53) = units.log2 - 52 := by omega
  have hpos : 0 < Nat.pow 2 (units.log2 - 52) := Nat.two_pow_pos _
  simp only [Grid.nearest, Grid.double, Nat.div_one, Nat.one_mul, hstep]
  rw [roundHalfEven_of_dvd hpos h.1, Nat.div_mul_cancel h.1]

theorem ofQuotient_of_representable {units : Nat} (h : Representable units) (negative : Bool) :
    ofQuotient negative units 1 = .finite negative units h := by
  rw [ofQuotient, h.nearest_eq, ofUnits_of_representable h]

/-- A smaller count is still representable if it keeps to the same step. -/
theorem Representable.of_le {units fewer : Nat} (h : Representable units) (hle : fewer ≤ units)
    (hstep : Nat.pow 2 (units.log2 - 52) ∣ fewer) : Representable fewer := by
  refine ⟨Nat.dvd_trans (Nat.pow_dvd_pow 2 ?_) hstep, Nat.lt_of_le_of_lt hle h.2⟩
  have hlog : fewer.log2 ≤ units.log2 := by
    rw [Nat.log2_eq_log_two, Nat.log2_eq_log_two]
    exact Nat.log_mono_right hle
  omega

theorem exists_unitsPerOne_eq_pow : ∃ m, unitsPerOne = Nat.pow 2 m :=
  ⟨1074, by decide +kernel⟩

/-- Either the step of a double is a divisor of one, or the double is whole. -/
theorem Representable.step_dvd_or {units : Nat} (h : Representable units) :
    Nat.pow 2 (units.log2 - 52) ∣ unitsPerOne ∨ unitsPerOne ∣ units := by
  obtain ⟨m, hm⟩ := exists_unitsPerOne_eq_pow
  rw [hm]
  rcases Nat.le_total (units.log2 - 52) m with hk | hk
  · exact .inl (Nat.pow_dvd_pow 2 hk)
  · exact .inr (Nat.dvd_trans (Nat.pow_dvd_pow 2 hk) h.1)

theorem Representable.floor {units : Nat} (h : Representable units) :
    Representable (units / unitsPerOne * unitsPerOne) := by
  refine h.of_le (Nat.div_mul_le_self _ _) ?_
  rcases h.step_dvd_or with hstep | hwhole
  · exact Nat.dvd_mul_left_of_dvd hstep _
  · rw [Nat.div_mul_cancel hwhole]
    exact h.1

theorem Representable.fraction {units : Nat} (h : Representable units) :
    Representable (units % unitsPerOne) := by
  refine h.of_le (Nat.mod_le _ _) ?_
  rcases h.step_dvd_or with hstep | hwhole
  · exact (Nat.dvd_mod_iff hstep).mpr h.1
  · rw [Nat.mod_eq_zero_of_dvd hwhole]
    exact Nat.dvd_zero _

/-! ## Whole part and fraction -/

theorem unitsPerOne_pos : 0 < unitsPerOne := by decide +kernel

@[simp] theorem natAbs_signedUnits (negative : Bool) (units : Nat) :
    (signedUnits negative units).natAbs = units := by
  cases negative <;> simp [signedUnits]

theorem signedUnits_add (negative : Bool) (a b : Nat) :
    signedUnits negative (a + b) = signedUnits negative a + signedUnits negative b := by
  cases negative <;> simp [signedUnits]
  omega

theorem signedUnits_mul (negative : Bool) (a b : Nat) :
    signedUnits negative (a * b) = signedUnits negative a * b := by
  cases negative <;> simp [signedUnits]

/-- A count has the sign that is read off it. -/
theorem signedUnits_decide (negative : Bool) (units : Nat) :
    signedUnits (decide (signedUnits negative units < 0)) units = signedUnits negative units := by
  cases negative <;> simp [signedUnits]

theorem signedUnits_eq_add (negative : Bool) (units : Nat) : signedUnits negative units =
    signedUnits negative (units / unitsPerOne) * unitsPerOne +
      signedUnits negative (units % unitsPerOne) := by
  rw [← signedUnits_mul, ← signedUnits_add, Nat.div_add_mod']

theorem truncate_finite (negative : Bool) {units : Nat} (h : Representable units) :
    truncate (.finite negative units h) =
      .finite negative (units / unitsPerOne * unitsPerOne) h.floor := by
  rw [truncate, ofUnits_of_representable h.floor]

/-- What is left of a double without its whole part is exact. -/
theorem standing_sub_truncate (negative : Bool) {units : Nat} (h : Representable units) :
    ((finite negative units h).sub (truncate (.finite negative units h))).standing =
      .finite (signedUnits negative (units % unitsPerOne)) := by
  have hdiff : signedUnits negative units -
      signedUnits negative (units / unitsPerOne * unitsPerOne) =
      signedUnits negative (units % unitsPerOne) := by
    rw [signedUnits_eq_add negative units, signedUnits_mul]
    omega
  rw [truncate_finite, sub, hdiff]
  split
  · rename_i hzero
    rw [ofUnits_of_representable representable_zero, hzero]
    cases negative <;> rfl
  · rw [natAbs_signedUnits, ofQuotient_of_representable h.fraction, standing, signedUnits_decide]

theorem abs_fraction_lt (negative : Bool) (units : Nat) :
    -(unitsPerOne : Int) < signedUnits negative (units % unitsPerOne) ∧
      signedUnits negative (units % unitsPerOne) < unitsPerOne := by
  have h := Nat.mod_lt units unitsPerOne_pos
  cases negative
  · rw [signedUnits_false]
    omega
  · rw [signedUnits_true]
    omega

/-- The whole part of a double that is in range is not clamped. -/
theorem toInt128_truncate (negative : Bool) {units : Nat} (h : Representable units)
    (hlow : ¬ signedUnits negative units < -(Nat.pow 2 127 * unitsPerOne : Nat))
    (hhigh : ¬ (Nat.pow 2 127 * unitsPerOne : Nat) ≤ signedUnits negative units) :
    (truncate (.finite negative units h)).toInt128 =
      signedUnits negative (units / unitsPerOne) := by
  have hone := unitsPerOne_pos
  rw [truncate_finite, toInt128, Nat.mul_div_cancel _ hone]
  generalize Nat.pow 2 127 = bound at *
  cases negative with
  | false =>
    have hq : units / unitsPerOne < bound := by
      rw [Nat.div_lt_iff_lt_mul hone]
      rw [signedUnits_false] at hhigh
      omega
    rw [signedUnits_false]
    generalize units / unitsPerOne = whole at *
    omega
  | true =>
    have hq : units / unitsPerOne ≤ bound := by
      refine Nat.div_le_of_le_mul ?_
      rw [signedUnits_true] at hlow
      rw [Nat.mul_comm]
      omega
    rw [signedUnits_true]
    generalize units / unitsPerOne = whole at *
    omega

/-! ## The order of doubles -/

theorem isNaN_iff_standing {d : Double} : d.isNaN = true ↔ d.standing = .nan :=
  Number.isNaN_iff_standing (n := .double d)

theorem compare?_of_standing {a b : Double} {p q : Standing} (ha : a.standing = p)
    (hb : b.standing = q) (hp : p ≠ .nan) (hq : q ≠ .nan) : a.compare? b = some (compare p q) := by
  have hna : a.isNaN = false := by
    rw [Bool.eq_false_iff, Ne, isNaN_iff_standing, ha]
    exact hp
  have hnb : b.isNaN = false := by
    rw [Bool.eq_false_iff, Ne, isNaN_iff_standing, hb]
    exact hq
  rw [compare?, hna, hnb, ha, hb]
  rfl

theorem standing_integerBound :
    integerBound.standing = .finite (Nat.pow 2 127 * unitsPerOne : Nat) := by
  have h : Representable (Nat.pow 2 127 * unitsPerOne) := by decide +kernel
  rw [integerBound, ofNat, ofQuotient_of_representable h]
  rfl

theorem standing_neg {d : Double} {u : Int} (h : d.standing = .finite u) :
    (-d).standing = .finite (-u) := by
  cases d with
  | nan => cases h
  | infinite negative => cases negative <;> cases h
  | finite negative units _ =>
    cases h
    cases negative
    · rfl
    · show Standing.finite units = Standing.finite (- -(units : Int))
      rw [Int.neg_neg]

end Double

/-! ## An integer and a double -/

theorem compare_add_right_eq (a b : Int) : compare a (a + b) = compare 0 b := by
  rcases Int.lt_trichotomy 0 b with hb | rfl | hb
  · rw [compare_lt_iff_lt.mpr hb]
    exact compare_lt_iff_lt.mpr (by omega)
  · simp
  · rw [compare_gt_iff_gt.mpr hb]
    exact compare_gt_iff_gt.mpr (by omega)

/-- Whole parts decide first, and fractions only on a tie. -/
theorem compare_mul_eq_then {one : Int} (n whole fraction : Int)
    (hlow : -one < fraction) (hhigh : fraction < one) :
    compare (n * one) (whole * one + fraction) =
      (compare n whole).then (compare 0 fraction) := by
  have hone : 0 < one := by omega
  rcases Int.lt_trichotomy n whole with hn | rfl | hn
  · rw [compare_lt_iff_lt.mpr hn]
    exact compare_lt_iff_lt.mpr (by nlinarith)
  · rw [compare_add_right_eq, ReflOrd.compare_self, Ordering.eq_then]
  · rw [compare_gt_iff_gt.mpr hn]
    exact compare_gt_iff_gt.mpr (by show _ < _; nlinarith)

namespace Number

theorem compareIntDouble_of_standing {n : Int} {d : Double} {p : Standing}
    (hd : d.standing = p) (hp : p ≠ .nan) : compareIntDouble n d =
      if (compare p (.finite (Nat.pow 2 127 * Double.unitsPerOne : Nat))).isGE then .lt
      else if (compare p (.finite (-(Nat.pow 2 127 * Double.unitsPerOne : Nat)))).isLT then .gt
      else (compare n d.truncate.toInt128).then
        ((Double.zero.compare? (d.sub d.truncate)).getD .eq) := by
  have hbound := Double.standing_integerBound
  have hnan : d.isNaN = false := by
    rw [Bool.eq_false_iff, Ne, Double.isNaN_iff_standing, hd]
    exact hp
  rw [compareIntDouble, hnan, Double.compare?_of_standing hd hbound hp nofun,
    Double.compare?_of_standing hd (Double.standing_neg hbound) hp nofun]
  rfl

theorem compareIntDouble_eq_compare {n : Int} (hn : n.natAbs < Nat.pow 2 127) (d : Double) :
    compareIntDouble n d = compare (Standing.finite (n * Double.unitsPerOne)) d.standing := by
  cases d with
  | nan => rfl
  | infinite negative =>
    have hne : (Double.infinite negative).standing ≠ .nan := by
      cases negative
      · exact nofun
      · exact nofun
    rw [compareIntDouble_of_standing rfl hne]
    cases negative <;> rfl
  | finite negative units h =>
    have hd : (Double.finite negative units h).standing =
        .finite (Double.signedUnits negative units) := rfl
    rw [compareIntDouble_of_standing hd (Standing.finite_ne_nan _), hd]
    simp only [Standing.compare_finite, isGE_compare, Ordering.isLT_iff_eq_lt,
      compare_lt_iff_lt]
    have hn' : -(Nat.pow 2 127 * Double.unitsPerOne : Nat) < n * Double.unitsPerOne ∧
        n * Double.unitsPerOne < (Nat.pow 2 127 * Double.unitsPerOne : Nat) := by
      have hone := Double.unitsPerOne_pos
      generalize Nat.pow 2 127 = bound at *
      have hlow : -(bound : Int) < n := by omega
      have hhigh : n < bound := by omega
      push_cast
      constructor <;> nlinarith
    by_cases hhigh : (Nat.pow 2 127 * Double.unitsPerOne : Nat) ≤ Double.signedUnits negative units
    · rw [if_pos hhigh]
      exact (compare_lt_iff_lt.mpr (by omega)).symm
    by_cases hlow : Double.signedUnits negative units < -(Nat.pow 2 127 * Double.unitsPerOne : Nat)
    · rw [if_neg hhigh, if_pos hlow]
      exact (compare_gt_iff_gt.mpr (by omega)).symm
    · rw [if_neg hhigh, if_neg hlow, Double.toInt128_truncate negative h hlow hhigh,
        Double.compare?_of_standing (p := .finite 0) rfl (Double.standing_sub_truncate negative h)
          (Standing.finite_ne_nan _) (Standing.finite_ne_nan _),
        Double.signedUnits_eq_add negative units]
      have hf := Double.abs_fraction_lt negative units
      exact (compare_mul_eq_then n _ _ hf.1 hf.2).symm

/-! ## Two numbers -/

theorem compare_mul_right (a b : Int) :
    compare (a * Double.unitsPerOne) (b * Double.unitsPerOne) = compare a b := by
  have hone : (0 : Int) < Double.unitsPerOne := by
    have := Double.unitsPerOne_pos
    omega
  have h := compare_mul_eq_then a b 0 (by omega) hone
  rwa [Int.add_zero, ReflOrd.compare_self, Ordering.then_eq] at h

theorem compare_natCast (a b : Nat) : compare (a : Int) (b : Int) = compare a b := by
  rcases Nat.lt_trichotomy a b with h | rfl | h
  · rw [compare_lt_iff_lt.mpr h, compare_lt_iff_lt.mpr (Int.ofNat_lt.mpr h)]
  · rw [ReflOrd.compare_self, ReflOrd.compare_self]
  · rw [compare_gt_iff_gt.mpr h, compare_gt_iff_gt.mpr (Int.ofNat_lt.mpr h)]

theorem compareIntDouble_signed (a : Int64) (d : Double) :
    compareIntDouble a.toInt d = compare (signed a).standing d.standing := by
  refine compareIntDouble_eq_compare ?_ d
  have hlow := a.le_toInt
  have hhigh := a.toInt_lt
  rw [show Nat.pow 2 127 = 2 ^ 127 from rfl]
  omega

theorem compareIntDouble_unsigned (a : UInt64) (d : Double) :
    compareIntDouble a.toNat d = compare (unsigned a).standing d.standing := by
  refine compareIntDouble_eq_compare ?_ d
  have h := a.toNat_lt
  rw [show Nat.pow 2 127 = 2 ^ 127 from rfl]
  omega

theorem totalCompare_double (a b : Double) :
    totalCompare (.double a) (.double b) = compare a.standing b.standing := by
  cases a with
  | nan =>
    cases b with
    | infinite negative => cases negative <;> rfl
    | _ => rfl
  | infinite negative =>
    cases b with
    | nan => cases negative <;> rfl
    | _ => rfl
  | finite negative units h => cases b <;> rfl

/-- **Numbers compare by where they stand**, whatever their forms. -/
theorem totalCompare_eq_compare (a b : Number) :
    a.totalCompare b = compare a.standing b.standing := by
  cases a with
  | signed a =>
    cases b with
    | signed b => exact (compare_mul_right _ _).symm
    | unsigned b => exact (compare_mul_right _ _).symm
    | double b => exact compareIntDouble_signed a b
  | unsigned a =>
    cases b with
    | signed b => exact (compare_mul_right _ _).symm
    | unsigned b =>
      rw [totalCompare, ← compare_natCast]
      exact (compare_mul_right _ _).symm
    | double b => exact compareIntDouble_unsigned a b
  | double a =>
    cases b with
    | signed b =>
      rw [totalCompare, compareIntDouble_signed]
      exact OrientedOrd.eq_swap.symm
    | unsigned b =>
      rw [totalCompare, compareIntDouble_unsigned]
      exact OrientedOrd.eq_swap.symm
    | double b => exact totalCompare_double a b

instance : TransCmp totalCompare := by
  have h : totalCompare = compareOn standing := by
    funext a b
    exact totalCompare_eq_compare a b
  rw [h]
  infer_instance

theorem totalCompare_eq_eq_iff {a b : Number} :
    a.totalCompare b = .eq ↔ a.standing = b.standing := by
  rw [totalCompare_eq_compare]
  exact LawfulEqOrd.compare_eq_iff_eq

/-- Equality of numbers is equality of places, except that NaN is not equal to itself. -/
theorem beq_iff {a b : Number} :
    (a == b) = true ↔ a.isNaN = false ∧ b.isNaN = false ∧ a.standing = b.standing := by
  show (a.compare? b == some .eq) = true ↔ _
  rw [beq_iff_eq, compare?, ← totalCompare_eq_eq_iff]
  cases a.isNaN <;> cases b.isNaN <;> simp

/-- Ties are equal numbers, and NaN with itself. -/
theorem totalCompare_eq_eq_iff_beq {a b : Number} :
    a.totalCompare b = .eq ↔ (a == b) = true ∨ (a.isNaN = true ∧ b.isNaN = true) := by
  rw [totalCompare_eq_eq_iff, beq_iff]
  constructor
  · intro h
    rcases ha : a.isNaN with _ | _
    · have hb : b.isNaN = false := by
        rw [Bool.eq_false_iff, ne_eq, isNaN_iff_standing, ← h, ← isNaN_iff_standing]
        exact Bool.eq_false_iff.mp ha
      exact .inl ⟨rfl, hb, h⟩
    · have hb : b.isNaN = true := by
        rw [isNaN_iff_standing, ← h]
        exact isNaN_iff_standing.mp ha
      exact .inr ⟨rfl, hb⟩
  · rintro (⟨-, -, h⟩ | ⟨ha, hb⟩)
    · exact h
    · rw [isNaN_iff_standing.mp ha, isNaN_iff_standing.mp hb]

end Number
end Sift
