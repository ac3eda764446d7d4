import Mathlib.Data.EReal.Basic
import Sift.Proofs.NumberOrder

/-!
# Exact values

Every number but NaN has an exact value on the extended real line: an integer is itself, a finite
double a signed count of units of `2 ^ -1074`, and the infinities are its ends.
`Number.compare_exact` says that numbers compare by these values, in whatever forms they are.

Where a number stands (`Number.standing`) is its exact value counted in units, so that the order of
places is the order of values:

* `Number.exactValue?_eq_value?_standing` — a number has the value of the place where it stands;
* `Standing.compare_of_value?` — places are in the order of their values.

`Double.exists_exactValue?_iff` says which real numbers are values of doubles: the dyadic rationals
with a significand of 53 bits and an exponent from -1074 to 971.
-/

set_option autoImplicit false
namespace Sift

/-! ## The values of numbers -/

namespace Double

/-- The real number that one unit is. -/
noncomputable def unit : ℝ := 2 ^ (-1074 : ℤ)

/-- The exact value of a double, both zeros being zero.  NaN has none. -/
noncomputable def exactValue? : Double → Option EReal
  | .nan => none
  | .infinite negative => some (if negative then ⊥ else ⊤)
  | .finite negative units _ => some (((if negative then -1 else 1) * units * unit : ℝ) : EReal)

end Double

/-- The exact value of a number.  NaN has none. -/
noncomputable def Number.exactValue? : Number → Option EReal
  | .signed value => some ((value.toInt : ℝ) : EReal)
  | .unsigned value => some ((value.toNat : ℝ) : EReal)
  | .double value => value.exactValue?

/-! ## Units -/

namespace Double

theorem unit_pos : 0 < unit :=
  zpow_pos (by norm_num) _

theorem mul_zpow_of_eq_pow {n m : ℕ} {k : ℤ} (hn : n = Nat.pow 2 m) (hk : k = -m) :
    (n : ℝ) * 2 ^ k = 1 := by
  rw [hn, hk, Nat.pow_eq, Nat.cast_pow, Nat.cast_ofNat, zpow_neg, zpow_natCast]
  exact mul_inv_cancel₀ (pow_ne_zero m two_ne_zero)

theorem unitsPerOne_mul_unit : (unitsPerOne : ℝ) * unit = 1 :=
  mul_zpow_of_eq_pow (m := 1074) (by decide +kernel) rfl

/-- What a double holds is a significand of 53 bits, shifted within the bound. -/
theorem representable_iff {units : ℕ} :
    Representable units ↔ ∃ m k, m < 2 ^ 53 ∧ k ≤ 2045 ∧ units = m * 2 ^ k := by
  -- The exponent of the bound is a variable, so that the bound is not worked out.
  obtain ⟨b, hb, hbound⟩ : ∃ b, b = 2098 ∧ unitBound = Nat.pow 2 b :=
    ⟨2098, rfl, by decide +kernel⟩
  rw [Representable, hbound, Nat.pow_eq, Nat.pow_eq]
  constructor
  · rintro ⟨⟨m, hm⟩, hlt⟩
    by_cases hzero : units = 0
    · exact ⟨0, 0, Nat.two_pow_pos 53, Nat.zero_le _, by rw [hzero, zero_mul]⟩
    · have hlog : units.log2 < b := (Nat.log2_lt hzero).mpr hlt
      refine ⟨m, units.log2 - 52, ?_, by omega, by rw [mul_comm]; exact hm⟩
      have hunits : units < 2 ^ (units.log2 - 52) * 2 ^ 53 := by
        rw [← pow_add]
        exact (Nat.log2_lt hzero).mp (by omega)
      generalize units.log2 - 52 = k at hm hunits
      rw [hm] at hunits
      exact Nat.lt_of_mul_lt_mul_left hunits
  · rintro ⟨m, k, hm, hk, rfl⟩
    have hlt : m * 2 ^ k < 2 ^ (53 + k) := by
      rw [pow_add]
      exact Nat.mul_lt_mul_of_pos_right hm (Nat.two_pow_pos k)
    refine ⟨?_, lt_of_lt_of_le hlt (Nat.pow_le_pow_right (by omega) (by omega))⟩
    have hstep : (m * 2 ^ k).log2 - 52 ≤ k := by
      by_cases hzero : m * 2 ^ k = 0
      · rw [hzero, Nat.log2_zero]
        omega
      · have := (Nat.log2_lt hzero).mpr hlt
        omega
    exact Dvd.dvd.mul_left (pow_dvd_pow 2 hstep) m

/-- **The real values of doubles** are the dyadic rationals with a significand of 53 bits and an
exponent from -1074 to 971, of either sign. -/
theorem exists_exactValue?_iff (r : ℝ) : (∃ d : Double, d.exactValue? = some (r : EReal)) ↔
    ∃ (negative : Bool) (m : ℕ) (e : ℤ), m < 2 ^ 53 ∧ -1074 ≤ e ∧ e ≤ 971 ∧
      r = (if negative then -1 else 1) * m * 2 ^ e := by
  have hshift : ∀ k : ℕ, (2 : ℝ) ^ k * unit = 2 ^ ((k : ℤ) - 1074) := by
    intro k
    rw [unit, ← zpow_natCast, ← zpow_add₀ two_ne_zero, ← sub_eq_add_neg]
  constructor
  · rintro ⟨d, hd⟩
    cases d with
    | nan => cases hd
    | infinite negative => cases negative <;> simp [exactValue?] at hd
    | finite negative units h =>
      obtain ⟨m, k, hm, hk, rfl⟩ := representable_iff.mp h
      refine ⟨negative, m, k - 1074, hm, by omega, by omega, ?_⟩
      have hr := EReal.coe_injective (Option.some.inj hd)
      rw [← hr, ← hshift, Nat.cast_mul, Nat.cast_pow, Nat.cast_ofNat]
      ring
  · rintro ⟨negative, m, e, hm, hlow, hhigh, rfl⟩
    obtain ⟨k, rfl⟩ : ∃ k : ℕ, e = k - 1074 := ⟨(e + 1074).toNat, by omega⟩
    have h : Representable (m * 2 ^ k) := representable_iff.mpr ⟨m, k, hm, by omega, rfl⟩
    refine ⟨.finite negative (m * 2 ^ k) h, congrArg some (congrArg Real.toEReal ?_)⟩
    rw [← hshift, Nat.cast_mul, Nat.cast_pow, Nat.cast_ofNat]
    ring

end Double

/-! ## The values of places -/

namespace Standing

/-- The exact value at a place. -/
noncomputable def value? : Standing → Option EReal
  | .negativeInfinity => some ⊥
  | .finite units => some ((units * Double.unit : ℝ) : EReal)
  | .positiveInfinity => some ⊤
  | .nan => none

theorem value?_eq_none {p : Standing} : p.value? = none ↔ p = .nan := by
  cases p <;> simp [value?]

/-- More units are a greater value. -/
theorem mul_unit_lt_mul_unit {a b : ℤ} (h : a < b) :
    ((a * Double.unit : ℝ) : EReal) < ((b * Double.unit : ℝ) : EReal) := by
  have hcast : (a : ℝ) < b := Int.cast_lt.mpr h
  exact EReal.coe_lt_coe_iff.mpr (mul_lt_mul_of_pos_right hcast Double.unit_pos)

theorem value_lt_of_compare {p q : Standing} {x y : EReal} (hx : p.value? = some x)
    (hy : q.value? = some y) (h : Ord.compare p q = .lt) : x < y := by
  cases p <;> cases q <;> cases hx <;> cases hy <;> try (cases h; done)
  case negativeInfinity.finite b => exact EReal.bot_lt_coe _
  case negativeInfinity.positiveInfinity => exact bot_lt_top
  case finite.finite a b => exact mul_unit_lt_mul_unit (compare_lt_iff_lt.mp h)
  case finite.positiveInfinity a => exact EReal.coe_lt_top _

/-- **Places are in the order of their values.** -/
theorem compare_of_value? {p q : Standing} {x y : EReal} (hx : p.value? = some x)
    (hy : q.value? = some y) : Ord.compare p q = Ord.compare x y := by
  rcases hcompare : Ord.compare p q with _ | _ | _
  · exact (compare_lt_iff_lt.mpr (value_lt_of_compare hx hy hcompare)).symm
  · obtain rfl := Std.LawfulEqOrd.eq_of_compare hcompare
    obtain rfl := Option.some.inj (hx.symm.trans hy)
    exact (compare_eq_iff_eq.mpr rfl).symm
  · have hlt : y < x := value_lt_of_compare hy hx (Std.OrientedCmp.lt_of_gt hcompare)
    exact (compare_gt_iff_gt.mpr hlt).symm

theorem compare_nan_of_ne {p : Standing} (h : p ≠ .nan) : Ord.compare .nan p = .gt := by
  cases p with
  | nan => exact absurd rfl h
  | _ => rfl

end Standing

/-! ## Where a number stands -/

theorem Double.exactValue?_eq_value?_standing (d : Double) :
    d.exactValue? = d.standing.value? := by
  cases d with
  | nan => rfl
  | infinite negative => cases negative <;> rfl
  | finite negative units h =>
    cases negative <;> simp [exactValue?, standing, Standing.value?]

namespace Number

theorem exactValue?_eq_value?_standing (n : Number) : n.exactValue? = n.standing.value? := by
  cases n with
  | signed value =>
    rw [exactValue?, standing, Standing.value?, Int.cast_mul, Int.cast_natCast, mul_assoc,
      Double.unitsPerOne_mul_unit, mul_one]
  | unsigned value =>
    rw [exactValue?, standing, Standing.value?, Int.cast_mul, Int.cast_natCast, Int.cast_natCast,
      mul_assoc, Double.unitsPerOne_mul_unit, mul_one]
  | double value => exact value.exactValue?_eq_value?_standing

theorem exactValue?_eq_none {n : Number} : n.exactValue? = none ↔ n.isNaN = true := by
  rw [exactValue?_eq_value?_standing, Standing.value?_eq_none, isNaN_iff_standing]

theorem isNaN_of_exactValue? {n : Number} {x : EReal} (h : n.exactValue? = some x) :
    n.isNaN = false := by
  rw [Bool.eq_false_iff, Ne, ← exactValue?_eq_none, h]
  exact Option.some_ne_none x

/-! ## The order of numbers -/

theorem totalCompare_of_exactValue? {a b : Number} {x y : EReal} (hx : a.exactValue? = some x)
    (hy : b.exactValue? = some y) : a.totalCompare b = compare x y := by
  rw [exactValue?_eq_value?_standing] at hx hy
  rw [totalCompare_eq_compare]
  exact Standing.compare_of_value? hx hy

theorem compare?_of_isNaN {a b : Number} (h : a.isNaN = true ∨ b.isNaN = true) :
    a.compare? b = none := by
  rw [compare?, if_pos (Bool.or_eq_true _ _ |>.mpr h)]

theorem compare?_of_exactValue? {a b : Number} {x y : EReal} (hx : a.exactValue? = some x)
    (hy : b.exactValue? = some y) : a.compare? b = some (compare x y) := by
  rw [compare?, isNaN_of_exactValue? hx, isNaN_of_exactValue? hy, totalCompare_of_exactValue? hx hy]
  rfl

/-- Two numbers that are NaN are at one place. -/
theorem totalCompare_of_isNaN {a : Number} (ha : a.isNaN = true) (b : Number) :
    a.totalCompare b = if b.isNaN then .eq else .gt := by
  rw [totalCompare_eq_compare, isNaN_iff_standing.mp ha]
  by_cases hb : b.isNaN = true
  · rw [if_pos hb, isNaN_iff_standing.mp hb]
    rfl
  · rw [if_neg hb]
    exact Standing.compare_nan_of_ne (mt isNaN_iff_standing.mpr hb)

/-- Equal numbers stand at one place, so that nothing tells them apart. -/
theorem compare?_congr {a b : Number} (h : (a == b) = true) (c : Number) :
    a.compare? c = b.compare? c ∧ c.compare? a = c.compare? b := by
  obtain ⟨ha, hb, hstanding⟩ := beq_iff.mp h
  constructor
  · rw [compare?, compare?, ha, hb, totalCompare_eq_compare, totalCompare_eq_compare, hstanding]
  · rw [compare?, compare?, ha, hb, totalCompare_eq_compare, totalCompare_eq_compare, hstanding]

/-- **Numbers compare by their exact values.**  Two numbers that have one are in the order of these
values, whatever their forms are, and are equal exactly if the values are.  NaN is the number that
has none: it compares to nothing and equals nothing, and the total order puts it above all numbers
and ties it with itself.  So equal numbers compare alike to every number. -/
theorem compare_exact (a b : Number) :
    (a.exactValue? = none ↔ a.isNaN = true) ∧
    (∀ x y, a.exactValue? = some x → b.exactValue? = some y →
      a.totalCompare b = compare x y ∧ a.compare? b = some (compare x y) ∧
      ((a == b) = true ↔ x = y)) ∧
    (a.isNaN = true ∨ b.isNaN = true → a.compare? b = none ∧ (a == b) = false) ∧
    (a.isNaN = true → a.totalCompare b = (if b.isNaN then .eq else .gt) ∧
      b.totalCompare a = if b.isNaN then .eq else .lt) ∧
    ((a == b) = true → ∀ c : Number, a.compare? c = b.compare? c ∧ c.compare? a = c.compare? b) := by
  refine ⟨exactValue?_eq_none, fun x y hx hy ↦ ?_, fun h ↦ ?_, fun ha ↦ ?_, fun h c ↦ ?_⟩
  · have hcompare := compare?_of_exactValue? hx hy
    refine ⟨totalCompare_of_exactValue? hx hy, hcompare, ?_⟩
    show (a.compare? b == some .eq) = true ↔ x = y
    rw [hcompare, beq_iff_eq, Option.some.injEq, compare_eq_iff_eq]
  · have hcompare := compare?_of_isNaN h
    refine ⟨hcompare, ?_⟩
    show (a.compare? b == some .eq) = false
    rw [hcompare]
    rfl
  · refine ⟨totalCompare_of_isNaN ha b, ?_⟩
    have hswap : b.totalCompare a = (a.totalCompare b).swap := Std.OrientedCmp.eq_swap
    rw [hswap, totalCompare_of_isNaN ha b]
    cases b.isNaN <;> rfl
  · exact compare?_congr h c

/-- The first integer that is no double, and the double below it. -/
theorem compare_exact_pastDoubles :
    let a : Number := .signed 9007199254740993
    let b : Number := .double (.ofNat 9007199254740992)
    a.exactValue? = some ((9007199254740993 : ℝ) : EReal) ∧
      b.exactValue? = some ((9007199254740992 : ℝ) : EReal) ∧
      a.totalCompare b = .gt ∧ a.compare? b = some .gt ∧ (a == b) = false ∧
      (Number.double .nan).totalCompare a = .gt := by
  intro a b
  have ha : a.exactValue? = some ((9007199254740993 : ℝ) : EReal) := by
    have hint : (9007199254740993 : Int64).toInt = 9007199254740993 := by decide
    show some (((9007199254740993 : Int64).toInt : ℝ) : EReal) = _
    rw [hint]
    norm_num
  have hb : b.exactValue? = some ((9007199254740992 : ℝ) : EReal) := by
    have h : Double.Representable (9007199254740992 * Double.unitsPerOne) := by decide +kernel
    show (Double.ofNat 9007199254740992).exactValue? = _
    rw [Double.ofNat, Double.ofQuotient_of_representable h, Double.exactValue?, Nat.cast_mul,
      if_neg Bool.false_ne_true, one_mul, mul_assoc, Double.unitsPerOne_mul_unit, mul_one]
    norm_num
  have hlt : compare ((9007199254740993 : ℝ) : EReal) ((9007199254740992 : ℝ) : EReal) = .gt :=
    compare_gt_iff_gt.mpr (EReal.coe_lt_coe_iff.mpr (by norm_num))
  obtain ⟨-, hexact, -⟩ := compare_exact a b
  obtain ⟨htotal, hcompare, hbeq⟩ := hexact _ _ ha hb
  obtain ⟨-, -, -, hnan, -⟩ := compare_exact (.double .nan) a
  refine ⟨ha, hb, htotal.trans hlt, hcompare.trans (congrArg some hlt), ?_, (hnan rfl).1⟩
  rw [Bool.eq_false_iff, Ne, hbeq, EReal.coe_eq_coe_iff]
  norm_num

end Number
end Sift
