import Mathlib.Tactic.Ring
import Sift.Proofs.DecimalDigits
import Sift.Proofs.NumberOrder

/-!
# The shortest decimal reads back

The decimal that a double is written as is one whose nearest double it is:
`Decimal.nearestUnits_shortest`.  The search for few digits only ever stops at a decimal that reads
back, and if it finds none the exact decimal is taken, which reads back because the double is
representable.

Nothing here depends on how a decimal is spelled: `Decimal.nearestUnits_mul_pow` says that zeros may
be moved between the significand and the exponent.
-/

set_option autoImplicit false
namespace Sift

/-! ## Rounding a quotient -/

theorem compare_mul_pos_right {c : Nat} (hc : 0 < c) (a b : Nat) :
    compare (a * c) (b * c) = compare a b := by
  rcases Nat.lt_trichotomy a b with h | rfl | h
  · rw [Nat.compare_eq_lt.mpr h, Nat.compare_eq_lt.mpr (Nat.mul_lt_mul_of_pos_right h hc)]
  · rw [Nat.compare_eq_eq.mpr rfl, Nat.compare_eq_eq.mpr rfl]
  · rw [Nat.compare_eq_gt.mpr h, Nat.compare_eq_gt.mpr (Nat.mul_lt_mul_of_pos_right h hc)]

theorem roundHalfEven_mul_right {c : Nat} (hc : 0 < c) (num den : Nat) :
    roundHalfEven (num * c) (den * c) = roundHalfEven num den := by
  rw [roundHalfEven, roundHalfEven, Nat.mul_div_mul_right _ _ hc, Nat.mul_mod_mul_right,
    ← Nat.mul_assoc, compare_mul_pos_right hc]

namespace Grid

variable {grid : Grid} {num den num' den' : Nat}

theorem nearest_mul_right {c : Nat} (hc : 0 < c) (num den : Nat) :
    grid.nearest (num * c) (den * c) = grid.nearest num den := by
  simp only [nearest]
  rw [Nat.mul_div_mul_right _ _ hc, Nat.mul_right_comm den c, roundHalfEven_mul_right hc]

/-- Only the quotient counts. -/
theorem nearest_congr (hden : 0 < den) (hden' : 0 < den') (h : num * den' = num' * den) :
    grid.nearest num den = grid.nearest num' den' := by
  rw [← nearest_mul_right hden' num den, h, Nat.mul_comm den den', nearest_mul_right hden]

end Grid

/-! ## One decimal spelled in two ways -/

namespace Decimal

theorem ten_pow_pos (k : Nat) : 0 < Nat.pow 10 k := Nat.pow_pos (by decide)

/-- Zeros may be moved between the significand and the exponent. -/
theorem nearestUnits_mul_pow (grid : Grid) (significand k : Nat) (exponent : Int) :
    nearestUnits grid ⟨significand * Nat.pow 10 k, exponent⟩ =
      nearestUnits grid ⟨significand, exponent + k⟩ := by
  rcases eq_or_ne significand 0 with rfl | hne
  · rw [Nat.zero_mul, nearestUnits, nearestUnits, if_pos (.inl rfl), if_pos (.inl rfl)]
  · have hne' : significand * Nat.pow 10 k ≠ 0 := Nat.mul_ne_zero hne (ten_pow_pos k).ne'
    have hleading : exponent + ((decimalDigits significand).length + k : Nat) =
        exponent + k + (decimalDigits significand).length := by
      push_cast
      ring
    have hnearest : grid.nearest
          (significand * Nat.pow 10 k * Nat.pow 10 exponent.toNat * Double.unitsPerOne)
          (Nat.pow 10 (-exponent).toNat) =
        grid.nearest (significand * Nat.pow 10 (exponent + k).toNat * Double.unitsPerOne)
          (Nat.pow 10 (-(exponent + k)).toNat) := by
      refine Grid.nearest_congr (ten_pow_pos _) (ten_pow_pos _) ?_
      have hpow : Nat.pow 10 k * Nat.pow 10 exponent.toNat * Nat.pow 10 (-(exponent + k)).toNat =
          Nat.pow 10 (exponent + k).toNat * Nat.pow 10 (-exponent).toNat := by
        simp only [Nat.pow_eq, ← Nat.pow_add]
        congr 1
        omega
      calc _ = significand * Double.unitsPerOne * (Nat.pow 10 k * Nat.pow 10 exponent.toNat *
              Nat.pow 10 (-(exponent + k)).toNat) := by ring
        _ = _ := by rw [hpow]; ring
    simp only [nearestUnits, hne, hne', false_or, length_decimalDigits_mul_pow hne, hleading,
      hnearest]

theorem nearestUnits_trimZeros (grid : Grid) (d : Decimal) :
    d.trimZeros.nearestUnits grid = d.nearestUnits grid := by
  rw [trimZeros]
  split
  · rfl
  · have hdvd := pow_dvd_of_trailing_zeros d.significand
    generalize ((decimalDigits d.significand).reverse.takeWhile (· == '0')).length = zeros at hdvd ⊢
    have hmul := nearestUnits_mul_pow grid (d.significand / Nat.pow 10 zeros) zeros d.exponent
    rw [Nat.div_mul_cancel hdvd] at hmul
    exact hmul.symm

/-! ## The search for few digits -/

theorem readsBack_iff {units : Nat} {d : Decimal} :
    readsBack units d = true ↔ d.nearestUnits .double = some units :=
  beq_iff_eq

/-- The search stops only at a decimal that reads back. -/
theorem readsBack_of_neighbour? {tie : Tie} {units : Nat} {exponent : Int} {d : Decimal}
    (h : neighbour? tie units exponent = some d) : readsBack units d = true := by
  unfold neighbour? at h
  generalize below units exponent = low, above units exponent = high at h
  dsimp only at h
  split at h
  · rename_i hlow hhigh
    split at h
    · exact Option.some.inj h ▸ hlow
    · exact Option.some.inj h ▸ hhigh
    · exact Option.some.inj h ▸ hhigh
    · rw [← Option.some.inj h]
      split
      · exact hlow
      · exact hhigh
  · rename_i hlow _
    exact Option.some.inj h ▸ hlow
  · rename_i _ hhigh
    exact Option.some.inj h ▸ hhigh
  · cases h

theorem pow_bound_double : Nat.pow 2 Grid.double.bound = Double.unitBound := by decide +kernel

/-- How large the power of five in an exact decimal is.  The exponents of the bounds are variables,
so that no power of ten is worked out where they are used. -/
theorem exists_pow_five_bounds : ∃ low high place, low = 673 ∧ high = 1474 ∧ place = 1074 ∧
    Nat.pow 10 low ≤ Nat.pow 5 1074 ∧
    Double.unitBound * Nat.pow 5 1074 ≤ Nat.pow 10 high ∧
    Nat.pow 5 1074 * Double.unitsPerOne = Nat.pow 10 place :=
  ⟨673, 1474, 1074, rfl, rfl, rfl, by decide +kernel⟩

/-- A decimal whose leading digit is within the limits is rounded to units of the grid. -/
theorem nearestUnits_eq_some {grid : Grid} {d : Decimal} {units : Nat} (hne : d.significand ≠ 0)
    (hlow : -exponentLimit ≤ d.exponent + (decimalDigits d.significand).length)
    (hhigh : d.exponent + (decimalDigits d.significand).length ≤ exponentLimit)
    (hnearest : grid.nearest
      (d.significand * Nat.pow 10 d.exponent.toNat * Double.unitsPerOne)
      (Nat.pow 10 (-d.exponent).toNat) = units)
    (hbound : units < Nat.pow 2 grid.bound) : d.nearestUnits grid = some units := by
  have hzero : ¬ (d.significand = 0 ∨
      d.exponent + (decimalDigits d.significand).length < -exponentLimit) :=
    not_or.mpr ⟨hne, not_lt.mpr hlow⟩
  subst hnearest
  rw [nearestUnits, if_neg hzero, if_neg (not_lt.mpr hhigh)]
  exact if_pos hbound

/-- The exact decimal of a double reads back. -/
theorem nearestUnits_exact {units : Nat} (h : Double.Representable units) (hne : units ≠ 0) :
    (exact units).nearestUnits .double = some units := by
  obtain ⟨low, high, place, hlow, hhigh, hplace, hmin, hmax, hunits⟩ := exists_pow_five_bounds
  unfold exact
  generalize Nat.pow 5 1074 = five at hmin hmax hunits ⊢
  have hpos : 0 < units := Nat.pos_of_ne_zero hne
  have hfive : 0 < five := Nat.lt_of_lt_of_le (ten_pow_pos _) hmin
  have hmore : ¬ (decimalDigits (units * five)).length ≤ low := by
    rw [length_decimalDigits_le_iff (by omega), Nat.not_lt]
    exact hmin.trans (Nat.le_mul_of_pos_left _ hpos)
  have hless : (decimalDigits (units * five)).length ≤ high := by
    rw [length_decimalDigits_le_iff (by omega)]
    exact Nat.lt_of_lt_of_le (Nat.mul_lt_mul_of_pos_right h.2 hfive) hmax
  refine nearestUnits_eq_some (Nat.mul_pos hpos hfive).ne' ?_ ?_ ?_ (pow_bound_double ▸ h.2)
  · show (-400 : Int) ≤ -1074 + (decimalDigits (units * five)).length
    omega
  · show -1074 + ((decimalDigits (units * five)).length : Int) ≤ 400
    omega
  · refine (Grid.nearest_congr (ten_pow_pos _) Nat.one_pos ?_).trans h.nearest_eq
    have hnone : (-1074 : Int).toNat = 0 := rfl
    have hplaces : (- -1074 : Int).toNat = place := by omega
    dsimp only
    rw [hnone, hplaces, ← hunits, Nat.pow_eq, Nat.pow_zero]
    ring

/-- **The shortest decimal of a double reads back.** -/
theorem nearestUnits_shortest (tie : Tie) {units : Nat} (h : Double.Representable units)
    (hne : units ≠ 0) : (shortest tie units).nearestUnits .double = some units := by
  rw [shortest, nearestUnits_trimZeros]
  rcases hfound : (List.range 17).findSome? fun (digits : Nat) ↦
    neighbour? tie units (magnitude units - digits - 1) with _ | d
  · exact nearestUnits_exact h hne
  · obtain ⟨digits, -, hd⟩ := List.exists_of_findSome?_eq_some hfound
    exact readsBack_iff.mp (readsBack_of_neighbour? hd)

/-- It is not zero, since zero reads as zero. -/
theorem significand_shortest_ne_zero (tie : Tie) {units : Nat} (h : Double.Representable units)
    (hne : units ≠ 0) : (shortest tie units).significand ≠ 0 := by
  intro hzero
  have hunits := nearestUnits_shortest tie h hne
  rw [nearestUnits, if_pos (.inl hzero)] at hunits
  exact hne (Option.some.inj hunits).symm

end Decimal
end Sift
