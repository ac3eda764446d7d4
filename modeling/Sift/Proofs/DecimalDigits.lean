import Mathlib.Algebra.Order.Ring.Nat
import Mathlib.Data.List.Basic
import Mathlib.Data.List.TakeWhile
import Sift.Number.Decimal

/-!
# Decimal digits

What the digits of a number say about it: they are worth the number (`valueOfDigits_decimalDigits`),
there are as many as its size asks for (`length_decimalDigits_le_iff`), and the first is not zero
unless the number is (`head?_decimalDigits`).
-/

set_option autoImplicit false
namespace Sift

/-! ## The value of digits -/

namespace Decimal

theorem valueOfDigits_eq_ofDigitChars (digits : List Char) :
    valueOfDigits digits = Nat.ofDigitChars 10 digits 0 := by
  rw [Nat.ofDigitChars_eq_foldl]
  rfl

theorem valueOfDigits_decimalDigits (n : Nat) : valueOfDigits (decimalDigits n) = n :=
  (valueOfDigits_eq_ofDigitChars _).trans Nat.ofDigitChars_ten_toDigits

theorem valueOfDigits_append (front back : List Char) : valueOfDigits (front ++ back) =
    valueOfDigits front * Nat.pow 10 back.length + valueOfDigits back := by
  rw [valueOfDigits_eq_ofDigitChars, Nat.ofDigitChars_append, Nat.ofDigitChars_eq_ofDigitChars_zero,
    ← valueOfDigits_eq_ofDigitChars, ← valueOfDigits_eq_ofDigitChars, Nat.mul_comm]
  rfl

theorem valueOfDigits_replicate_zero (count : Nat) :
    valueOfDigits (List.replicate count '0') = 0 := by
  rw [valueOfDigits_eq_ofDigitChars, Nat.ofDigitChars_replicate_zero, Nat.mul_zero]

/-- Zeros before digits are worth nothing. -/
theorem valueOfDigits_zeros_append (count : Nat) (digits : List Char) :
    valueOfDigits (List.replicate count '0' ++ digits) = valueOfDigits digits := by
  rw [valueOfDigits_append, valueOfDigits_replicate_zero, Nat.zero_mul, Nat.zero_add]

/-- Zeros after digits shift them. -/
theorem valueOfDigits_append_zeros (digits : List Char) (count : Nat) :
    valueOfDigits (digits ++ List.replicate count '0') =
      valueOfDigits digits * Nat.pow 10 count := by
  rw [valueOfDigits_append, valueOfDigits_replicate_zero, Nat.add_zero, List.length_replicate]

end Decimal

/-! ## The digits of a number -/

theorem decimalDigits_ne_nil (n : Nat) : decimalDigits n ≠ [] := Nat.toDigits_ne_nil

theorem isDigit_of_mem_decimalDigits {n : Nat} {c : Char} (h : c ∈ decimalDigits n) :
    c.isDigit = true :=
  Nat.isDigit_of_mem_toDigits (by decide) (by decide) h

theorem length_decimalDigits_le_iff {n k : Nat} (hk : 0 < k) :
    (decimalDigits n).length ≤ k ↔ n < Nat.pow 10 k :=
  Nat.length_toDigits_le_iff (by decide) hk

/-- The digits of a number of more than one digit are those of its tenth part and one more. -/
theorem decimalDigits_of_ten_le {n : Nat} (h : 10 ≤ n) :
    decimalDigits n = decimalDigits (n / 10) ++ [(n % 10).digitChar] :=
  Nat.toDigits_of_base_le (by decide) h

theorem decimalDigits_of_lt_ten {n : Nat} (h : n < 10) : decimalDigits n = [n.digitChar] :=
  Nat.toDigits_of_lt_base h

theorem head?_decimalDigits {n : Nat} (h : n ≠ 0) : (decimalDigits n).head? ≠ some '0' := by
  induction n using Nat.strong_induction_on with
  | _ n ih =>
    rcases Nat.lt_or_ge n 10 with hlt | hge
    · rw [decimalDigits_of_lt_ten hlt, List.head?_cons, Ne, Option.some.injEq]
      have hdigit : ∀ d : Fin 10, d.val ≠ 0 → d.val.digitChar ≠ '0' := by decide
      exact hdigit ⟨n, hlt⟩ h
    · have hdiv : n / 10 ≠ 0 := by omega
      rw [decimalDigits_of_ten_le hge,
        List.head?_append_of_ne_nil _ (decimalDigits_ne_nil (n / 10))]
      exact ih (n / 10) (by omega) hdiv

/-- A number that is not zero has one digit more for each power of ten it is multiplied by. -/
theorem length_decimalDigits_mul_pow {n : Nat} (h : n ≠ 0) (k : Nat) :
    (decimalDigits (n * Nat.pow 10 k)).length = (decimalDigits n).length + k := by
  induction k with
  | zero => rw [Nat.pow_eq, Nat.pow_zero, Nat.mul_one, Nat.add_zero]
  | succ k ih =>
    have hsucc : n * Nat.pow 10 (k + 1) = n * Nat.pow 10 k * 10 := by
      rw [Nat.mul_assoc]
      rfl
    have hpos : 0 < n * Nat.pow 10 k :=
      Nat.mul_pos (Nat.pos_of_ne_zero h) (Nat.pow_pos (by decide))
    rw [hsucc, decimalDigits_of_ten_le (by omega), List.length_append,
      Nat.mul_div_cancel _ (by decide), ih]
    rfl

/-- The zeros that a list of digits ends with. -/
theorem takeWhile_zero_eq_replicate (digits : List Char) : digits.takeWhile (· == '0') =
    List.replicate (digits.takeWhile (· == '0')).length '0' := by
  refine List.eq_replicate_iff.mpr ⟨rfl, fun c hc ↦ ?_⟩
  have hzero : (c == '0') = true := List.mem_takeWhile_imp (p := (· == '0')) hc
  exact beq_iff_eq.mp hzero

/-- Zeros at the end of the digits of a number are powers of ten that divide it. -/
theorem pow_dvd_of_trailing_zeros (n : Nat) :
    Nat.pow 10 ((decimalDigits n).reverse.takeWhile (· == '0')).length ∣ n := by
  have hsplit : ((decimalDigits n).reverse.dropWhile (· == '0')).reverse ++
      List.replicate ((decimalDigits n).reverse.takeWhile (· == '0')).length '0' =
        decimalDigits n := by
    rw [← List.reverse_replicate, ← takeWhile_zero_eq_replicate, ← List.reverse_append,
      List.takeWhile_append_dropWhile, List.reverse_reverse]
  have hvalue := congrArg Decimal.valueOfDigits hsplit
  rw [Decimal.valueOfDigits_append_zeros, Decimal.valueOfDigits_decimalDigits] at hvalue
  exact ⟨_, hvalue.symm.trans (Nat.mul_comm _ _)⟩

end Sift
