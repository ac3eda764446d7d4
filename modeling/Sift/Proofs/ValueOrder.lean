import Sift.Proofs.NumberOrder
import Sift.Sort

/-!
# The order of values

Sorting makes sense only if the comparison it goes by is a total preorder: reflexive, turned round
with its arguments, and transitive.  `compare_isTotalPreorder` says that this is so at every level:
for field values of any mixture of kinds, for the values of one sort level under any direction and
null policy, and for entities under any sort chain.

`Value.compare` goes by kind and then by content.  Here it is written as a lexicographic order of
four parts that every value has (`Value.compare_eq_compareLex`), of which only the part of its own
kind ever decides.  A sort level is lexicographic again, null rank before value, and so is a chain
of levels, so that every layer takes its laws from the one below.
-/

set_option autoImplicit false
namespace Sift

open Std

/-- A comparison that sorting can go by. -/
structure IsTotalPreorder {α : Type} (cmp : α → α → Ordering) : Prop where
  /-- Everything is tied with itself. -/
  refl : ∀ a, cmp a a = .eq
  /-- Turning the arguments round turns the outcome round. -/
  swap : ∀ a b, cmp b a = (cmp a b).swap
  /-- What is not above can be chained. -/
  trans : ∀ a b c, (cmp a b).isLE → (cmp b c).isLE → (cmp a c).isLE

theorem isTotalPreorder_of_transCmp {α : Type} (cmp : α → α → Ordering) [TransCmp cmp] :
    IsTotalPreorder cmp where
  refl _ := ReflCmp.compare_self
  swap _ _ := OrientedCmp.eq_swap
  trans _ _ _ hab hbc := TransCmp.isLE_trans hab hbc

/-! ## Values -/

namespace Value

/-- What a value says if it is a text. -/
def textPart : Value → String
  | .string s => s
  | _ => ""

/-- Where a value stands if it is a number. -/
def numberPart : Value → Standing
  | .number n => n.standing
  | _ => .nan

/-- What a value counts if it is a timestamp, a discriminant or a truth value. -/
def countPart : Value → Int
  | .timestamp t => t.millis.toInt
  | .enumeration d => d.toNat
  | .bool b => b.toNat
  | _ => 0

/-- Values are in the lexicographic order of their parts: for different kinds the first part
decides, and for the same kind the only one in which they can differ. -/
theorem compare_eq_compareLex : compare =
    compareLex (compareOn kindRank) (compareLex (compareOn textPart)
      (compareLex (compareOn numberPart) (compareOn countPart))) := by
  funext a b
  cases a <;> cases b <;> try rfl
  case string.string a b =>
    show Ord.compare a b = (Ord.compare a b).then .eq
    rw [Ordering.then_eq]
  case number.number a b =>
    show a.totalCompare b = (Ord.compare a.standing b.standing).then .eq
    rw [Number.totalCompare_eq_compare, Ordering.then_eq]
  case enumeration.enumeration a b => exact (Number.compare_natCast _ _).symm
  case bool.bool a b => cases a <;> cases b <;> rfl

instance : TransCmp compare := by
  rw [compare_eq_compareLex]
  infer_instance

/-- Whether a value is the number that is none. -/
def isNaN : Value → Bool
  | .number n => n.isNaN
  | _ => false

/-- Values that are tied or equal are of one kind, and so are two that are NaN. -/
theorem kindRank_eq {a b : Value}
    (h : a.compare b = .eq ∨ (a == b) = true ∨ (a.isNaN = true ∧ b.isNaN = true)) :
    a.kindRank = b.kindRank := by
  by_contra hne
  have hcompare : a.compare b = Ord.compare a.kindRank b.kindRank := by
    cases a <;> cases b <;> first | rfl | exact absurd rfl hne
  have hbeq : (a == b) = false := by
    cases a <;> cases b <;> first | rfl | exact absurd rfl hne
  rcases h with h | h | ⟨ha, hb⟩
  · exact hne (LawfulEqOrd.eq_of_compare (hcompare ▸ h))
  · rw [hbeq] at h
    cases h
  · have hrank : ∀ {v : Value}, v.isNaN = true → v.kindRank = 1 := by
      intro v hv
      cases v <;> first | rfl | cases hv
    exact hne ((hrank ha).trans (hrank hb).symm)

/-- Ties are equal values, and NaN with itself. -/
theorem compare_eq_eq_iff (a b : Value) :
    a.compare b = .eq ↔ (a == b) = true ∨ (a.isNaN = true ∧ b.isNaN = true) := by
  by_cases hkind : a.kindRank = b.kindRank
  · cases a <;> cases b <;> try (cases hkind; done)
    case string.string a b =>
      show Ord.compare a b = .eq ↔ (a == b) = true ∨ (false = true ∧ false = true)
      simp
    case number.number a b => exact Number.totalCompare_eq_eq_iff_beq
    case timestamp.timestamp a b =>
      obtain ⟨a⟩ := a
      obtain ⟨b⟩ := b
      show Ord.compare a.toInt b.toInt = .eq ↔
        ((⟨a⟩ : Timestamp) == ⟨b⟩) = true ∨ (false = true ∧ false = true)
      simp [Int64.toInt_inj]
    case enumeration.enumeration a b =>
      show Ord.compare a.toNat b.toNat = .eq ↔ (a == b) = true ∨ (false = true ∧ false = true)
      simp [UInt32.toNat_inj]
    case bool.bool a b =>
      show Ord.compare a b = .eq ↔ (a == b) = true ∨ (false = true ∧ false = true)
      simp
    case null.null => exact ⟨fun _ ↦ .inl rfl, fun _ ↦ rfl⟩
  · exact ⟨fun h ↦ absurd (kindRank_eq (.inl h)) hkind,
      fun h ↦ absurd (kindRank_eq (.inr h)) hkind⟩

end Value

/-! ## Sort levels and chains -/

instance (direction : Direction) :
    TransCmp fun a b : Value ↦ direction.apply (a.compare b) := by
  cases direction with
  | ascending => exact inferInstanceAs (TransCmp Value.compare)
  | descending =>
    have h : (fun a b : Value ↦ Direction.descending.apply (a.compare b)) =
        fun a b ↦ b.compare a := by
      funext a b
      exact OrientedCmp.eq_swap.symm
    rw [h]
    infer_instance

instance (level : SortLevel) : TransCmp level.compareValues :=
  inferInstanceAs (TransCmp (compareLex (compareOn level.nulls.rank)
    fun a b ↦ level.direction.apply (a.compare b)))

section Entities

variable {α : Type} [Entity α]

instance (level : SortLevel) : TransCmp (level.compareEntities (α := α)) where
  eq_swap {_ _} := @OrientedCmp.eq_swap _ level.compareValues _ _ _
  isLE_trans {_ _ _} := @TransCmp.isLE_trans _ level.compareValues _ _ _ _

instance compareByLevels.instTransCmp (levels : List SortLevel) :
    TransCmp (compareByLevels (α := α) levels) := by
  induction levels with
  | nil =>
    exact { eq_swap := rfl, isLE_trans := fun _ _ ↦ rfl }
  | cons level levels ih =>
    exact inferInstanceAs (TransCmp (compareLex level.compareEntities (compareByLevels levels)))

instance (chain : SortChain) : TransCmp (chain.compareEntities (α := α)) :=
  inferInstanceAs (TransCmp (compareByLevels chain.levels))

end Entities

/-- **The order of values is a total preorder at every level**, and its ties are equal values
except that NaN is tied with NaN. -/
theorem compare_isTotalPreorder :
    IsTotalPreorder Value.compare ∧
    (∀ a b : Value,
      a.compare b = .eq ↔ (a == b) = true ∨ (a.isNaN = true ∧ b.isNaN = true)) ∧
    (∀ level : SortLevel, IsTotalPreorder level.compareValues) ∧
    (∀ (α : Type) [Entity α] (chain : SortChain),
      IsTotalPreorder fun a b : α ↦ chain.compareEntities a b) :=
  ⟨isTotalPreorder_of_transCmp _, Value.compare_eq_eq_iff,
    fun _ ↦ isTotalPreorder_of_transCmp _, fun _ _ _ ↦ isTotalPreorder_of_transCmp _⟩

end Sift
