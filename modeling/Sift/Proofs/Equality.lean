import Mathlib.Data.List.Basic
import Sift.Proofs.ExactValue
import Sift.Proofs.Intents

/-!
# Equal specifications are interchangeable

Equality does not look at the form of a number, so two specifications can be equal and yet not the
same.  Nothing that is done with them tells them apart: not an evaluation, and not a composition,
which gives equal results for equal operands.

Two operands that are equal are numbers at one place, or the same (`Operand.Alike`); two predicates
that are equal have one shape, with equal clauses at the leaves (`Predicate.Alike`).  With equality
in this form, it is symmetric and transitive by the cases it is made of, and what respects it is
shown along the same cases.

* `Clause.holds_congr` and `Predicate.eval_of_beq` — equal predicates hold of the same entities;
* `Criteria.both_congr`, `Criteria.either_congr`, `Criteria.negation_congr` — composition;
* `Stage.performAll_congr` and `Evaluator.run_congr` — evaluation, stage by stage.

`Specification.equal_interchangeable` is the result.
-/

set_option autoImplicit false
namespace Sift

/-! ## Numbers -/

namespace Number

/-- Equal numbers stand at one place, which no NaN does. -/
instance : PartialEquivBEq Number where
  symm h := by
    obtain ⟨ha, hb, hstanding⟩ := beq_iff.mp h
    exact beq_iff.mpr ⟨hb, ha, hstanding.symm⟩
  trans h h' := by
    obtain ⟨ha, -, hab⟩ := beq_iff.mp h
    obtain ⟨-, hc, hbc⟩ := beq_iff.mp h'
    exact beq_iff.mpr ⟨ha, hc, hab.trans hbc⟩

/-- Numbers are equal when there is one value that both have. -/
theorem beq_iff_exactValue? {m n : Number} :
    (m == n) = true ↔ ∃ x, m.exactValue? = some x ∧ n.exactValue? = some x := by
  constructor
  · intro h
    obtain ⟨hm, -, hstanding⟩ := beq_iff.mp h
    obtain ⟨x, hx⟩ : ∃ x, m.exactValue? = some x := by
      rw [← Option.ne_none_iff_exists', Ne, exactValue?_eq_none, hm]
      exact Bool.false_ne_true
    refine ⟨x, hx, ?_⟩
    rw [← hx, exactValue?_eq_value?_standing, exactValue?_eq_value?_standing, hstanding]
  · rintro ⟨x, hm, hn⟩
    show (m.compare? n == some .eq) = true
    rw [compare?_of_exactValue? hm hn, compare_eq_iff_eq.mpr rfl]
    rfl

end Number

/-! ## Operands and clauses -/

/-- How two operands can be equal. -/
inductive Operand.Alike : Operand → Operand → Prop where
  /-- Numbers may have different forms. -/
  | number {m n : Number} (h : (m == n) = true) : Alike (.number m) (.number n)
  /-- All others are the same. -/
  | same {operand : Operand} (h : ∀ n, operand ≠ .number n) : Alike operand operand

namespace Operand

theorem beq_iff_alike {a b : Operand} : (a == b) = true ↔ a.Alike b := by
  constructor
  · intro h
    cases a <;> cases b
    case number.number => exact .number h
    case pattern.pattern p q =>
      -- A text compiles to one expression only.
      have hsource : (p.source == q.source) = true := h
      obtain rfl := Pattern.ext_source (eq_of_beq hsource)
      exact .same (by simp)
    case string.string x y | timestamp.timestamp x y | enumeration.enumeration x y |
        enumerationSet.enumerationSet x y | bool.bool x y =>
      have hcontent : (x == y) = true := h
      obtain rfl := eq_of_beq hcontent
      exact .same (by simp)
    case null.null => exact .same (by simp)
    all_goals cases h
  · intro h
    cases h with
    | number h => exact h
    | same hother =>
      cases a with
      | number n => exact absurd rfl (hother n)
      | null => rfl
      | pattern p => exact beq_self_eq_true p.source
      | string x | timestamp x | enumeration x | enumerationSet x | bool x =>
        exact beq_self_eq_true x

instance : PartialEquivBEq Operand where
  symm h := by
    cases beq_iff_alike.mp h with
    | number hnumber => exact beq_iff_alike.mpr (.number (BEq.symm hnumber))
    | same _ => exact h
  trans h h' := by
    cases beq_iff_alike.mp h with
    | number hnumber =>
      cases beq_iff_alike.mp h' with
      | number hnumber' => exact beq_iff_alike.mpr (.number (BEq.trans hnumber hnumber'))
      | same hother => exact absurd rfl (hother _)
    | same _ => exact h'

end Operand

namespace Clause

variable {c d : Clause}

theorem beq_iff : (c == d) = true ↔
    c.field = d.field ∧ c.operator = d.operator ∧ (c.operand == d.operand) = true := by
  show (c.field == d.field && c.operator == d.operator && c.operand == d.operand) = true ↔ _
  simp only [Bool.and_eq_true, beq_iff_eq, and_assoc]

instance : PartialEquivBEq Clause where
  symm h := by
    obtain ⟨hfield, hoperator, hoperand⟩ := beq_iff.mp h
    exact beq_iff.mpr ⟨hfield.symm, hoperator.symm, BEq.symm hoperand⟩
  trans h h' := by
    obtain ⟨hfield, hoperator, hoperand⟩ := beq_iff.mp h
    obtain ⟨hfield', hoperator', hoperand'⟩ := beq_iff.mp h'
    exact beq_iff.mpr ⟨hfield.trans hfield', hoperator.trans hoperator',
      BEq.trans hoperand hoperand'⟩

/-- **Equal clauses hold of the same values.** -/
theorem holds_congr (h : (c == d) = true) (value : Value) : c.holds value = d.holds value := by
  obtain ⟨field, operator, a⟩ := c
  obtain ⟨_, _, b⟩ := d
  obtain ⟨rfl, rfl, hoperand⟩ := beq_iff.mp h
  cases Operand.beq_iff_alike.mp hoperand with
  | same _ => rfl
  | @number m n hnumber =>
    have hvalue : ∀ value, holdsForOperand ⟨field, operator, .number m⟩ value =
        holdsForOperand ⟨field, operator, .number n⟩ value := by
      intro value
      cases value with
      | number x => simp only [holdsForOperand, (Number.compare?_congr hnumber x).2]
      | _ => rfl
    rw [holds, holds, hvalue]

end Clause

/-! ## Predicates -/

/-- How two predicates can be equal: they have one shape, and equal leaves. -/
inductive Predicate.Alike : Predicate → Predicate → Prop where
  | leaf {v : Variable} {c d : Clause} (h : (c == d) = true) : Alike (.leaf v c) (.leaf v d)
  | and {a b c d : Predicate} (hleft : Alike a c) (hright : Alike b d) :
    Alike (.and a b) (.and c d)
  | or {a b c d : Predicate} (hleft : Alike a c) (hright : Alike b d) : Alike (.or a b) (.or c d)
  | not {a b : Predicate} (h : Alike a b) : Alike (.not a) (.not b)
  | never : Alike .never .never

namespace Predicate

variable {p q r : Predicate}

theorem Alike.of_beq (h : p.beq q = true) : p.Alike q := by
  fun_induction beq p q with
  | case1 v c w d =>
    rw [Bool.and_eq_true] at h
    obtain rfl := eq_of_beq h.1
    exact .leaf h.2
  | case2 a b c d ihl ihr =>
    rw [Bool.and_eq_true] at h
    exact .and (ihl h.1) (ihr h.2)
  | case3 a b c d ihl ihr =>
    rw [Bool.and_eq_true] at h
    exact .or (ihl h.1) (ihr h.2)
  | case4 a b ih => exact .not (ih h)
  | case5 => exact .never
  | case6 => cases h

theorem Alike.beq (h : p.Alike q) : p.beq q = true := by
  induction h with
  | leaf h => rw [Predicate.beq, h, beq_self_eq_true, Bool.and_self]
  | and _ _ ihl ihr => rw [Predicate.beq, ihl, ihr, Bool.and_self]
  | or _ _ ihl ihr => rw [Predicate.beq, ihl, ihr, Bool.and_self]
  | not _ ih => rw [Predicate.beq, ih]
  | never => rfl

theorem beq_iff_alike : (p == q) = true ↔ p.Alike q :=
  ⟨Alike.of_beq, Alike.beq⟩

theorem Alike.symm (h : p.Alike q) : q.Alike p := by
  induction h with
  | leaf h => exact .leaf (BEq.symm h)
  | and _ _ ihl ihr => exact .and ihl ihr
  | or _ _ ihl ihr => exact .or ihl ihr
  | not _ ih => exact .not ih
  | never => exact .never

theorem Alike.trans (h : p.Alike q) (h' : q.Alike r) : p.Alike r := by
  induction h generalizing r with
  | leaf h =>
    cases h' with
    | leaf h' => exact .leaf (BEq.trans h h')
  | and _ _ ihl ihr =>
    cases h' with
    | and hleft hright => exact .and (ihl hleft) (ihr hright)
  | or _ _ ihl ihr =>
    cases h' with
    | or hleft hright => exact .or (ihl hleft) (ihr hright)
  | not _ ih =>
    cases h' with
    | not h' => exact .not (ih h')
  | never => exact h'

instance : PartialEquivBEq Predicate where
  symm h := beq_iff_alike.mpr (beq_iff_alike.mp h).symm
  trans h h' := beq_iff_alike.mpr ((beq_iff_alike.mp h).trans (beq_iff_alike.mp h'))

/-- **Equal predicates hold of the same entities.** -/
theorem Alike.eval_eq {α : Type} [Entity α] (h : p.Alike q) (v : Variable) (entity : α) :
    p.eval v entity = q.eval v entity := by
  induction h with
  | @leaf w c d h =>
    obtain ⟨hfield, -⟩ := Clause.beq_iff.mp h
    rw [eval, eval, hfield, Clause.holds_congr h]
  | and _ _ ihl ihr => rw [eval, eval, ihl, ihr]
  | or _ _ ihl ihr => rw [eval, eval, ihl, ihr]
  | not _ ih => rw [eval, eval, ih]
  | never => rfl

theorem Alike.rename (h : p.Alike q) (source target : Variable) :
    (p.rename source target).Alike (q.rename source target) := by
  induction h with
  | leaf h => exact .leaf h
  | and _ _ ihl ihr => exact .and ihl ihr
  | or _ _ ihl ihr => exact .or ihl ihr
  | not _ ih => exact .not ih
  | never => exact .never

end Predicate

/-! ## Criteria -/

namespace Criteria

variable {a b c d : Criteria}

/-- Criteria are equal when there are none on either side, or equal predicates on both. -/
theorem beq_iff_rel : (a == b) = true ↔ Option.Rel Predicate.Alike a b := by
  constructor
  · intro h
    cases a <;> cases b
    case none.none => exact .none
    case some.some => exact .some (Predicate.beq_iff_alike.mp h)
    all_goals cases h
  · intro h
    cases h with
    | none => rfl
    | some h => exact Predicate.beq_iff_alike.mpr h

instance : PartialEquivBEq Criteria where
  symm h := by
    cases beq_iff_rel.mp h with
    | none => exact h
    | some hpredicate => exact beq_iff_rel.mpr (.some hpredicate.symm)
  trans h h' := by
    cases beq_iff_rel.mp h with
    | none => exact h'
    | some hpredicate =>
      cases beq_iff_rel.mp h' with
      | some hpredicate' => exact beq_iff_rel.mpr (.some (hpredicate.trans hpredicate'))

theorem eval_congr {α : Type} [Entity α] (h : (a == b) = true) (v : Variable) (entity : α) :
    a.eval v entity = b.eval v entity := by
  cases beq_iff_rel.mp h with
  | none => rfl
  | some hpredicate => exact hpredicate.eval_eq v entity

variable (v w : Variable)

theorem both_congr (h : (a == b) = true) (h' : (c == d) = true) :
    (both a v c w == both b v d w) = true := by
  rw [beq_iff_rel] at h h' ⊢
  cases h with
  | none =>
    cases h' with
    | none => exact .none
    | some hright => exact .some (hright.rename w v)
  | some hleft =>
    cases h' with
    | none => exact .some hleft
    | some hright => exact .some (.and hleft (hright.rename w v))

theorem either_congr (h : (a == b) = true) (h' : (c == d) = true) :
    (either a v c w == either b v d w) = true := by
  rw [beq_iff_rel] at h h' ⊢
  cases h with
  | none => exact .none
  | some hleft =>
    cases h' with
    | none => exact .none
    | some hright => exact .some (.or hleft (hright.rename w v))

/-- A predicate that is equal to the one that never holds is that one. -/
theorem negation_congr (h : (a == b) = true) : (a.negation == b.negation) = true := by
  rw [beq_iff_rel] at h ⊢
  cases h with
  | none => exact .some .never
  | some hpredicate =>
    cases hpredicate with
    | never => exact .none
    | leaf h => exact .some (.not (.leaf h))
    | and hleft hright => exact .some (.not (.and hleft hright))
    | or hleft hright => exact .some (.not (.or hleft hright))
    | not h => exact .some (.not (.not h))

end Criteria

/-! ## Specifications -/

namespace Specification

variable {a b c d : Specification}

theorem beq_iff : (a == b) = true ↔ a.var = b.var ∧ (a.criteria == b.criteria) = true ∧
    a.sorts = b.sorts ∧ a.window = b.window ∧ a.includes = b.includes := by
  show (a.var == b.var && a.criteria == b.criteria && a.sorts == b.sorts &&
    a.window == b.window && a.includes == b.includes) = true ↔ _
  simp only [Bool.and_eq_true, beq_iff_eq, and_assoc]

/-- Every part of a specification is compared by an equality that is symmetric and transitive. -/
instance : PartialEquivBEq Specification where
  symm h := by
    obtain ⟨hvar, hcriteria, hsorts, hwindow, hincludes⟩ := beq_iff.mp h
    exact beq_iff.mpr ⟨hvar.symm, BEq.symm hcriteria, hsorts.symm, hwindow.symm,
      hincludes.symm⟩
  trans h h' := by
    obtain ⟨hvar, hcriteria, hsorts, hwindow, hincludes⟩ := beq_iff.mp h
    obtain ⟨hvar', hcriteria', hsorts', hwindow', hincludes'⟩ := beq_iff.mp h'
    exact beq_iff.mpr ⟨hvar.trans hvar', BEq.trans hcriteria hcriteria',
      hsorts.trans hsorts', hwindow.trans hwindow', hincludes.trans hincludes'⟩

theorem ofCriteria_congr {v : Variable} {p q : Criteria} (h : (p == q) = true) :
    (ofCriteria v p == ofCriteria v q) = true :=
  beq_iff.mpr ⟨rfl, h, rfl, rfl, rfl⟩

theorem and_congr (h : (a == b) = true) (h' : (c == d) = true) :
    (a.and c == b.and d) = true := by
  obtain ⟨hvar, hcriteria, -⟩ := beq_iff.mp h
  obtain ⟨hvar', hcriteria', -⟩ := beq_iff.mp h'
  rw [and, and, hvar, hvar']
  exact ofCriteria_congr (Criteria.both_congr _ _ hcriteria hcriteria')

theorem or_congr (h : (a == b) = true) (h' : (c == d) = true) : (a.or c == b.or d) = true := by
  obtain ⟨hvar, hcriteria, -⟩ := beq_iff.mp h
  obtain ⟨hvar', hcriteria', -⟩ := beq_iff.mp h'
  rw [or, or, hvar, hvar']
  exact ofCriteria_congr (Criteria.either_congr _ _ hcriteria hcriteria')

theorem not_congr (h : (a == b) = true) : (a.not == b.not) = true := by
  obtain ⟨hvar, hcriteria, -⟩ := beq_iff.mp h
  rw [not, not, hvar]
  exact ofCriteria_congr (Criteria.negation_congr hcriteria)

theorem isSatisfiedBy_of_beq {α : Type} [Entity α] (h : (a == b) = true) :
    a.isSatisfiedBy (α := α) = b.isSatisfiedBy := by
  obtain ⟨hvar, hcriteria, -⟩ := beq_iff.mp h
  funext entity
  rw [isSatisfiedBy, isSatisfiedBy, hvar, Criteria.eval_congr hcriteria]

end Specification

/-! ## Evaluation -/

section Evaluation

open SourceCall

variable {a b : Specification} {α : Type} [Entity α]

/-- **No stage tells equal specifications apart.**  Only the filter looks at the criteria, and all
others ask for the same. -/
theorem Stage.performAll_congr (h : (a == b) = true) {stage : Stage} (hstage : stage ∈ pipeline)
    (intent : Intent) (config : EvaluatorConfig) (source : MemorySource α) :
    performAll (stage.calls ⟨a, intent, config⟩) source =
      performAll (stage.calls ⟨b, intent, config⟩) source := by
  have hsatisfied := Specification.isSatisfiedBy_of_beq (α := α) h
  obtain ⟨var, p, sorts, window, includes⟩ := a
  obtain ⟨_, q, _, _, _⟩ := b
  obtain ⟨rfl, -, rfl, rfl, rfl⟩ := Specification.beq_iff.mp h
  rcases eq_of_mem_pipeline hstage with rfl | rfl | rfl | rfl
  · rw [performAll_filter, performAll_filter, hsatisfied]
  · rfl
  · rfl
  · rfl

/-- **Equal specifications are evaluated alike**, by any of the stages in any order. -/
theorem Evaluator.run_congr (h : (a == b) = true) {evaluator : Evaluator}
    (hstages : evaluator.stages ⊆ Stage.pipeline) (intent : Intent) (source : MemorySource α) :
    evaluator.run a intent source = evaluator.run b intent source := by
  rw [run_eq_foldl, run_eq_foldl]
  refine List.foldl_ext _ _ _ fun source stage hstage ↦ ?_
  exact Stage.performAll_congr h (hstages hstage) intent evaluator.config source

end Evaluation

namespace Specification

/-- **Equal specifications are interchangeable.**  Equality is symmetric and transitive; numbers are
equal when they have one exact value, whatever their forms, and patterns when they have one text.
Specifications that are equal leave the same of every source in memory, with the same paths to load,
for every intent and under all settings, whichever of the ordinary stages they go through; and what
is composed of equal specifications is equal. -/
theorem equal_interchangeable :
    (∀ a b : Specification, (a == b) = true → (b == a) = true) ∧
    (∀ a b c : Specification, (a == b) = true → (b == c) = true → (a == c) = true) ∧
    (∀ m n : Number, (m == n) = true ↔
      ∃ x, m.exactValue? = some x ∧ n.exactValue? = some x) ∧
    (∀ p q : Pattern, (Operand.pattern p == Operand.pattern q) = true ↔ p.source = q.source) ∧
    ∀ a b : Specification, (a == b) = true →
      (∀ evaluator : Evaluator, evaluator.stages ⊆ Stage.pipeline →
        ∀ (intent : Intent) {α : Type} [Entity α] (source : MemorySource α),
          evaluator.run a intent source = evaluator.run b intent source) ∧
      (a.not == b.not) = true ∧
      ∀ c d : Specification, (c == d) = true →
        (a.and c == b.and d) = true ∧ (a.or c == b.or d) = true := by
  refine ⟨fun _ _ ↦ BEq.symm, fun _ _ _ ↦ BEq.trans, fun _ _ ↦ Number.beq_iff_exactValue?,
    fun p q ↦ ?_, fun a b h ↦ ⟨fun evaluator hstages intent α _ source ↦ ?_, not_congr h,
      fun c d h' ↦ ⟨and_congr h h', or_congr h h'⟩⟩⟩
  · show (p.source == q.source) = true ↔ _
    exact beq_iff_eq
  · exact Evaluator.run_congr h hstages intent source

/-- Products of a price or above. -/
def pricedFrom (price : Number) : Specification :=
  ofCriteria ⟨"product"⟩
    (some (.leaf ⟨"product"⟩ ⟨"price", .greaterOrEqual, .number price⟩))

/-- One hundred in its three forms. -/
theorem equal_interchangeable_hundred :
    let signed := pricedFrom (.signed 100)
    let unsigned := pricedFrom (.unsigned 100)
    let double := pricedFrom (.double (.ofNat 100))
    (signed == double) = true ∧ (double == unsigned) = true ∧ signed ≠ double ∧
      (unsigned == double) = true ∧ (signed == unsigned) = true ∧
      Evaluator.default.run signed .count (MemorySource.ofList namedRecords) =
        Evaluator.default.run double .count (MemorySource.ofList namedRecords) ∧
      (signed.not == double.not) = true ∧ (signed.or double == double.or unsigned) = true := by
  intro signed unsigned double
  have hsigned : (signed == double) = true := by decide +kernel
  have hdouble : (double == unsigned) = true := by decide +kernel
  have hne : signed ≠ double := by simp [signed, double, pricedFrom, ofCriteria]
  obtain ⟨hsymm, htrans, -, -, hcongr⟩ := equal_interchangeable
  obtain ⟨hrun, hnot, hcompose⟩ := hcongr _ _ hsigned
  exact ⟨hsigned, hdouble, hne, hsymm _ _ hdouble, htrans _ _ _ hsigned hdouble,
    hrun .default (List.Subset.refl _) .count _, hnot, (hcompose _ _ hdouble).2⟩

end Specification
end Sift
