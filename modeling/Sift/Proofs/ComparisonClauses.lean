import Sift.Proofs.ChainGrammar
import Sift.Proofs.Composition
import Sift.Proofs.StableSort

/-!
# Comparing in clauses and in sorts

A clause decides a comparison by the kinds of its operand and of the field, and a sort compares
values by rules of its own.  Both go by one order: `Clause.holds_iff_compare` says that a clause
with a comparison holds where the field can be compared to the operand and stands to it, in the
order of values, as the operator says.  They differ on purpose in what cannot be compared, which a
clause never matches and a sort puts somewhere.

So what compares less than an operand stands before what is equal to it in every list in ascending
order, and that before what is greater (`SortLevel.InOrder.standsBefore`), wherever nulls are put.
-/

set_option autoImplicit false
namespace Sift

open Std

/-! ## Operators -/

namespace Operator

/-- Whether an operator compares, under whatever name. -/
def isComparison : Operator → Bool
  | .equal | .notEqual | .greater | .greaterOrEqual | .less | .lessOrEqual => true
  | .before | .after | .is => true
  | _ => false

theorem accepts_normal (operator : Operator) (ordering : Ordering) :
    operator.normal.accepts ordering = operator.accepts ordering := by
  cases operator <;> rfl

theorem accepts_notEqual (ordering : Ordering) :
    notEqual.accepts ordering = !equal.accepts ordering := by
  cases ordering <;> rfl

theorem accepts_greaterOrEqual (ordering : Ordering) :
    greaterOrEqual.accepts ordering = !less.accepts ordering := by
  cases ordering <;> rfl

theorem accepts_lessOrEqual (ordering : Ordering) :
    lessOrEqual.accepts ordering = !greater.accepts ordering := by
  cases ordering <;> rfl

/-- The operator that accepts one ordering only. -/
def ofOrdering : Ordering → Operator
  | .lt => .less
  | .eq => .equal
  | .gt => .greater

theorem accepts_ofOrdering {one other : Ordering} :
    (ofOrdering one).accepts other = true ↔ other = one := by
  cases one <;> cases other <;> decide

theorem existsUnique_accepts (ordering : Ordering) :
    ∃! operator, operator ∈ [less, equal, greater] ∧ operator.accepts ordering = true := by
  refine ⟨ofOrdering ordering, ⟨?_, accepts_ofOrdering.mpr rfl⟩, ?_⟩
  · cases ordering <;> decide
  · rintro operator ⟨hmem, haccepts⟩
    obtain ⟨one, rfl⟩ : ∃ one, operator = ofOrdering one := by
      simp only [List.mem_cons, List.not_mem_nil, or_false] at hmem
      rcases hmem with rfl | rfl | rfl
      exacts [⟨.lt, rfl⟩, ⟨.eq, rfl⟩, ⟨.gt, rfl⟩]
    rw [accepts_ofOrdering.mp haccepts]

end Operator

/-! ## Values that can be compared -/

/-- The value that an operand is, if it is a text, a number or a timestamp. -/
def Operand.value? : Operand → Option Value
  | .string s => some (.string s)
  | .number n => some (.number n)
  | .timestamp t => some (.timestamp t)
  | _ => none

/-- Two values of one kind, neither of which is NaN. -/
structure Value.Comparable (a b : Value) : Prop where
  kind : a.kindRank = b.kindRank
  left : a.isNaN = false
  right : b.isNaN = false

/-- An operand that is a value is not null. -/
theorem Operand.kindRank_lt {operand : Operand} {v : Value} (h : operand.value? = some v) :
    v.kindRank < Value.null.kindRank := by
  cases operand <;> cases h <;> simp [Value.kindRank]

theorem Value.Comparable.isNull_eq_false {f v : Value} (h : f.Comparable v)
    (hv : v.kindRank < Value.null.kindRank) : f.isNull = false := by
  cases f with
  | null => exact absurd h.kind (Nat.ne_of_gt hv)
  | _ => rfl

/-- What compares to a third value is in the order of how it does. -/
theorem Value.compare_of_compare {x y v : Value} {one other : Ordering} (hx : x.compare v = one)
    (hy : y.compare v = other) (h : one = .lt ∧ other ≠ .lt ∨ one ≠ .gt ∧ other = .gt) :
    x.compare y = .lt := by
  have hswap : v.compare y = other.swap := by
    rw [← hy]
    exact OrientedCmp.eq_swap
  rcases h with ⟨rfl, hother⟩ | ⟨hone, rfl⟩
  · refine TransCmp.lt_of_lt_of_isLE hx ?_
    rw [hswap]
    cases other <;> first | rfl | exact absurd rfl hother
  · refine TransCmp.lt_of_isLE_of_lt ?_ hswap
    rw [hx]
    cases one <;> first | rfl | exact absurd rfl hone

theorem Number.any_compare? (a b : Number) (p : Ordering → Bool) :
    (a.compare? b).any p = true ↔
      a.isNaN = false ∧ b.isNaN = false ∧ p (a.totalCompare b) = true := by
  rw [compare?]
  cases a.isNaN <;> cases b.isNaN <;> simp

/-! ## Clauses -/

namespace Clause

variable {clause : Clause} {v : Value}

theorem holds_eq_holdsForOperand (h : clause.operator.isComparison = true) (f : Value) :
    clause.holds f = clause.holdsForOperand f := by
  obtain ⟨field, operator, operand⟩ := clause
  cases operator <;> first | rfl | cases h

/-- Texts compare like other values: the test for equality is that of the order. -/
theorem holdsForText_eq_accepts {operator : Operator} (h : operator.isComparison = true)
    (field operand : String) :
    holdsForText operator field operand = operator.accepts (compare field operand) := by
  cases operator <;> first | rfl | cases h

/-- **A comparison holds where it can be made and the operator accepts its outcome.** -/
theorem holds_iff_accepts (hop : clause.operator.isComparison = true)
    (hv : clause.operand.value? = some v) {f : Value} :
    clause.holds f = true ↔
      f.Comparable v ∧ clause.operator.accepts (f.compare v) = true := by
  rw [holds_eq_holdsForOperand hop]
  obtain ⟨field, operator, operand⟩ := clause
  cases operand with
  | string operand =>
    obtain rfl := Option.some.inj hv
    cases f with
    | string f =>
      show holdsForText operator f operand = true ↔ _
      rw [holdsForText_eq_accepts hop]
      exact ⟨fun h ↦ ⟨⟨rfl, rfl, rfl⟩, h⟩, fun h ↦ h.2⟩
    | _ => exact ⟨nofun, fun h ↦ nomatch h.1.kind⟩
  | number operand =>
    obtain rfl := Option.some.inj hv
    cases f with
    | number f =>
      show (f.compare? operand).any operator.accepts = true ↔ _
      rw [Number.any_compare?]
      exact ⟨fun ⟨hf, ho, h⟩ ↦ ⟨⟨rfl, hf, ho⟩, h⟩, fun ⟨⟨_, hf, ho⟩, h⟩ ↦ ⟨hf, ho, h⟩⟩
    | _ => exact ⟨nofun, fun h ↦ nomatch h.1.kind⟩
  | timestamp operand =>
    obtain rfl := Option.some.inj hv
    cases f with
    | timestamp f => exact ⟨fun h ↦ ⟨⟨rfl, rfl, rfl⟩, h⟩, fun h ↦ h.2⟩
    | _ => exact ⟨nofun, fun h ↦ nomatch h.1.kind⟩
  | _ => cases hv

/-- A comparison never matches a value of another kind than its operand. -/
theorem holds_of_kindRank_ne (hop : clause.operator.isComparison = true)
    (hv : clause.operand.value? = some v) {f : Value} (h : f.kindRank ≠ v.kindRank) :
    clause.holds f = false := by
  rw [Bool.eq_false_iff, Ne, holds_iff_accepts hop hv]
  exact fun hholds ↦ h hholds.1.kind

/-- Where a comparison can be made, its outcome decides. -/
theorem holds_of_comparable (hop : clause.operator.isComparison = true)
    (hv : clause.operand.value? = some v) {f : Value} (h : f.Comparable v) :
    clause.holds f = clause.operator.accepts (f.compare v) := by
  rw [Bool.eq_iff_iff, holds_iff_accepts hop hv]
  exact and_iff_right h

/-- Of the three operators that accept one ordering, the one that accepts the outcome holds. -/
theorem existsUnique_holds {operand : Operand} (hv : operand.value? = some v) (field : String)
    {f : Value} (hf : f.Comparable v) :
    ∃! operator, operator ∈ [.less, .equal, .greater] ∧
      (⟨field, operator, operand⟩ : Clause).holds f = true := by
  refine (existsUnique_congr fun operator ↦ and_congr_right fun hmem ↦ ?_).mpr
    (Operator.existsUnique_accepts (f.compare v))
  have hop : operator.isComparison = true := by
    simp only [List.mem_cons, List.not_mem_nil, or_false] at hmem
    rcases hmem with rfl | rfl | rfl <;> rfl
  rw [holds_of_comparable hop hv hf]

end Clause

/-! ## Lists in order -/

section Order

variable {α : Type} [Entity α]

/-- Whether a list is in the order of a level. -/
def SortLevel.InOrder (level : SortLevel) (items : List α) : Prop :=
  items.Pairwise fun a b ↦ (level.compareEntities a b).isLE

/-- A sorted list is in the order of its primary level. -/
theorem SortLevel.inOrder_sort {chain : SortChain} {level : SortLevel}
    (h : chain.levels.head? = some level) (entities : List α) :
    level.InOrder (chain.sort entities) := by
  obtain ⟨levels, hlevels⟩ := List.head?_eq_some_iff.mp h
  refine (stablySorted_sort chain entities).ordered.imp fun {a b} hab ↦ ?_
  rw [hlevels, compareByLevels] at hab
  exact Ordering.isLE_left_of_isLE_then hab

/-- Whether everything in a list that one clause holds for stands before everything that another
one holds for. -/
def Clause.StandsBefore (clause other : Clause) (items : List α) : Prop :=
  ∀ (i j : Nat) (a b : α), items[i]? = some a → items[j]? = some b →
    clause.holdsFor a = true → other.holdsFor b = true → i < j

theorem SortLevel.InOrder.standsBefore {level : SortLevel} {items : List α}
    (hitems : level.InOrder items) {clause other : Clause}
    (h : ∀ a b : α, clause.holdsFor a = true → other.holdsFor b = true →
      level.compareEntities a b = .lt) : clause.StandsBefore other items := by
  intro i j a b hi hj ha hb
  have hgt : level.compareEntities b a = .gt := OrientedCmp.gt_of_lt (h a b ha hb)
  obtain ⟨hi', rfl⟩ := List.getElem?_eq_some_iff.mp hi
  obtain ⟨hj', rfl⟩ := List.getElem?_eq_some_iff.mp hj
  by_contra hle
  have hcompare : (level.compareEntities items[j] items[i]).isLE = true := by
    rcases Nat.lt_or_eq_of_le (Nat.le_of_not_lt hle) with hlt | rfl
    · exact List.pairwise_iff_getElem.mp hitems j i hj' hi' hlt
    · exact ReflCmp.isLE_rfl
  rw [hgt] at hcompare
  cases hcompare

/-- Null ranks count only where there is a null. -/
theorem SortLevel.compareValues_of_isNull_eq_false (level : SortLevel) {x y : Value}
    (hx : x.isNull = false) (hy : y.isNull = false) :
    level.compareValues x y = level.direction.apply (x.compare y) := by
  have hrank : level.nulls.rank x = level.nulls.rank y := by
    cases level.nulls <;> simp [NullPolicy.rank, hx, hy]
  rw [compareValues, hrank, ReflOrd.compare_self, Ordering.eq_then]

variable {operand : Operand} {v : Value} {field : String} {nulls : NullPolicy} {items : List α}

/-- A clause that accepts one ordering only says how the field compares. -/
theorem Clause.compare_of_holdsFor (hv : operand.value? = some v) {one : Ordering} {a : α}
    (h : (⟨field, .ofOrdering one, operand⟩ : Clause).holdsFor a = true) :
    (Entity.fieldValue a field).isNull = false ∧ (Entity.fieldValue a field).compare v = one := by
  have hop : (Operator.ofOrdering one).isComparison = true := by
    cases one <;> rfl
  obtain ⟨hcomparable, haccepts⟩ := (holds_iff_accepts hop hv).mp h
  exact ⟨hcomparable.isNull_eq_false (Operand.kindRank_lt hv),
    Operator.accepts_ofOrdering.mp haccepts⟩

/-- In ascending order, what compares lower to an operand stands before what compares higher. -/
theorem Clause.standsBefore_of_ascending (hv : operand.value? = some v)
    (hitems : SortLevel.InOrder ⟨field, .ascending, nulls⟩ items) (one other : Ordering)
    (h : one = .lt ∧ other ≠ .lt ∨ one ≠ .gt ∧ other = .gt) :
    StandsBefore ⟨field, .ofOrdering one, operand⟩ ⟨field, .ofOrdering other, operand⟩ items := by
  refine hitems.standsBefore fun a b ha hb ↦ ?_
  obtain ⟨hanull, hacompare⟩ := compare_of_holdsFor hv ha
  obtain ⟨hbnull, hbcompare⟩ := compare_of_holdsFor hv hb
  rw [SortLevel.compareEntities, SortLevel.compareValues_of_isNull_eq_false _ hanull hbnull]
  exact Value.compare_of_compare hacompare hbcompare h

/-- In descending order it stands after it. -/
theorem Clause.standsBefore_of_descending (hv : operand.value? = some v)
    (hitems : SortLevel.InOrder ⟨field, .descending, nulls⟩ items) (one other : Ordering)
    (h : one = .lt ∧ other ≠ .lt ∨ one ≠ .gt ∧ other = .gt) :
    StandsBefore ⟨field, .ofOrdering other, operand⟩ ⟨field, .ofOrdering one, operand⟩ items := by
  refine hitems.standsBefore fun a b ha hb ↦ ?_
  obtain ⟨hanull, hacompare⟩ := compare_of_holdsFor hv ha
  obtain ⟨hbnull, hbcompare⟩ := compare_of_holdsFor hv hb
  have hlt := Value.compare_of_compare hbcompare hacompare h
  rw [SortLevel.compareEntities, SortLevel.compareValues_of_isNull_eq_false _ hanull hbnull,
    OrientedCmp.gt_of_lt hlt]
  rfl

end Order

/-- **Clauses and sorts go by one order.**  Let a clause compare a field to a text, a number or a
timestamp.  It holds for a value exactly if the value is of the same kind, neither is NaN, and the
operator accepts how they compare in the order that sorting goes by; so it never holds for another
kind or for null.  Where they can be compared, exactly one of *less*, *equal* and *greater* holds,
and the other three operators are their opposites.  In a list in ascending order of the field, with
nulls wherever a policy puts them, everything less stands before everything equal, and that before
everything greater; in descending order it is the other way round.  Sorting by a chain puts a list
in the order of its primary level. -/
theorem Clause.holds_iff_compare {operand : Operand} {v : Value} (hv : operand.value? = some v)
    (field : String) :
    let clause : Operator → Clause := fun operator ↦ ⟨field, operator, operand⟩
    (∀ operator, operator.isComparison = true →
      (∀ f, (clause operator).holds f = true ↔
        f.Comparable v ∧ operator.normal.accepts (f.compare v) = true) ∧
      (∀ f : Value, f.kindRank ≠ v.kindRank → (clause operator).holds f = false) ∧
      (clause operator).holds .null = false) ∧
    (∀ f : Value, f.Comparable v →
      (∃! operator, operator ∈ [.less, .equal, .greater] ∧ (clause operator).holds f = true) ∧
      (clause .notEqual).holds f = !(clause .equal).holds f ∧
      (clause .greaterOrEqual).holds f = !(clause .less).holds f ∧
      (clause .lessOrEqual).holds f = !(clause .greater).holds f) ∧
    (∀ (α : Type) [Entity α] (nulls : NullPolicy) (items : List α),
      (SortLevel.InOrder ⟨field, .ascending, nulls⟩ items →
        (clause .less).StandsBefore (clause .equal) items ∧
        (clause .equal).StandsBefore (clause .greater) items ∧
        (clause .less).StandsBefore (clause .greater) items) ∧
      (SortLevel.InOrder ⟨field, .descending, nulls⟩ items →
        (clause .greater).StandsBefore (clause .equal) items ∧
        (clause .equal).StandsBefore (clause .less) items ∧
        (clause .greater).StandsBefore (clause .less) items)) ∧
    ∀ (α : Type) [Entity α] (chain : SortChain) (level : SortLevel) (entities : List α),
      chain.levels.head? = some level → level.InOrder (chain.sort entities) := by
  intro clause
  refine ⟨fun operator hop ↦ ⟨fun f ↦ ?_, fun f ↦ holds_of_kindRank_ne hop hv, ?_⟩, fun f hf ↦ ?_,
    fun α _ nulls items ↦ ⟨fun hitems ↦ ?_, fun hitems ↦ ?_⟩,
    fun α _ chain level entities h ↦ SortLevel.inOrder_sort h entities⟩
  · rw [Operator.accepts_normal]
    exact holds_iff_accepts hop hv
  · exact holds_of_kindRank_ne hop hv (Nat.ne_of_gt (Operand.kindRank_lt hv))
  · have hholds : ∀ operator, operator.isComparison = true →
        (clause operator).holds f = operator.accepts (f.compare v) :=
      fun operator hop ↦ holds_of_comparable hop hv hf
    refine ⟨existsUnique_holds hv field hf, ?_, ?_, ?_⟩
    · rw [hholds _ rfl, hholds _ rfl, Operator.accepts_notEqual]
    · rw [hholds _ rfl, hholds _ rfl, Operator.accepts_greaterOrEqual]
    · rw [hholds _ rfl, hholds _ rfl, Operator.accepts_lessOrEqual]
  · have h := standsBefore_of_ascending hv hitems
    exact ⟨h .lt .eq (by decide), h .eq .gt (by decide), h .lt .gt (by decide)⟩
  · have h := standsBefore_of_descending hv hitems
    exact ⟨h .eq .gt (by decide), h .lt .eq (by decide), h .lt .gt (by decide)⟩

/-- Records with all kinds of prices, among them none at all and one that is no number. -/
def pricedRecords : List Record :=
  [.null, .string "free", .number (.signed (-1)), .number (.unsigned 5), .number (.signed 7),
    .number (.double .nan), .timestamp ⟨0⟩].map fun price ↦ ⟨fun _ ↦ price⟩

/-- They are in ascending order with nulls first, and turned round in descending order with nulls
last. -/
theorem Clause.holds_iff_compare_prices :
    let v : Value := .number (.signed 5)
    let price : Direction → NullPolicy → SortLevel := fun direction nulls ↦
      ⟨"price", direction, nulls⟩
    let clause : Operator → Clause := fun operator ↦ ⟨"price", operator, .number (.signed 5)⟩
    (Operand.number (.signed 5)).value? = some v ∧
    (Operator.isComparison .is = true ∧ Value.kindRank (.string "5") ≠ v.kindRank ∧
      (clause .is).holds (.string "5") = false ∧ (clause .is).holds .null = false) ∧
    (Value.Comparable (.number (.unsigned 5)) v ∧
      (clause .notEqual).holds (.number (.unsigned 5)) =
        !(clause .equal).holds (.number (.unsigned 5))) ∧
    ((price .ascending .first).InOrder pricedRecords ∧
      (clause .less).StandsBefore (clause .equal) pricedRecords) ∧
    ((price .descending .last).InOrder pricedRecords.reverse ∧
      (clause .greater).StandsBefore (clause .equal) pricedRecords.reverse) ∧
    (SortChain.levels ⟨[price .ascending .last]⟩).head? = some (price .ascending .last) ∧
      (price .ascending .last).InOrder
        ((⟨[price .ascending .last]⟩ : SortChain).sort pricedRecords) := by
  intro v price clause
  have hv : (Operand.number (.signed 5)).value? = some v := rfl
  have hkind : Value.kindRank (.string "5") ≠ v.kindRank := by decide
  have hcomparable : Value.Comparable (.number (.unsigned 5)) v := ⟨rfl, rfl, rfl⟩
  have hascending : (price .ascending .first).InOrder pricedRecords := by
    unfold SortLevel.InOrder
    decide
  have hdescending : (price .descending .last).InOrder pricedRecords.reverse := by
    unfold SortLevel.InOrder
    decide
  obtain ⟨hholds, hcompare, horder, hsort⟩ := holds_iff_compare hv "price"
  obtain ⟨-, hother, hnull⟩ := hholds .is rfl
  exact ⟨hv, ⟨rfl, hkind, hother _ hkind, hnull⟩, ⟨hcomparable, (hcompare _ hcomparable).2.1⟩,
    ⟨hascending, ((horder Record .first _).1 hascending).1⟩,
    ⟨hdescending, ((horder Record .last _).2 hdescending).1⟩, rfl,
    hsort Record ⟨[price .ascending .last]⟩ _ pricedRecords rfl⟩

end Sift
