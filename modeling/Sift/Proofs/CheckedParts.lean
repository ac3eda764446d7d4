import Sift.Proofs.Reachable

/-!
# Parts that pass the check

The parts of a specification may say anything, and `Specification.ofParts` is where they are
checked.  `Specification.ofParts_outcome` says what comes of it: which parts are let through, that
they can be had back from the specification, and which error the others are refused with.

The check looks for a variable that is not bound in the ordered set of those that the criteria read
from.  `Predicate.HasLeafOver` says without lists or order what a predicate reads from
(`Predicate.mem_leafVariables_iff`), and the first item of an ordered set that passes a test is the
least one (`Ascending.find?_eq_some_iff`), so that `Specification.unboundVariable?_eq_some_iff`
tells which variable is named.
-/

set_option autoImplicit false
namespace Sift

open Std

/-! ## The first item of an ordered set -/

/-- **The first item of a set that passes a test is the least one that does.** -/
theorem Ascending.find?_eq_some_iff {α : Type} [Ord α] [TransOrd α] [LawfulEqOrd α]
    {set : List α} (h : Ascending set) {test : α → Bool} {item : α} :
    set.find? test = some item ↔ (item ∈ set ∧ test item = true) ∧
      ∀ other ∈ set, test other = true → (compare item other).isLE := by
  have hleast : ∀ {item : α}, set.find? test = some item →
      ∀ other ∈ set, test other = true → (compare item other).isLE := by
    intro item hfind other hother htest
    obtain ⟨-, before, after, rfl, hbefore⟩ := List.find?_eq_some_iff_append.mp hfind
    rcases List.mem_append.mp hother with hother | hother
    · have hfails := hbefore other hother
      simp [htest] at hfails
    · rcases List.mem_cons.mp hother with rfl | hother
      · exact ReflCmp.isLE_rfl
      · have hafter := (List.pairwise_append.mp h).2.1
        have hlt : compare item other = .lt := List.rel_of_pairwise_cons hafter hother
        rw [hlt]
        rfl
  constructor
  · intro hfind
    exact ⟨⟨List.mem_of_find?_eq_some hfind, List.find?_some hfind⟩, hleast hfind⟩
  · rintro ⟨⟨hitem, htest⟩, hitemLeast⟩
    have hsome : (set.find? test).isSome = true :=
      List.find?_isSome.mpr ⟨item, hitem, htest⟩
    obtain ⟨first, hfirst⟩ := Option.isSome_iff_exists.mp hsome
    have hle : (compare first item).isLE := hleast hfirst item hitem htest
    have hge : (compare item first).isLE :=
      hitemLeast first (List.mem_of_find?_eq_some hfirst) (List.find?_some hfirst)
    rw [hfirst, LawfulEqOrd.eq_of_compare (OrientedCmp.isLE_antisymm hle hge)]

/-- Variables are in the order of their names. -/
theorem Variable.isLE_compare_iff {v w : Variable} :
    (compare v w).isLE = true ↔ v.name ≤ w.name :=
  isLE_compareOfLessAndEq String.le_antisymm String.not_le String.le_total

/-! ## What criteria read from -/

/-- The predicates that have a leaf over a variable. -/
inductive Predicate.HasLeafOver (v : Variable) : Predicate → Prop where
  | leaf (clause : Clause) : HasLeafOver v (.leaf v clause)
  | andLeft {left right : Predicate} (h : HasLeafOver v left) : HasLeafOver v (.and left right)
  | andRight {left right : Predicate} (h : HasLeafOver v right) : HasLeafOver v (.and left right)
  | orLeft {left right : Predicate} (h : HasLeafOver v left) : HasLeafOver v (.or left right)
  | orRight {left right : Predicate} (h : HasLeafOver v right) : HasLeafOver v (.or left right)
  | not {operand : Predicate} (h : HasLeafOver v operand) : HasLeafOver v (.not operand)

/-- The list of leaf variables misses none and has no other. -/
theorem Predicate.mem_leafVariables_iff {p : Predicate} {v : Variable} :
    v ∈ p.leafVariables ↔ p.HasLeafOver v := by
  constructor
  · intro h
    induction p with
    | leaf w clause =>
      obtain rfl := List.mem_singleton.mp h
      exact .leaf clause
    | and left right ihl ihr => exact (List.mem_append.mp h).elim (.andLeft ∘ ihl) (.andRight ∘ ihr)
    | or left right ihl ihr => exact (List.mem_append.mp h).elim (.orLeft ∘ ihl) (.orRight ∘ ihr)
    | not operand ih => exact .not (ih h)
    | never => cases h
  · intro h
    induction h with
    | leaf clause => exact List.mem_singleton_self v
    | andLeft _ ih => exact List.mem_append_left _ ih
    | andRight _ ih => exact List.mem_append_right _ ih
    | orLeft _ ih => exact List.mem_append_left _ ih
    | orRight _ ih => exact List.mem_append_right _ ih
    | not _ ih => exact ih

namespace SpecificationParts

/-- Whether the criteria of parts have a leaf over a variable. -/
def ReadsFrom (parts : SpecificationParts) (v : Variable) : Prop :=
  ∃ p, parts.criteria = some p ∧ p.HasLeafOver v

/-- Whether the criteria have a leaf over a variable that is not the one that parts bind. -/
def LeavesUnbound (parts : SpecificationParts) (v : Variable) : Prop :=
  parts.ReadsFrom v ∧ v ≠ parts.var

theorem isClosedOver_iff {parts : SpecificationParts} :
    parts.criteria.isClosedOver parts.var = true ↔ ∀ v, parts.ReadsFrom v → v = parts.var := by
  rw [Criteria.isClosedOver]
  constructor
  · rintro h v ⟨p, hp, hleaf⟩
    rw [hp] at h
    exact Predicate.isClosedOver_iff.mp h v (Predicate.mem_leafVariables_iff.mpr hleaf)
  · intro h
    cases hcriteria : parts.criteria with
    | none => rfl
    | some p =>
      refine Predicate.isClosedOver_iff.mpr fun v hv ↦ ?_
      exact h v ⟨p, hcriteria, Predicate.mem_leafVariables_iff.mp hv⟩

end SpecificationParts

/-! ## The checks one after the other -/

theorem SortChain.ofLevels_eq_error {levels : List SortLevel} (h : ¬ HasKeys ⟨levels⟩) :
    ofLevels levels = .error (.emptyArgument .sortKey) := by
  rw [ofLevels, if_pos]
  simpa [HasKeys] using h

namespace Specification

variable {parts : SpecificationParts}

/-- **The variable that is named** is the least of those that are not bound. -/
theorem unboundVariable?_eq_some_iff {v : Variable} :
    unboundVariable? parts.var parts.criteria = some v ↔
      parts.LeavesUnbound v ∧ ∀ w, parts.LeavesUnbound w → v.name ≤ w.name := by
  simp only [SpecificationParts.LeavesUnbound, SpecificationParts.ReadsFrom]
  cases parts.criteria with
  | none => simp [unboundVariable?]
  | some p =>
    have hascending : Ascending p.freeVariables := ascending_orderedSet _
    show p.freeVariables.find? (· != parts.var) = some v ↔ _
    rw [hascending.find?_eq_some_iff]
    simp only [Predicate.mem_freeVariables, Predicate.mem_leafVariables_iff, bne_iff_ne,
      Variable.isLE_compare_iff, Option.some.injEq, exists_eq_left', and_imp]

theorem ofParts_of_unbound {v : Variable}
    (h : unboundVariable? parts.var parts.criteria = some v) :
    ofParts parts = .error (.unboundVariable v) := by
  rw [ofParts, h]

/-- Closed criteria leave the sort keys to check and then the window. -/
theorem ofParts_of_closed (h : parts.criteria.isClosedOver parts.var = true) :
    ofParts parts = SortChain.ofLevels parts.sorts.levels >>= fun sorts ↦
      Window.new parts.skip parts.take >>= fun window ↦
        .ok ⟨parts.var, parts.criteria, sorts, window, parts.includes⟩ := by
  rw [ofParts, unboundVariable?_eq_none.mpr h]
  rfl

theorem ofParts_of_not_hasKeys (hclosed : parts.criteria.isClosedOver parts.var = true)
    (hkeys : ¬ parts.sorts.HasKeys) : ofParts parts = .error (.emptyArgument .sortKey) := by
  rw [ofParts_of_closed hclosed, SortChain.ofLevels_eq_error hkeys]
  rfl

theorem ofParts_of_take_eq_zero (hclosed : parts.criteria.isClosedOver parts.var = true)
    (hkeys : parts.sorts.HasKeys) (htake : parts.take = some 0) :
    ofParts parts = .error (.invalidPagination .takeIsZero) := by
  rw [ofParts_of_closed hclosed, SortChain.ofLevels_eq_ok.mpr ⟨hkeys, rfl⟩, Except.ok_bind,
    Window.new, if_pos htake]
  rfl

theorem toParts_of_ofParts {s : Specification} (h : ofParts parts = .ok s) : s.toParts = parts := by
  obtain ⟨-, -, -, rfl⟩ := ofParts_eq_ok.mp h
  rfl

/-- What is well formed passes the check. -/
theorem WellFormed.ofParts_toParts {s : Specification} (hs : s.WellFormed) :
    Specification.ofParts s.toParts = .ok s :=
  ofParts_eq_ok.mpr ⟨hs.closed, hs.hasKeys, hs.take_ne_zero, rfl⟩

/-- **What comes of checking parts.**  They are let through exactly if each leaf of the criteria
reads from the variable that is bound, no sort key is empty and zero is not taken, and then they are
the parts of the specification that is made.  If there is a leaf over any other variable, the least
such variable by name is reported as unbound, whatever else is wrong.  If there is none, an empty
sort key is reported before a take of zero.  The parts of a reachable specification make that
specification. -/
theorem ofParts_outcome (parts : SpecificationParts) :
    ((∃ s, ofParts parts = .ok s) ↔ (∀ v, parts.ReadsFrom v → v = parts.var) ∧
      (∀ level ∈ parts.sorts.levels, level.key ≠ "") ∧ parts.take ≠ some 0) ∧
    (∀ s, ofParts parts = .ok s → s.toParts = parts) ∧
    ((∃ v, parts.LeavesUnbound v) → ∃ v, parts.LeavesUnbound v ∧
      (∀ w, parts.LeavesUnbound w → v.name ≤ w.name) ∧
      ofParts parts = .error (.unboundVariable v)) ∧
    ((¬ ∃ v, parts.LeavesUnbound v) →
      ((∃ level ∈ parts.sorts.levels, level.key = "") →
        ofParts parts = .error (.emptyArgument .sortKey)) ∧
      ((∀ level ∈ parts.sorts.levels, level.key ≠ "") → parts.take = some 0 →
        ofParts parts = .error (.invalidPagination .takeIsZero))) ∧
    ∀ s : Specification, s.Reachable → ofParts s.toParts = .ok s := by
  refine ⟨?_, fun s ↦ toParts_of_ofParts, ?_, ?_, fun s hs ↦ hs.wellFormed.ofParts_toParts⟩
  · rw [← SpecificationParts.isClosedOver_iff]
    constructor
    · rintro ⟨s, hs⟩
      obtain ⟨hclosed, hkeys, htake, -⟩ := ofParts_eq_ok.mp hs
      exact ⟨hclosed, hkeys, htake⟩
    · rintro ⟨hclosed, hkeys, htake⟩
      exact ⟨_, ofParts_eq_ok.mpr ⟨hclosed, hkeys, htake, rfl⟩⟩
  · rintro ⟨v, hv⟩
    have hopen : unboundVariable? parts.var parts.criteria ≠ Option.none := by
      intro hnone
      have hclosed := unboundVariable?_eq_none.mp hnone
      exact hv.2 (SpecificationParts.isClosedOver_iff.mp hclosed v hv.1)
    obtain ⟨w, hw⟩ := Option.ne_none_iff_exists'.mp hopen
    obtain ⟨hunbound, hleast⟩ := unboundVariable?_eq_some_iff.mp hw
    exact ⟨w, hunbound, hleast, ofParts_of_unbound hw⟩
  · intro hbound
    have hclosed : parts.criteria.isClosedOver parts.var = true := by
      refine SpecificationParts.isClosedOver_iff.mpr fun v hv ↦ ?_
      by_contra hne
      exact hbound ⟨v, hv, hne⟩
    refine ⟨?_, ofParts_of_take_eq_zero hclosed⟩
    rintro ⟨level, hlevel, hempty⟩
    exact ofParts_of_not_hasKeys hclosed fun hkeys ↦ hkeys level hlevel hempty

/-- Parts with every fault there is: leaves over two variables that are not bound, a sort key that
is empty and a take of zero. -/
def faultyParts : SpecificationParts where
  var := ⟨"p"⟩
  criteria := some (.or (.leaf ⟨"r"⟩ ⟨"name", .notNull, .null⟩)
    (.not (.leaf ⟨"q"⟩ ⟨"name", .notNull, .null⟩)))
  sorts := ⟨[⟨"", .ascending, .unspecified⟩]⟩
  skip := Option.none
  take := some 0
  includes := []

/-- Mending the faults one after the other brings up the next, and at last there is none. -/
theorem ofParts_outcome_mended :
    (faultyParts.LeavesUnbound ⟨"q"⟩ ∧ ∃ v, (∀ w, faultyParts.LeavesUnbound w → v.name ≤ w.name) ∧
      ofParts faultyParts = .error (.unboundVariable v)) ∧
    ofParts { faultyParts with criteria := Option.none } = .error (.emptyArgument .sortKey) ∧
    ofParts { faultyParts with criteria := Option.none, sorts := .empty } =
      .error (.invalidPagination .takeIsZero) ∧
    all.Reachable ∧ ofParts all.toParts = .ok all := by
  have hbound : ∀ parts : SpecificationParts, parts.criteria = Option.none →
      ¬ ∃ v, parts.LeavesUnbound v := by
    rintro parts hnone ⟨v, ⟨p, hp, -⟩, -⟩
    rw [hnone] at hp
    cases hp
  have hunbound : faultyParts.LeavesUnbound ⟨"q"⟩ :=
    ⟨⟨_, rfl, .orRight (.not (.leaf _))⟩, by decide⟩
  obtain ⟨-, -, hopen, -, hreachable⟩ := ofParts_outcome faultyParts
  obtain ⟨v, -, hleast, hv⟩ := hopen ⟨_, hunbound⟩
  obtain ⟨-, -, -, hkeys, -⟩ := ofParts_outcome { faultyParts with criteria := Option.none }
  obtain ⟨-, -, -, htake, -⟩ :=
    ofParts_outcome { faultyParts with criteria := Option.none, sorts := .empty }
  refine ⟨⟨hunbound, v, hleast, hv⟩, ?_, ?_, .all, hreachable all .all⟩
  · exact (hkeys (hbound _ rfl)).1 ⟨_, List.mem_cons_self, rfl⟩
  · exact (htake (hbound _ rfl)).2 nofun rfl

end Specification
end Sift
