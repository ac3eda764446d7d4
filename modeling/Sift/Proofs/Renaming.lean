import Sift.Predicate.Composition
import Sift.Proofs.OrderedSets

/-!
# Renaming and closedness

Combining predicates of different variables is sound because of two facts, proved here.

* `Predicate.evalOn_rename` — to rename a variable in a predicate is to rename it in what the
  predicate is evaluated with;
* `Predicate.eval_of_isClosedOver` — a predicate that is closed over the bound variable never meets
  an unbound leaf, so it does not matter what such a leaf would be worth.

Both need evaluation with several variables bound to the same entity, which is
`Predicate.evalOn`; `Predicate.eval` is the case of one.  What a renaming does to the variables
themselves is `Variable.replace`, and that alone tells whether two renamings in a row are one
(`Predicate.rename_rename_of_forall`).

For criteria they give `Criteria.eval_both`, `Criteria.eval_either` and `Criteria.eval_negation`:
the connectives on criteria are those of truth values, wherever the second operand is closed over
its own variable.
-/

set_option autoImplicit false
namespace Sift

open Std

instance : LawfulEqOrd Variable where
  compare_self {v} := ReflOrd.compare_self (a := v.name)
  eq_of_compare {v w} h := by
    have hname : v.name = w.name := LawfulEqOrd.eq_of_compare (α := String) h
    obtain ⟨name⟩ := v
    obtain rfl := hname
    rfl

instance : TransOrd Variable where
  eq_swap {a b} := OrientedOrd.eq_swap (a := a.name) (b := b.name)
  isLE_trans {a b c} := TransOrd.isLE_trans (a := a.name) (b := b.name) (c := c.name)

/-- `target` in place of `source`, and every other variable as it is. -/
def Variable.replace (source target v : Variable) : Variable :=
  if v = source then target else v

@[simp] theorem Variable.replace_source {source target : Variable} :
    replace source target source = target :=
  if_pos rfl

namespace Predicate

/-! ## Closedness -/

section Closed

variable {v : Variable} {p q : Predicate}

theorem isClosedOver_iff : p.isClosedOver v = true ↔ ∀ w ∈ p.leafVariables, w = v := by
  rw [isClosedOver, List.all_eq_true]
  exact forall₂_congr fun _ _ ↦ beq_iff_eq

theorem mem_freeVariables {w : Variable} : w ∈ p.freeVariables ↔ w ∈ p.leafVariables :=
  mem_orderedSet

@[simp] theorem isClosedOver_leaf {w : Variable} {clause : Clause} :
    (leaf w clause).isClosedOver v = (w == v) := by
  simp [isClosedOver, leafVariables]

@[simp] theorem isClosedOver_and :
    (p.and q).isClosedOver v = (p.isClosedOver v && q.isClosedOver v) := by
  rw [isClosedOver, leafVariables, List.all_append, ← isClosedOver, ← isClosedOver]

@[simp] theorem isClosedOver_or :
    (p.or q).isClosedOver v = (p.isClosedOver v && q.isClosedOver v) := by
  rw [isClosedOver, leafVariables, List.all_append, ← isClosedOver, ← isClosedOver]

@[simp] theorem isClosedOver_not : p.not.isClosedOver v = p.isClosedOver v := rfl

@[simp] theorem isClosedOver_never : never.isClosedOver v = true := rfl

end Closed

/-! ## Renaming -/

section Rename

variable {source target : Variable}

theorem leafVariables_rename (p : Predicate) : (p.rename source target).leafVariables =
    p.leafVariables.map (Variable.replace source target) := by
  induction p with
  | leaf w clause => rfl
  | and left right ihl ihr =>
    rw [rename, leafVariables, leafVariables, List.map_append, ihl, ihr]
  | or left right ihl ihr =>
    rw [rename, leafVariables, leafVariables, List.map_append, ihl, ihr]
  | not operand ih => rw [rename, leafVariables, leafVariables, ih]
  | never => rfl

/-- Renaming leaves the clauses as they are. -/
theorem clauses_rename (p : Predicate) : (p.rename source target).clauses = p.clauses := by
  induction p with
  | leaf w clause => rfl
  | and left right ihl ihr => rw [rename, clauses, clauses, ihl, ihr]
  | or left right ihl ihr => rw [rename, clauses, clauses, ihl, ihr]
  | not operand ih => rw [rename, clauses, clauses, ih]
  | never => rfl

theorem isClosedOver_rename {p : Predicate} (h : p.isClosedOver source = true) :
    (p.rename source target).isClosedOver target = true := by
  rw [isClosedOver_iff] at h ⊢
  intro w hw
  rw [leafVariables_rename, List.mem_map] at hw
  obtain ⟨u, hu, rfl⟩ := hw
  rw [h u hu, Variable.replace_source]

/-- Renaming twice is renaming once if it is so for the variable of every leaf. -/
theorem rename_rename_of_forall {p : Predicate} {s t s' t' : Variable}
    (h : ∀ w ∈ p.leafVariables,
      Variable.replace s' t' (Variable.replace s t w) = Variable.replace source target w) :
    (p.rename s t).rename s' t' = p.rename source target := by
  induction p with
  | leaf w clause => exact congrArg (leaf · clause) (h w List.mem_cons_self)
  | and left right ihl ihr =>
    rw [leafVariables, List.forall_mem_append] at h
    rw [rename, rename, rename, ihl h.1, ihr h.2]
  | or left right ihl ihr =>
    rw [leafVariables, List.forall_mem_append] at h
    rw [rename, rename, rename, ihl h.1, ihr h.2]
  | not operand ih => rw [rename, rename, rename, ih h]
  | never => rfl

end Rename

/-! ## Evaluation with several variables -/

section Eval

variable {α : Type} [Entity α]

/-- Whether a predicate holds with all the variables that `bound` picks bound to one entity. -/
def evalOn (bound : Variable → Bool) (entity : α) : Predicate → Bool
  | .leaf v clause => bound v && clause.holds (Entity.fieldValue entity clause.field)
  | .and left right => left.evalOn bound entity && right.evalOn bound entity
  | .or left right => left.evalOn bound entity || right.evalOn bound entity
  | .not operand => !operand.evalOn bound entity
  | .never => false

theorem eval_eq_evalOn (v : Variable) (entity : α) (p : Predicate) :
    p.eval v entity = p.evalOn (· == v) entity := by
  induction p with
  | leaf w clause => rfl
  | and left right ihl ihr => rw [eval, evalOn, ihl, ihr]
  | or left right ihl ihr => rw [eval, evalOn, ihl, ihr]
  | not operand ih => rw [eval, evalOn, ih]
  | never => rfl

/-- Only the variables of the leaves count. -/
theorem evalOn_congr {bound bound' : Variable → Bool} {p : Predicate} (entity : α)
    (h : ∀ w ∈ p.leafVariables, bound w = bound' w) :
    p.evalOn bound entity = p.evalOn bound' entity := by
  induction p with
  | leaf w clause =>
    rw [evalOn, evalOn, h w (List.mem_singleton.mpr rfl)]
  | and left right ihl ihr =>
    rw [evalOn, evalOn, ihl fun w hw ↦ h w (List.mem_append_left _ hw),
      ihr fun w hw ↦ h w (List.mem_append_right _ hw)]
  | or left right ihl ihr =>
    rw [evalOn, evalOn, ihl fun w hw ↦ h w (List.mem_append_left _ hw),
      ihr fun w hw ↦ h w (List.mem_append_right _ hw)]
  | not operand ih => rw [evalOn, evalOn, ih h]
  | never => rfl

/-- **Substitution.**  Renaming the leaves is renaming what is bound. -/
theorem evalOn_rename (source target : Variable) (bound : Variable → Bool) (entity : α)
    (p : Predicate) : (p.rename source target).evalOn bound entity =
      p.evalOn (fun w ↦ bound (Variable.replace source target w)) entity := by
  induction p with
  | leaf w clause => rfl
  | and left right ihl ihr => rw [rename, evalOn, evalOn, ihl, ihr]
  | or left right ihl ihr => rw [rename, evalOn, evalOn, ihl, ihr]
  | not operand ih => rw [rename, evalOn, evalOn, ih]
  | never => rfl

/-- A closed predicate has no unbound leaf: it is worth what it would be with every variable
bound. -/
theorem eval_of_isClosedOver {v : Variable} {p : Predicate} (h : p.isClosedOver v = true)
    (entity : α) : p.eval v entity = p.evalOn (fun _ ↦ true) entity := by
  rw [eval_eq_evalOn]
  exact evalOn_congr entity fun w hw ↦ beq_iff_eq.mpr (isClosedOver_iff.mp h w hw)

/-- A predicate that is closed over its variable keeps its meaning over another. -/
theorem eval_rename {source target : Variable} {p : Predicate}
    (h : p.isClosedOver source = true) (entity : α) :
    (p.rename source target).eval target entity = p.eval source entity := by
  rw [eval_of_isClosedOver (isClosedOver_rename h), evalOn_rename, eval_of_isClosedOver h]

end Eval

end Predicate

/-! ## Criteria -/

namespace Criteria

/-- Whether every leaf of criteria reads from `var`. -/
def isClosedOver (criteria : Criteria) (var : Variable) : Bool :=
  criteria.all (·.isClosedOver var)

variable {a b : Criteria} {v w : Variable}

theorem isClosedOver_both (ha : a.isClosedOver v = true) (hb : b.isClosedOver w = true) :
    (a.both v b w).isClosedOver v = true := by
  cases a with
  | none =>
    cases b with
    | none => rfl
    | some q => exact Predicate.isClosedOver_rename hb
  | some p =>
    cases b with
    | none => exact ha
    | some q =>
      show (p.and (q.rename w v)).isClosedOver v = true
      rw [Predicate.isClosedOver_and, Bool.and_eq_true]
      exact ⟨ha, Predicate.isClosedOver_rename hb⟩

theorem isClosedOver_either (ha : a.isClosedOver v = true) (hb : b.isClosedOver w = true) :
    (a.either v b w).isClosedOver v = true := by
  cases a with
  | none => rfl
  | some p =>
    cases b with
    | none => rfl
    | some q =>
      show (p.or (q.rename w v)).isClosedOver v = true
      rw [Predicate.isClosedOver_or, Bool.and_eq_true]
      exact ⟨ha, Predicate.isClosedOver_rename hb⟩

theorem isClosedOver_negation (ha : a.isClosedOver v = true) :
    a.negation.isClosedOver v = true := by
  cases a with
  | none => rfl
  | some p =>
    cases p with
    | never => rfl
    | leaf _ _ | and _ _ | or _ _ | not _ => exact ha

section Eval

variable {α : Type} [Entity α]

theorem eval_both (hb : b.isClosedOver w = true) (entity : α) :
    (a.both v b w).eval v entity = (a.eval v entity && b.eval w entity) := by
  cases a with
  | none =>
    cases b with
    | none => rfl
    | some q => exact Predicate.eval_rename hb entity
  | some p =>
    cases b with
    | none => exact (Bool.and_true _).symm
    | some q =>
      show (p.eval v entity && (q.rename w v).eval v entity) = _
      rw [Predicate.eval_rename hb]
      rfl

theorem eval_either (hb : b.isClosedOver w = true) (entity : α) :
    (a.either v b w).eval v entity = (a.eval v entity || b.eval w entity) := by
  cases a with
  | none => rfl
  | some p =>
    cases b with
    | none => exact (Bool.or_true _).symm
    | some q =>
      show (p.eval v entity || (q.rename w v).eval v entity) = _
      rw [Predicate.eval_rename hb]
      rfl

theorem eval_negation (entity : α) : a.negation.eval v entity = !a.eval v entity := by
  cases a with
  | none => rfl
  | some p => cases p <;> rfl

end Eval

end Criteria
end Sift
