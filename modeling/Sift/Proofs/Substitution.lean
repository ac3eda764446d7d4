import Sift.Proofs.Composition

/-!
# Substitution

`Predicate.rename` replaces a variable in the leaves of any predicate, closed or not.  A leaf on a
variable that is not bound does not hold, and *not* turns this round, so what an open predicate is
worth after the replacement takes some care: `Predicate.rename_substitutes`.

Nothing of a predicate changes but the variables of its leaves.  So what `Variable.replace` makes of
them decides everything: whether two replacements in a row are one
(`Predicate.rename_rename_of_forall`), which variables are read from
(`Predicate.freeVariables_rename`), and what the predicate is worth
(`Predicate.eval_rename_eq_evalOn`).
-/

set_option autoImplicit false
namespace Sift

open Std

/-! ## One variable -/

namespace Variable

variable {source target v : Variable}

theorem replace_of_ne (h : v ≠ source) : replace source target v = v := if_neg h

theorem replace_self (v w : Variable) : replace w w v = v := by
  by_cases h : v = w
  · rw [h, replace_source]
  · exact replace_of_ne h

/-- There is no `source` left to replace. -/
theorem replace_replace (source target v : Variable) :
    replace source target (replace source target v) = replace source target v := by
  by_cases hv : v = source
  · rw [hv, replace_source]
    by_cases ht : target = source
    · rw [ht, replace_source]
    · exact replace_of_ne ht
  · rw [replace_of_ne hv, replace_of_ne hv]

/-- What is not `target` can be put back. -/
theorem replace_replace_back (h : v ≠ target) :
    replace target source (replace source target v) = v := by
  by_cases hv : v = source
  · rw [hv, replace_source, replace_source]
  · rw [replace_of_ne hv, replace_of_ne h]

/-- What becomes `target` is what was one of the two. -/
theorem replace_eq_target_iff : replace source target v = target ↔ v = source ∨ v = target := by
  by_cases hv : v = source
  · rw [hv, replace_source]
    exact ⟨fun _ ↦ .inl rfl, fun _ ↦ rfl⟩
  · rw [replace_of_ne hv]
    exact ⟨.inr, fun h ↦ h.resolve_left hv⟩

/-- Nothing but a third variable becomes one. -/
theorem replace_eq_iff_of_ne {w : Variable} (hs : w ≠ source) (ht : w ≠ target) :
    replace source target v = w ↔ v = w := by
  by_cases hv : v = source
  · rw [hv, replace_source]
    exact ⟨fun h ↦ absurd h.symm ht, fun h ↦ absurd h.symm hs⟩
  · rw [replace_of_ne hv]

end Variable

namespace Predicate

variable {source target : Variable} {p : Predicate}

/-! ## Twice -/

/-- Replacing again changes nothing. -/
theorem rename_idem (source target : Variable) (p : Predicate) :
    (p.rename source target).rename source target = p.rename source target :=
  rename_rename_of_forall fun v _ ↦ Variable.replace_replace source target v

/-- A variable that was not there can be replaced back. -/
theorem rename_back (h : target ∉ p.freeVariables) :
    (p.rename source target).rename target source = p := by
  rw [mem_freeVariables] at h
  calc (p.rename source target).rename target source
      = p.rename source source := rename_rename_of_forall fun v hv ↦ by
        rw [Variable.replace_replace_back (ne_of_mem_of_not_mem hv h), Variable.replace_self]
    _ = p := rename_self source p

/-! ## What is left as it is -/

theorem size_rename (p : Predicate) : (p.rename source target).size = p.size := by
  induction p with
  | leaf v clause => rfl
  | and left right ihl ihr => rw [rename, size, size, ihl, ihr]
  | or left right ihl ihr => rw [rename, size, size, ihl, ihr]
  | not operand ih => rw [rename, size, size, ih]
  | never => rfl

/-! ## Variables -/

theorem freeVariables_rename (p : Predicate) : (p.rename source target).freeVariables =
    orderedSet (p.freeVariables.map (Variable.replace source target)) := by
  rw [freeVariables, leafVariables_rename]
  refine orderedSet_congr fun w ↦ ?_
  rw [List.mem_map, List.mem_map]
  exact exists_congr fun v ↦ and_congr_left' mem_freeVariables.symm

theorem mem_freeVariables_rename {v : Variable} : v ∈ (p.rename source target).freeVariables ↔
    v ∈ p.freeVariables ∧ v ≠ source ∨ v = target ∧ source ∈ p.freeVariables := by
  rw [freeVariables_rename, mem_orderedSet, List.mem_map]
  constructor
  · rintro ⟨w, hw, rfl⟩
    by_cases hs : w = source
    · rw [hs, Variable.replace_source]
      exact .inr ⟨rfl, hs ▸ hw⟩
    · rw [Variable.replace_of_ne hs]
      exact .inl ⟨hw, hs⟩
  · rintro (⟨hv, hs⟩ | ⟨rfl, hs⟩)
    · exact ⟨v, hv, Variable.replace_of_ne hs⟩
    · exact ⟨source, hs, Variable.replace_source⟩

/-! ## Values -/

section Values

variable {α : Type} [Entity α] (entity : α)

/-- With `target` bound, a predicate after the replacement is worth what it was with both variables
bound. -/
theorem eval_rename_eq_evalOn (source target : Variable) (p : Predicate) :
    (p.rename source target).eval target entity =
      p.evalOn (fun v ↦ v == source || v == target) entity := by
  rw [eval_eq_evalOn, evalOn_rename]
  refine evalOn_congr entity fun v _ ↦ ?_
  rw [Bool.eq_iff_iff, Bool.or_eq_true, beq_iff_eq, beq_iff_eq, beq_iff_eq]
  exact Variable.replace_eq_target_iff

theorem eval_rename_of_target_notMem (h : target ∉ p.freeVariables) :
    (p.rename source target).eval target entity = p.eval source entity := by
  rw [mem_freeVariables] at h
  rw [eval_rename_eq_evalOn, eval_eq_evalOn]
  refine evalOn_congr entity fun v hv ↦ ?_
  rw [beq_false_of_ne (ne_of_mem_of_not_mem hv h), Bool.or_false]

theorem eval_rename_of_source_notMem (h : source ∉ p.freeVariables) :
    (p.rename source target).eval target entity = p.eval target entity := by
  rw [mem_freeVariables] at h
  rw [eval_rename_eq_evalOn, eval_eq_evalOn]
  refine evalOn_congr entity fun v hv ↦ ?_
  rw [beq_false_of_ne (ne_of_mem_of_not_mem hv h), Bool.false_or]

/-- With a third variable bound, the replacement does not show. -/
theorem eval_rename_of_ne {v : Variable} (hs : v ≠ source) (ht : v ≠ target) (p : Predicate) :
    (p.rename source target).eval v entity = p.eval v entity := by
  rw [eval_eq_evalOn, evalOn_rename, eval_eq_evalOn]
  refine evalOn_congr entity fun w _ ↦ ?_
  rw [Bool.eq_iff_iff, beq_iff_eq, beq_iff_eq]
  exact Variable.replace_eq_iff_of_ne hs ht

end Values

/-- **Substitution.**  Let `target` take the place of `source` in a predicate, open or closed.  With
`target` bound it is then worth what it was with both variables bound: with `source` alone if
`target` was not in it, and with `target` alone if `source` was not.  With a third variable bound it
is worth what it was.  The variables that it reads from are those from before, with the one in place
of the other; its size and its clauses are the same.  Doing it again changes nothing, and a `target`
that was not there before can be replaced by `source` again. -/
theorem rename_substitutes (source target : Variable) (p : Predicate) :
    let r := p.rename source target
    (∀ (α : Type) [Entity α] (entity : α),
      r.eval target entity = p.evalOn (fun v ↦ v == source || v == target) entity ∧
      (target ∉ p.freeVariables → r.eval target entity = p.eval source entity) ∧
      (source ∉ p.freeVariables → r.eval target entity = p.eval target entity) ∧
      ∀ v, v ≠ source → v ≠ target → r.eval v entity = p.eval v entity) ∧
    r.freeVariables = orderedSet (p.freeVariables.map (Variable.replace source target)) ∧
    (∀ v, v ∈ r.freeVariables ↔
      v ∈ p.freeVariables ∧ v ≠ source ∨ v = target ∧ source ∈ p.freeVariables) ∧
    r.size = p.size ∧ r.clauses = p.clauses ∧
    r.rename source target = r ∧
    (target ∉ p.freeVariables → r.rename target source = p) :=
  ⟨fun _ _ entity ↦ ⟨eval_rename_eq_evalOn entity source target p,
      eval_rename_of_target_notMem entity, eval_rename_of_source_notMem entity,
      fun _ hs ht ↦ eval_rename_of_ne entity hs ht p⟩,
    freeVariables_rename p, fun _ ↦ mem_freeVariables_rename, size_rename p, clauses_rename p,
    rename_idem source target p, rename_back⟩

/-- That a flag is set over a given variable, or is not over another one. -/
def flagOrNotThird (v : Variable) : Predicate :=
  .or (.leaf v ⟨"flag", .equal, .bool true⟩) (.not (.leaf ⟨"r"⟩ ⟨"flag", .equal, .bool true⟩))

/-- It is open whichever variable is bound, and what it is worth depends on which. -/
theorem rename_substitutes_thirdVariable :
    let record : Record := ⟨fun _ ↦ .bool true⟩
    let r := (flagOrNotThird ⟨"q"⟩).rename ⟨"q"⟩ ⟨"p"⟩
    (⟨"p"⟩ ∉ (flagOrNotThird ⟨"q"⟩).freeVariables ∧
      r.eval ⟨"p"⟩ record = (flagOrNotThird ⟨"q"⟩).eval ⟨"q"⟩ record ∧
      r.eval ⟨"p"⟩ record = true ∧ r.rename ⟨"p"⟩ ⟨"q"⟩ = flagOrNotThird ⟨"q"⟩) ∧
    ((⟨"r"⟩ : Variable) ≠ ⟨"q"⟩ ∧ (⟨"r"⟩ : Variable) ≠ ⟨"p"⟩ ∧
      r.eval ⟨"r"⟩ record = (flagOrNotThird ⟨"q"⟩).eval ⟨"r"⟩ record ∧
      r.eval ⟨"r"⟩ record = false) ∧
    ⟨"q"⟩ ∉ (flagOrNotThird ⟨"p"⟩).freeVariables ∧
      ((flagOrNotThird ⟨"p"⟩).rename ⟨"q"⟩ ⟨"p"⟩).eval ⟨"p"⟩ record =
        (flagOrNotThird ⟨"p"⟩).eval ⟨"p"⟩ record := by
  intro record r
  have htarget : ⟨"p"⟩ ∉ (flagOrNotThird ⟨"q"⟩).freeVariables := by decide
  have hsource : ⟨"q"⟩ ∉ (flagOrNotThird ⟨"p"⟩).freeVariables := by decide
  have hne : (⟨"r"⟩ : Variable) ≠ ⟨"q"⟩ := by decide
  have hne' : (⟨"r"⟩ : Variable) ≠ ⟨"p"⟩ := by decide
  obtain ⟨hvalues, -, -, -, -, -, hback⟩ := rename_substitutes ⟨"q"⟩ ⟨"p"⟩ (flagOrNotThird ⟨"q"⟩)
  obtain ⟨-, hbound, -, hthird⟩ := hvalues Record record
  obtain ⟨hvalues', -⟩ := rename_substitutes ⟨"q"⟩ ⟨"p"⟩ (flagOrNotThird ⟨"p"⟩)
  obtain ⟨-, -, hunchanged, -⟩ := hvalues' Record record
  exact ⟨⟨htarget, hbound htarget, by decide, hback htarget⟩,
    ⟨hne, hne', hthird _ hne hne', by decide⟩, hsource, hunchanged hsource⟩

end Predicate
end Sift
