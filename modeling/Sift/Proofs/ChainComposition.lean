import Sift.Proofs.ChainGrammar
import Sift.Specification.Builder

/-!
# Chains as compositions

A program of chain steps can also be read as a composition of specifications.  Each clause is a
specification of its own, each group is composed by itself, and every step joins the next of these
to what there is.  The parts may be over any variables: `ChainStep.compose` is given one for each
part, whatever they are, and composing restates the parts.

A chain never restates anything but groups, and composing restates every part, so the two come to
their predicates in different ways.  `CriteriaChain.RestatedBy` is what they have in common at each
step: the criteria of the composition are the predicate of the chain over the variable of the
composition.

* `Predicate.rename_rename` — a closed predicate that is restated twice might have been once;
* `CriteriaChain.exists_composeStep` and `exists_composeSteps` — a step and a program keep what
  they have in common.

`CriteriaChain.tree_eq_compose` is the case in which both are over one variable.
-/

set_option autoImplicit false
namespace Sift

/-! ## Specifications of one clause -/

/-- The specification that is one clause over a variable. -/
def Specification.ofClause (v : Variable) (clause : Clause) : Specification :=
  ofCriteria v (some (.leaf v clause))

/-- It is what a builder makes of the clause. -/
theorem SpecificationBuilder.run_ofClause (v : Variable) {clause : Clause}
    (h : clause.field ≠ "") :
    (new.run [.boundTo v, .addWhere clause]).map build = .ok (.ofClause v clause) := by
  have hwhere : (CriteriaChain.boundTo v).addWhere clause =
      .ok { CriteriaChain.boundTo v with tree := some (.leaf v clause) } :=
    CriteriaChain.addWhere_eq_ok.mpr ⟨h, .inl ⟨rfl, rfl⟩⟩
  simp only [run, runStep, withCriteria, new, boundTo, hwhere]
  rfl

/-- How a connective joins specifications. -/
def Connective.compose : Connective → Specification → Specification → Specification
  | .and => .and
  | .or => .or

/-! ## Composing a program -/

namespace ChainStep

/-- A variable for each part of a program.  A part is given by its place: the number of its step
among those around it, before the place of the group that these fill. -/
abbrev Binding := List Nat → Variable

mutual

/-- Joins a step to what was composed before it. -/
def composeStep (binding : Binding) (place : List Nat) (before : Specification) :
    ChainStep → Option Specification
  | .addWhere clause | .addAnd clause => some (before.and (.ofClause (binding place) clause))
  | .addOr clause => some (before.or (.ofClause (binding place) clause))
  | .addNot clause => some (before.and (Specification.ofClause (binding place) clause).not)
  | .addGroup connective _ steps =>
    (compose binding place (binding place) steps).map (connective.compose before)
  | .rejected _ => none

/-- Joins steps one after the other, the first of them with a given number. -/
def composeSteps (binding : Binding) (around : List Nat) (number : Nat) (before : Specification) :
    List ChainStep → Option Specification
  | [] => some before
  | step :: steps =>
    (composeStep binding (number :: around) before step).bind fun next ↦
      composeSteps binding around (number + 1) next steps

/-- Composes a program that starts with a `where`, whose clause is over a given variable. -/
def compose (binding : Binding) (around : List Nat) (v : Variable) :
    List ChainStep → Option Specification
  | .addWhere clause :: steps => composeSteps binding around 1 (.ofClause v clause) steps
  | _ => none

end

end ChainStep

/-! ## Restating twice -/

theorem Predicate.rename_rename {source middle target : Variable} {p : Predicate}
    (h : p.isClosedOver source = true) :
    (p.rename source middle).rename middle target = p.rename source target :=
  rename_rename_of_forall fun v hv ↦ by
    rw [isClosedOver_iff.mp h v hv, Variable.replace_source, Variable.replace_source,
      Variable.replace_source]

/-! ## Steps and programs -/

namespace CriteriaChain

/-- Whether a specification has the predicate of a chain for its criteria, over its own variable. -/
def RestatedBy (chain : CriteriaChain) (s : Specification) : Prop :=
  ∃ tree, chain.tree = some tree ∧ s.criteria = some (tree.rename chain.var s.var)

namespace RestatedBy

variable {chain sub : CriteriaChain} {s t : Specification}

/-- A chain with one clause, and the specification that is the clause. -/
theorem ofClause (chain : CriteriaChain) (v : Variable) (clause : Clause) :
    RestatedBy { chain with tree := some (.leaf chain.var clause) } (.ofClause v clause) := by
  refine ⟨_, rfl, ?_⟩
  show some (Predicate.leaf v clause) =
    some (.leaf (if chain.var = chain.var then v else chain.var) clause)
  rw [if_pos rfl]

/-- To join what restates a predicate is to join the predicate. -/
theorem join (connective : Connective) {tree p q : Predicate} (htree : chain.tree = some tree)
    (h : chain.RestatedBy s) (ht : t.criteria = some q)
    (hq : q.rename t.var s.var = p.rename chain.var s.var) :
    RestatedBy { chain with tree := some (connective.join tree p) } (connective.compose s t) := by
  obtain ⟨tree', htree', hs⟩ := h
  rw [htree, Option.some.injEq] at htree'
  subst htree'
  refine ⟨_, rfl, ?_⟩
  cases connective with
  | and =>
    show Criteria.both s.criteria s.var t.criteria t.var = some (.and _ (p.rename chain.var s.var))
    rw [hs, ht, ← hq]
    rfl
  | or =>
    show Criteria.either s.criteria s.var t.criteria t.var = some (.or _ (p.rename chain.var s.var))
    rw [hs, ht, ← hq]
    rfl

theorem join_clause (connective : Connective) {tree : Predicate} (htree : chain.tree = some tree)
    (h : chain.RestatedBy s) (v : Variable) (clause : Clause) :
    RestatedBy { chain with tree := some (connective.join tree (.leaf chain.var clause)) }
      (connective.compose s (.ofClause v clause)) := by
  refine h.join connective htree rfl ?_
  show Predicate.leaf (if v = v then s.var else v) clause =
    .leaf (if chain.var = chain.var then s.var else chain.var) clause
  rw [if_pos rfl, if_pos rfl]

/-- A clause that is ruled out is restated as any clause is. -/
theorem join_not {tree : Predicate} (htree : chain.tree = some tree) (h : chain.RestatedBy s)
    (v : Variable) (clause : Clause) :
    RestatedBy { chain with tree := some (.and tree (.not (.leaf chain.var clause))) }
      (s.and (Specification.ofClause v clause).not) := by
  refine h.join (t := (Specification.ofClause v clause).not) .and htree rfl ?_
  show Predicate.not (.leaf (if v = v then s.var else v) clause) =
    .not (.leaf (if chain.var = chain.var then s.var else chain.var) clause)
  rw [if_pos rfl, if_pos rfl]

/-- A group may be restated over the variable of its own composition or over that of the chain
around it: over the variable of the composition around it, the two are the same. -/
theorem join_group (connective : Connective) {tree inner : Predicate}
    (htree : chain.tree = some tree) (h : chain.RestatedBy s) (hinner : sub.tree = some inner)
    (hclosed : inner.isClosedOver sub.var = true) (hsub : sub.RestatedBy t) :
    RestatedBy { chain with
      tree := some (connective.join tree (inner.rename sub.var chain.var)) }
      (connective.compose s t) := by
  obtain ⟨inner', hinner', ht⟩ := hsub
  rw [hinner, Option.some.injEq] at hinner'
  subst hinner'
  refine h.join connective htree ht ?_
  rw [Predicate.rename_rename hclosed, Predicate.rename_rename hclosed]

end RestatedBy

/-- Only a `where` goes on from an empty chain. -/
theorem exists_addWhere_of_runStep {chain next : CriteriaChain} (hempty : chain.tree = none)
    {step : ChainStep} (h : chain.runStep step = .ok next) :
    ∃ clause, step = .addWhere clause ∧
      next = { chain with tree := some (.leaf chain.var clause) } := by
  have hnone {tree : Predicate} : chain.tree ≠ some tree := by
    rw [hempty]
    exact Option.some_ne_none tree |>.symm
  cases step with
  | addWhere clause =>
    obtain ⟨-, ⟨-, rfl⟩ | ⟨-, tree, htree, -⟩⟩ := addWhere_eq_ok.mp h
    · exact ⟨clause, rfl, rfl⟩
    · exact absurd htree hnone
  | addAnd clause =>
    obtain ⟨-, tree, htree, -⟩ := addAnd_eq_ok.mp h
    exact absurd htree hnone
  | addOr clause =>
    obtain ⟨-, tree, htree, -⟩ := addOr_eq_ok.mp h
    exact absurd htree hnone
  | addNot clause =>
    obtain ⟨-, tree, htree, -⟩ := addNot_eq_ok.mp h
    exact absurd htree hnone
  | addGroup connective foreign steps =>
    rw [runStep] at h
    obtain ⟨tree, sub, inner, htree, -⟩ := addGroup_eq_ok.mp h
    exact absurd htree hnone
  | rejected cause => cases h

open ChainStep RestatedBy

mutual

/-- **A step is restated by the composition with it.** -/
theorem exists_composeStep {chain next : CriteriaChain} {s : Specification}
    (binding : Binding) (place : List Nat) (hs : chain.RestatedBy s) :
    (step : ChainStep) → chain.runStep step = .ok next →
      ∃ t, composeStep binding place s step = some t ∧ t.var = s.var ∧ next.RestatedBy t
  | .addWhere clause, h => by
    obtain ⟨-, ⟨hempty, -⟩ | ⟨-, tree, htree, rfl⟩⟩ := addWhere_eq_ok.mp h
    · obtain ⟨tree, htree, -⟩ := hs
      rw [hempty] at htree
      cases htree
    · exact ⟨_, rfl, rfl, hs.join_clause .and htree _ clause⟩
  | .addAnd clause, h => by
    obtain ⟨-, tree, htree, rfl⟩ := addAnd_eq_ok.mp h
    exact ⟨_, rfl, rfl, hs.join_clause .and htree _ clause⟩
  | .addOr clause, h => by
    obtain ⟨-, tree, htree, rfl⟩ := addOr_eq_ok.mp h
    exact ⟨_, rfl, rfl, hs.join_clause .or htree _ clause⟩
  | .addNot clause, h => by
    obtain ⟨-, tree, htree, rfl⟩ := addNot_eq_ok.mp h
    exact ⟨_, rfl, rfl, hs.join_not htree _ clause⟩
  | .addGroup connective foreign steps, h => by
    rw [runStep] at h
    obtain ⟨tree, sub, inner, htree, hsub, hinner, rfl⟩ := addGroup_eq_ok.mp h
    have hempty : (groupStart foreign (groupOver chain.var)).tree = none := by
      cases foreign <;> rfl
    obtain ⟨t, ht, -, hrestated⟩ :=
      exists_compose binding place (binding place) hempty steps hsub hinner
    refine ⟨connective.compose s t, ?_, ?_, ?_⟩
    · rw [composeStep, ht, Option.map_some]
    · cases connective <;> rfl
    · exact hs.join_group connective htree hinner (isClosedOver_of_group hsub hinner) hrestated
  | .rejected _, h => nomatch h

/-- **A program is restated by the composition with its steps**, one after the other. -/
theorem exists_composeSteps {chain last : CriteriaChain} {s : Specification}
    (binding : Binding) (around : List Nat) (number : Nat) (hs : chain.RestatedBy s) :
    (steps : List ChainStep) → chain.run steps = .ok last →
      ∃ t, composeSteps binding around number s steps = some t ∧ t.var = s.var ∧
        last.RestatedBy t
  | [], h => ⟨s, rfl, rfl, Except.ok.inj h ▸ hs⟩
  | step :: steps, h => by
    rw [run_cons, Except.bind_eq_ok] at h
    obtain ⟨next, hnext, h⟩ := h
    obtain ⟨t, ht, hvar, hrestated⟩ :=
      exists_composeStep binding (number :: around) hs step hnext
    obtain ⟨u, hu, hvar', hrestated'⟩ :=
      exists_composeSteps binding around (number + 1) hrestated steps h
    refine ⟨u, ?_, hvar'.trans hvar, hrestated'⟩
    rw [composeSteps, ht, Option.bind_some, hu]

/-- A program that makes something of an empty chain starts with a `where`, and is restated by its
composition. -/
theorem exists_compose {chain last : CriteriaChain} {tree : Predicate} (binding : Binding)
    (around : List Nat) (v : Variable) (hempty : chain.tree = none) :
    (steps : List ChainStep) → chain.run steps = .ok last → last.tree = some tree →
      ∃ t, compose binding around v steps = some t ∧ t.var = v ∧ last.RestatedBy t
  | [], h, htree => by
    obtain rfl := Except.ok.inj h
    rw [hempty] at htree
    cases htree
  | step :: steps, h, _ => by
    rw [run_cons, Except.bind_eq_ok] at h
    obtain ⟨next, hnext, h⟩ := h
    obtain ⟨clause, rfl, rfl⟩ := exists_addWhere_of_runStep hempty hnext
    exact exists_composeSteps binding around 1 (.ofClause chain v clause) steps h

end

/-- **An accepted program builds the criteria of its composition**, whatever variables the parts
are over, and the composition is over the variable of the chain. -/
theorem tree_eq_compose {v : Variable} {clause : Clause} {steps : List ChainStep}
    {chain : CriteriaChain} (h : (boundTo v).run (.addWhere clause :: steps) = .ok chain)
    (binding : Binding) :
    ∃ s tree, compose binding [] v (.addWhere clause :: steps) = some s ∧ s.var = v ∧
      chain.tree = some tree ∧ s.criteria = some tree := by
  obtain ⟨hvar, hstarted⟩ := of_run_eq_ok h
  obtain ⟨tree, htree⟩ := Option.isSome_iff_exists.mp hstarted
  obtain ⟨s, hs, hsvar, tree', htree', hcriteria⟩ := exists_compose binding [] v rfl _ h htree
  have hsame : chain.var = s.var := hvar.trans hsvar.symm
  refine ⟨s, tree', hs, hsvar, htree', ?_⟩
  rw [hcriteria, hsame, Predicate.rename_self]

/-- A variable of its own for each place. -/
def placeNames : ChainStep.Binding :=
  fun place ↦ ⟨String.ofList (place.map fun number ↦ Char.ofNat (97 + number))⟩

/-- A group over a variable of its own, with a group in it. -/
def nestedGroups : ChainStep :=
  .addGroup .or (some ⟨"q"⟩) [.addWhere ⟨"name", .notNull, .null⟩,
    .addNot ⟨"hidden", .equal, .bool true⟩,
    .addGroup .and none [.addWhere ⟨"parent", .isNull, .null⟩]]

theorem tree_eq_compose_placeNames :
    ∃ s tree, (boundTo ⟨"p"⟩).run [.addWhere ⟨"active", .equal, .bool true⟩, nestedGroups] =
        .ok ⟨⟨"p"⟩, .root, some tree⟩ ∧
      compose placeNames [] ⟨"p"⟩ [.addWhere ⟨"active", .equal, .bool true⟩, nestedGroups] =
        some s ∧ s.var = ⟨"p"⟩ ∧ s.criteria = some tree := by
  have hrun : ∃ tree, (boundTo ⟨"p"⟩).run
      [.addWhere ⟨"active", .equal, .bool true⟩, nestedGroups] =
        .ok ⟨⟨"p"⟩, .root, some tree⟩ := ⟨_, rfl⟩
  obtain ⟨tree, hrun⟩ := hrun
  obtain ⟨s, tree', hs, hvar, htree, hcriteria⟩ := tree_eq_compose hrun placeNames
  cases htree
  exact ⟨s, tree, hrun, hs, hvar, hcriteria⟩

end CriteriaChain
end Sift
