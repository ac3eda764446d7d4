import Sift.Proofs.Chains

/-!
# The grammar of criteria chains

A program of chain steps can be judged without running it.  `ChainStep.visits` lists every step of
a program, groups and what fills them included, in the order in which a run comes to them; with
each step goes the scope it stands in and whether it is the first there.  From these alone
`Visit.fault?` says what is wrong with a step, if anything is.

* `CriteriaChain.error?_run` — a run fails exactly when some visit has a fault, and with the first
  fault;
* `ChainStep.forall_visits_iff` — no visit has a fault exactly when the program follows the
  grammar, which is said level by level in `ChainStep.FollowsGrammar`;
* `CriteriaChain.holdsFor_run` — the predicate that a run makes is worth the left fold of the truth
  values of its steps.

`CriteriaChain.run_boundTo` puts the three together for the outermost chain.
-/

set_option autoImplicit false
namespace Sift

/-! ## The order of a run -/

/-- A step that a run comes to: the scope it stands in, and whether it is the first there. -/
structure Visit where
  scope : ChainScope
  isFirst : Bool
  step : ChainStep

namespace ChainStep

/-- The scope that a group's steps stand in. -/
def groupScope (foreign : Option Variable) : ChainScope :=
  if foreign.isSome then .root else .group

mutual

/-- Every step of a program at every depth, a group before the steps that fill it. -/
def visits (scope : ChainScope) (isFirst : Bool) : List ChainStep → List Visit
  | [] => []
  | step :: steps => ⟨scope, isFirst, step⟩ :: (within step ++ visits scope false steps)

/-- The steps that fill a group. -/
def within : ChainStep → List Visit
  | .addGroup _ foreign steps => visits (groupScope foreign) true steps
  | .addWhere _ | .addAnd _ | .addOr _ | .addNot _ | .rejected _ => []

end

/-- Whether a step is a `where`. -/
def isWhere : ChainStep → Bool
  | .addWhere _ => true
  | _ => false

/-- The clause of a step that has one. -/
def clause? : ChainStep → Option Clause
  | .addWhere clause | .addAnd clause | .addOr clause | .addNot clause => some clause
  | .addGroup .. | .rejected _ => none

end ChainStep

/-! ## Faults -/

/-- What is wrong with a clause that enters a chain. -/
def Clause.fieldFault? (clause : Clause) : Option SpecError :=
  if clause.field = "" then some (.emptyArgument .clauseField) else none

namespace Visit

/-- What is wrong with going on where there is nothing yet. -/
def startFault? (visit : Visit) : Option SpecError :=
  if visit.isFirst then some (.malformedChain (CriteriaChain.startRule visit.scope)) else none

/-- What is wrong with a `where` where there is something. -/
def whereFault? (visit : Visit) : Option SpecError :=
  if !visit.isFirst && visit.scope == .group then some (.malformedChain .groupHasOneWhere)
  else none

/-- What is wrong with a step where it stands.  A field without a name is noticed before the
grammar is. -/
def fault? (visit : Visit) : Option SpecError :=
  match visit.step with
  | .addWhere clause => clause.fieldFault?.or visit.whereFault?
  | .addAnd clause | .addOr clause | .addNot clause => clause.fieldFault?.or visit.startFault?
  | .addGroup _ _ steps =>
    visit.startFault?.or (if steps.isEmpty then some .emptyGroup else none)
  | .rejected cause => some cause

end Visit

/-! ## Running -/

namespace CriteriaChain

section Steps

variable {chain next : CriteriaChain} {clause : Clause} {connective : Connective}
  {fill : CriteriaChain → Except SpecError CriteriaChain}

/-- A step where a chain stands. -/
def visit (chain : CriteriaChain) (step : ChainStep) : Visit :=
  ⟨chain.scope, !chain.isStarted, step⟩

/-- What is wrong with going on from a chain is what is wrong with any step there. -/
theorem error?_extend (step : ChainStep) (p : Predicate) :
    (chain.extend connective p).error? = (chain.visit step).startFault? := by
  rw [extend, visit, Visit.startFault?, isStarted]
  cases chain.tree <;> rfl

theorem error?_bind_leaf (f : Predicate → Except SpecError CriteriaChain) :
    (chain.leaf clause >>= f).error? =
      clause.fieldFault?.or (f (.leaf chain.var clause)).error? := by
  rw [leaf, Clause.fieldFault?]
  split <;> rfl

theorem error?_addWhere :
    (chain.addWhere clause).error? = (chain.visit (.addWhere clause)).fault? := by
  rw [addWhere, error?_bind_leaf, Visit.fault?, visit, Visit.whereFault?, isStarted]
  cases chain.tree <;> cases chain.scope <;> rfl

theorem error?_addAnd : (chain.addAnd clause).error? = (chain.visit (.addAnd clause)).fault? := by
  rw [addAnd, error?_bind_leaf, error?_extend (.addAnd clause)]
  rfl

theorem error?_addOr : (chain.addOr clause).error? = (chain.visit (.addOr clause)).fault? := by
  rw [addOr, error?_bind_leaf, error?_extend (.addOr clause)]
  rfl

theorem error?_addNot : (chain.addNot clause).error? = (chain.visit (.addNot clause)).fault? := by
  rw [addNot, error?_bind_leaf, error?_extend (.addNot clause)]
  rfl

end Steps

/-! ### What a step leaves -/

/-- After any step there is something, over the same variable and in the same scope. -/
theorem of_runStep_eq_ok {chain next : CriteriaChain} {step : ChainStep}
    (h : chain.runStep step = .ok next) :
    next.var = chain.var ∧ next.scope = chain.scope ∧ next.isStarted = true := by
  cases step with
  | addWhere clause =>
    obtain ⟨-, ⟨-, rfl⟩ | ⟨-, tree, -, rfl⟩⟩ := addWhere_eq_ok.mp h <;> exact ⟨rfl, rfl, rfl⟩
  | addAnd clause =>
    obtain ⟨-, tree, -, rfl⟩ := addAnd_eq_ok.mp h
    exact ⟨rfl, rfl, rfl⟩
  | addOr clause =>
    obtain ⟨-, tree, -, rfl⟩ := addOr_eq_ok.mp h
    exact ⟨rfl, rfl, rfl⟩
  | addNot clause =>
    obtain ⟨-, tree, -, rfl⟩ := addNot_eq_ok.mp h
    exact ⟨rfl, rfl, rfl⟩
  | addGroup connective foreign steps =>
    rw [runStep] at h
    obtain ⟨tree, sub, inner, -, -, -, rfl⟩ := addGroup_eq_ok.mp h
    exact ⟨rfl, rfl, rfl⟩
  | rejected cause => cases h

theorem run_cons (chain : CriteriaChain) (step : ChainStep) (steps : List ChainStep) :
    chain.run (step :: steps) = chain.runStep step >>= (·.run steps) := by
  rw [run]
  cases chain.runStep step <;> rfl

/-- A program leaves something behind unless there was nothing and it has no step. -/
theorem of_run_eq_ok {chain last : CriteriaChain} {steps : List ChainStep}
    (h : chain.run steps = .ok last) :
    last.var = chain.var ∧ last.isStarted = (chain.isStarted || !steps.isEmpty) := by
  induction steps generalizing chain with
  | nil =>
    rw [run, Except.ok.injEq] at h
    subst h
    exact ⟨rfl, (Bool.or_false _).symm⟩
  | cons step steps ih =>
    rw [run_cons, Except.bind_eq_ok] at h
    obtain ⟨next, hnext, h⟩ := h
    obtain ⟨hvar, -, hstarted⟩ := of_runStep_eq_ok hnext
    obtain ⟨hvar', hstarted'⟩ := ih h
    rw [hvar', hvar, hstarted', hstarted]
    exact ⟨rfl, (Bool.or_true _).symm⟩

/-! ### What a run fails with -/

section Group

variable {chain : CriteriaChain} {connective : Connective} {foreign : Option Variable}
  {steps : List ChainStep}

theorem scope_groupStart (v : Variable) :
    (groupStart foreign (groupOver v)).scope = ChainStep.groupScope foreign := by
  cases foreign <;> rfl

theorem isStarted_groupStart (v : Variable) :
    (groupStart foreign (groupOver v)).isStarted = false := by
  cases foreign <;> rfl

/-- A group fails on an empty chain whatever would fill it, then with what its program fails with,
and at last if it has no step. -/
theorem error?_addGroup :
    (chain.runStep (.addGroup connective foreign steps)).error? =
      (chain.visit (.addGroup connective foreign steps)).fault?.or
        ((groupStart foreign (groupOver chain.var)).run steps).error? := by
  rw [runStep, addGroup, Visit.fault?, visit, Visit.startFault?]
  by_cases hstarted : chain.isStarted = true
  · rw [if_pos hstarted, hstarted]
    rcases hrun : (groupStart foreign (groupOver chain.var)).run steps with error | sub
    · cases steps with
      | nil => cases hrun
      | cons step steps => rfl
    · obtain ⟨-, hsub⟩ := of_run_eq_ok hrun
      rw [isStarted_groupStart, Bool.false_or] at hsub
      show (chain.groupTree sub >>= _).error? = _
      rw [groupTree]
      cases steps with
      | nil =>
        rw [run, Except.ok.injEq] at hrun
        subst hrun
        cases foreign <;> rfl
      | cons step steps =>
        obtain ⟨tree, htree⟩ := Option.isSome_iff_exists.mp hsub
        obtain ⟨inner, hinner⟩ := Option.isSome_iff_exists.mp hstarted
        rw [htree]
        show (chain.extend connective _).error? = _
        rw [extend, hinner]
        rfl
  · rw [if_neg hstarted, Bool.eq_false_iff.mpr hstarted]
    rfl

end Group

open ChainStep in
mutual

/-- A step fails with the first fault in it. -/
theorem error?_runStep (chain : CriteriaChain) : (step : ChainStep) →
    (chain.runStep step).error? = (chain.visit step :: within step).findSome? Visit.fault?
  | .addWhere clause => by
    rw [runStep, error?_addWhere, within, List.findSome?_singleton]
  | .addAnd clause => by
    rw [runStep, error?_addAnd, within, List.findSome?_singleton]
  | .addOr clause => by
    rw [runStep, error?_addOr, within, List.findSome?_singleton]
  | .addNot clause => by
    rw [runStep, error?_addNot, within, List.findSome?_singleton]
  | .addGroup connective foreign steps => by
    rw [error?_addGroup, error?_run, scope_groupStart, isStarted_groupStart, within,
      List.findSome?_cons]
    cases Visit.fault? _ <;> rfl
  | .rejected cause => rfl

/-- **A run fails with the first fault that it comes to**, and succeeds if there is none. -/
theorem error?_run (chain : CriteriaChain) : (steps : List ChainStep) →
    (chain.run steps).error? =
      (visits chain.scope (!chain.isStarted) steps).findSome? Visit.fault?
  | [] => rfl
  | step :: steps => by
    have hstep := error?_runStep chain step
    rw [run_cons, visits, ← List.cons_append, List.findSome?_append]
    rcases hrun : chain.runStep step with error | next
    · rw [hrun] at hstep
      rw [visit] at hstep
      rw [← hstep]
      rfl
    · obtain ⟨-, hscope, hstarted⟩ := of_runStep_eq_ok hrun
      have hrest := error?_run next steps
      rw [hrun] at hstep
      rw [visit] at hstep
      rw [hscope, hstarted] at hrest
      rw [← hstep]
      exact hrest

end

end CriteriaChain

/-! ## The grammar -/

namespace ChainStep

/-- Every step of a program at every depth. -/
def everyStep (program : List ChainStep) : List ChainStep :=
  (visits .root true program).map Visit.step

/-- What a scope asks of the steps at its own level: the first is a `where`, and in a group no
other is. -/
def Opens (scope : ChainScope) : List ChainStep → Prop
  | [] => True
  | first :: rest =>
    first.isWhere = true ∧ (scope = .group → ∀ step ∈ rest, step.isWhere = false)

/-- The grammar of programs for the outermost chain. -/
structure FollowsGrammar (program : List ChainStep) : Prop where
  /-- The program is empty or starts with a `where`. -/
  opens : Opens .root program
  /-- Each group, at any depth, has steps that follow the rule of their scope. -/
  groups : ∀ connective foreign steps, .addGroup connective foreign steps ∈ everyStep program →
    steps ≠ [] ∧ Opens (groupScope foreign) steps
  /-- Each clause names a field. -/
  fields : ∀ step ∈ everyStep program, ∀ clause ∈ step.clause?, clause.field ≠ ""
  /-- Each clause could be made. -/
  clauses : ∀ cause, .rejected cause ∉ everyStep program

end ChainStep

namespace Visit

open ChainStep

/-- Whether a step may stand where it does: nothing but a `where` comes first, and in a group
nothing else is one. -/
def IsInPlace (visit : Visit) : Prop :=
  if visit.isFirst then visit.step.isWhere = true
  else visit.scope = .group → visit.step.isWhere = false

theorem fieldFault?_eq_none {clause : Clause} :
    clause.fieldFault? = none ↔ clause.field ≠ "" := by
  rw [Clause.fieldFault?]
  split <;> simp_all

theorem fault?_eq_none (visit : Visit) : visit.fault? = none ↔
    (∀ clause ∈ visit.step.clause?, clause.field ≠ "") ∧
    (∀ cause, visit.step ≠ .rejected cause) ∧
    (∀ connective foreign, visit.step ≠ .addGroup connective foreign []) ∧ visit.IsInPlace := by
  obtain ⟨scope, isFirst, step⟩ := visit
  cases step with
  | addWhere clause =>
    cases isFirst <;> cases scope <;>
      simp [fault?, whereFault?, IsInPlace, clause?, isWhere, fieldFault?_eq_none]
  | addAnd clause =>
    cases isFirst <;> simp [fault?, startFault?, IsInPlace, clause?, isWhere, fieldFault?_eq_none]
  | addOr clause =>
    cases isFirst <;> simp [fault?, startFault?, IsInPlace, clause?, isWhere, fieldFault?_eq_none]
  | addNot clause =>
    cases isFirst <;> simp [fault?, startFault?, IsInPlace, clause?, isWhere, fieldFault?_eq_none]
  | addGroup connective foreign steps =>
    cases isFirst <;> simp [fault?, startFault?, IsInPlace, clause?, isWhere]
  | rejected cause => simp [fault?]

end Visit

namespace ChainStep

/-- Whether the steps at one level are in place, from the first one or from a later one on. -/
def AreInPlace (scope : ChainScope) (isFirst : Bool) : List ChainStep → Prop
  | [] => True
  | step :: steps => Visit.IsInPlace ⟨scope, isFirst, step⟩ ∧ AreInPlace scope false steps

theorem areInPlace_false_iff {scope : ChainScope} {steps : List ChainStep} :
    AreInPlace scope false steps ↔ (scope = .group → ∀ step ∈ steps, step.isWhere = false) := by
  induction steps with
  | nil => exact ⟨fun _ _ ↦ nofun, fun _ ↦ trivial⟩
  | cons step steps ih =>
    rw [AreInPlace, ih]
    simp only [List.forall_mem_cons]
    exact ⟨fun ⟨h, hsteps⟩ hscope ↦ ⟨h hscope, hsteps hscope⟩,
      fun h ↦ ⟨fun hscope ↦ (h hscope).1, fun hscope ↦ (h hscope).2⟩⟩

theorem areInPlace_true_iff {scope : ChainScope} {steps : List ChainStep} :
    AreInPlace scope true steps ↔ Opens scope steps := by
  cases steps with
  | nil => exact Iff.rfl
  | cons step steps =>
    rw [AreInPlace, areInPlace_false_iff]
    rfl

/-- Whether the steps of every group among some steps are in place. -/
def GroupsOpen (visits : List Visit) : Prop :=
  ∀ connective foreign steps, .addGroup connective foreign steps ∈ visits.map Visit.step →
    Opens (groupScope foreign) steps

theorem groupsOpen_append {visits visits' : List Visit} :
    GroupsOpen (visits ++ visits') ↔ GroupsOpen visits ∧ GroupsOpen visits' := by
  simp only [GroupsOpen, List.map_append, List.mem_append, or_imp, forall_and]

theorem groupsOpen_singleton {scope : ChainScope} {isFirst : Bool} {connective : Connective}
    {foreign : Option Variable} {steps : List ChainStep} :
    GroupsOpen [⟨scope, isFirst, .addGroup connective foreign steps⟩] ↔
      Opens (groupScope foreign) steps := by
  refine ⟨fun h ↦ h connective foreign steps List.mem_cons_self, ?_⟩
  intro h _ _ _ hmem
  cases List.mem_singleton.mp hmem
  exact h

mutual

theorem forall_within_isInPlace (scope : ChainScope) (isFirst : Bool) : (step : ChainStep) →
    ((∀ visit ∈ within step, visit.IsInPlace) ↔ GroupsOpen (⟨scope, isFirst, step⟩ :: within step))
  | .addWhere clause => by simp [within, GroupsOpen]
  | .addAnd clause => by simp [within, GroupsOpen]
  | .addOr clause => by simp [within, GroupsOpen]
  | .addNot clause => by simp [within, GroupsOpen]
  | .rejected cause => by simp [within, GroupsOpen]
  | .addGroup connective foreign steps => by
    rw [within, forall_visits_isInPlace, areInPlace_true_iff, ← List.singleton_append,
      groupsOpen_append, groupsOpen_singleton]

/-- The steps of a program are in place at every depth when those at its own level are and those
of every group in it. -/
theorem forall_visits_isInPlace (scope : ChainScope) (isFirst : Bool) : (steps : List ChainStep) →
    ((∀ visit ∈ visits scope isFirst steps, visit.IsInPlace) ↔
      AreInPlace scope isFirst steps ∧ GroupsOpen (visits scope isFirst steps))
  | [] => by simp [visits, AreInPlace, GroupsOpen]
  | step :: steps => by
    rw [visits, List.forall_mem_cons, List.forall_mem_append, forall_within_isInPlace scope isFirst,
      forall_visits_isInPlace scope false steps, AreInPlace, ← List.cons_append, groupsOpen_append]
    exact ⟨fun ⟨h, hwithin, hsteps, hgroups⟩ ↦ ⟨⟨h, hsteps⟩, hwithin, hgroups⟩,
      fun ⟨⟨h, hsteps⟩, hwithin, hgroups⟩ ↦ ⟨h, hwithin, hsteps, hgroups⟩⟩

end

/-- **No step of a program has a fault when the program follows the grammar**, and only then. -/
theorem forall_visits_iff {program : List ChainStep} :
    (∀ visit ∈ visits .root true program, visit.fault? = none) ↔ FollowsGrammar program := by
  have hplaces := forall_visits_isInPlace .root true program
  rw [areInPlace_true_iff] at hplaces
  simp only [Visit.fault?_eq_none, forall_and]
  rw [hplaces]
  constructor
  · rintro ⟨hfields, hclauses, hempty, hopens, hgroups⟩
    refine ⟨hopens, fun connective foreign steps h ↦ ⟨?_, hgroups _ _ _ h⟩, ?_, fun cause h ↦ ?_⟩
    · rintro rfl
      obtain ⟨visit, hvisit, heq⟩ := List.mem_map.mp h
      exact hempty visit hvisit _ _ heq
    · intro step h
      obtain ⟨visit, hvisit, rfl⟩ := List.mem_map.mp h
      exact hfields visit hvisit
    · obtain ⟨visit, hvisit, heq⟩ := List.mem_map.mp h
      exact hclauses visit hvisit cause heq
  · intro h
    have hmem : ∀ visit ∈ visits .root true program, visit.step ∈ everyStep program :=
      fun _ ↦ List.mem_map_of_mem
    refine ⟨fun visit hvisit ↦ h.fields _ (hmem visit hvisit), fun visit hvisit cause heq ↦ ?_,
      fun visit hvisit connective foreign heq ↦ ?_, h.opens,
      fun connective foreign steps hgroup ↦ (h.groups _ _ _ hgroup).2⟩
    · exact h.clauses cause (heq ▸ hmem visit hvisit)
    · exact (h.groups _ _ _ (heq ▸ hmem visit hvisit)).1 rfl

end ChainStep

/-! ## Meaning -/

section Meaning

variable {α : Type} [Entity α]

/-- A truth value joined to the one before it. -/
def Connective.joinTruth : Connective → Bool → Bool → Bool
  | .and, before, value => before && value
  | .or, before, value => before || value

/-- Whether a clause holds for an entity. -/
def Clause.holdsFor (clause : Clause) (entity : α) : Bool :=
  clause.holds (Entity.fieldValue entity clause.field)

namespace ChainStep

mutual

/-- What is true of an entity once a step is joined to what was true before. -/
def joinTruth (entity : α) (before : Bool) : ChainStep → Bool
  | .addWhere clause | .addAnd clause => before && clause.holdsFor entity
  | .addOr clause => before || clause.holdsFor entity
  | .addNot clause => before && !clause.holdsFor entity
  | .addGroup connective _ steps => connective.joinTruth before (joinTruths entity true steps)
  | .rejected _ => before

/-- What is true of an entity once steps are joined one after the other. -/
def joinTruths (entity : α) (before : Bool) : List ChainStep → Bool
  | [] => before
  | step :: steps => joinTruths entity (joinTruth entity before step) steps

end

/-- Joining is a left fold.  A group is worth the fold of its own steps. -/
theorem joinTruths_eq_foldl (entity : α) (before : Bool) (steps : List ChainStep) :
    joinTruths entity before steps = steps.foldl (joinTruth entity) before := by
  induction steps generalizing before with
  | nil => rfl
  | cons step steps ih => exact ih _

end ChainStep

theorem Predicate.eval_leaf_self (v : Variable) (clause : Clause) (entity : α) :
    (Predicate.leaf v clause).eval v entity = clause.holdsFor entity := by
  rw [Predicate.eval, beq_self_eq_true, Bool.true_and]
  rfl

theorem Connective.eval_join (connective : Connective) (v : Variable) (p q : Predicate)
    (entity : α) : (connective.join p q).eval v entity =
      connective.joinTruth (p.eval v entity) (q.eval v entity) := by
  cases connective <;> rfl

namespace CriteriaChain

/-- Whether what a chain has so far holds for an entity. -/
def holdsFor (chain : CriteriaChain) (entity : α) : Bool :=
  Criteria.eval chain.var entity chain.tree

theorem holdsFor_of_tree {chain : CriteriaChain} {tree : Predicate} (h : chain.tree = some tree)
    (entity : α) : chain.holdsFor entity = tree.eval chain.var entity := by
  rw [holdsFor, h]
  rfl

mutual

/-- A step joins its truth value to what a chain was worth.  A group's chain is worth the same over
the variable of the chain around it, since it is closed. -/
theorem holdsFor_runStep {chain next : CriteriaChain} (entity : α) :
    (step : ChainStep) → chain.runStep step = .ok next →
      next.holdsFor entity = step.joinTruth entity (chain.holdsFor entity)
  | .addWhere clause, h => by
    rw [ChainStep.joinTruth]
    obtain ⟨-, ⟨htree, rfl⟩ | ⟨-, tree, htree, rfl⟩⟩ := addWhere_eq_ok.mp h
    · rw [holdsFor_of_tree rfl, Predicate.eval_leaf_self, holdsFor, htree]
      rfl
    · rw [holdsFor_of_tree rfl, holdsFor_of_tree htree, Predicate.eval, Predicate.eval_leaf_self]
  | .addAnd clause, h => by
    obtain ⟨-, tree, htree, rfl⟩ := addAnd_eq_ok.mp h
    rw [ChainStep.joinTruth, holdsFor_of_tree rfl, holdsFor_of_tree htree, Predicate.eval,
      Predicate.eval_leaf_self]
  | .addOr clause, h => by
    obtain ⟨-, tree, htree, rfl⟩ := addOr_eq_ok.mp h
    rw [ChainStep.joinTruth, holdsFor_of_tree rfl, holdsFor_of_tree htree, Predicate.eval,
      Predicate.eval_leaf_self]
  | .addNot clause, h => by
    obtain ⟨-, tree, htree, rfl⟩ := addNot_eq_ok.mp h
    rw [ChainStep.joinTruth, holdsFor_of_tree rfl, holdsFor_of_tree htree, Predicate.eval,
      Predicate.eval, Predicate.eval_leaf_self]
  | .addGroup connective foreign steps, h => by
    rw [runStep] at h
    obtain ⟨tree, sub, inner, htree, hsub, hinner, rfl⟩ := addGroup_eq_ok.mp h
    have hclosed : inner.isClosedOver sub.var = true := isClosedOver_of_group hsub hinner
    have hvalue : inner.eval sub.var entity = ChainStep.joinTruths entity true steps := by
      have hrun := holdsFor_run entity steps hsub
      rw [holdsFor_of_tree hinner] at hrun
      rw [hrun]
      cases foreign <;> rfl
    rw [ChainStep.joinTruth, holdsFor_of_tree rfl, holdsFor_of_tree htree, Connective.eval_join,
      Predicate.eval_rename hclosed, hvalue]
  | .rejected _, h => nomatch h

/-- **What a run makes** is worth the truth values of its steps, joined one after the other to what
the chain was worth. -/
theorem holdsFor_run {chain last : CriteriaChain} (entity : α) :
    (steps : List ChainStep) → chain.run steps = .ok last →
      last.holdsFor entity = ChainStep.joinTruths entity (chain.holdsFor entity) steps
  | [], h => Except.ok.inj h ▸ rfl
  | step :: steps, h => by
    rw [run_cons, Except.bind_eq_ok] at h
    obtain ⟨next, hnext, h⟩ := h
    rw [holdsFor_run entity steps h, holdsFor_runStep entity step hnext, ChainStep.joinTruths]

end

end CriteriaChain
end Meaning

/-! ## The outermost chain -/

/-- **A chain accepts its grammar and nothing else.**  A program succeeds on the empty outermost
chain when it follows the grammar.  Otherwise it fails with the fault of the first step, in the
order of the run, that has one.  The predicate that it makes, if it has a step at all, is worth the
left fold of the truth values of the steps. -/
theorem CriteriaChain.run_boundTo (v : Variable) (program : List ChainStep) :
    ((∃ chain, (boundTo v).run program = .ok chain) ↔ ChainStep.FollowsGrammar program) ∧
    (∀ error, (boundTo v).run program = .error error ↔
      (ChainStep.visits .root true program).findSome? Visit.fault? = some error) ∧
    ∀ chain, (boundTo v).run program = .ok chain → (program = [] → chain = boundTo v) ∧
      (program ≠ [] → ∃ tree, chain.tree = some tree ∧ chain.var = v ∧
        ∀ (α : Type) [Entity α] (entity : α), tree.eval v entity =
          program.foldl (ChainStep.joinTruth entity) true) := by
  have hrun : ((boundTo v).run program).error? =
      (ChainStep.visits .root true program).findSome? Visit.fault? := error?_run _ program
  refine ⟨?_, fun error ↦ ?_, fun chain h ↦ ⟨?_, fun hne ↦ ?_⟩⟩
  · rw [← Except.error?_eq_none, hrun, List.findSome?_eq_none_iff, ChainStep.forall_visits_iff]
  · rw [← Except.error?_eq_some, hrun]
  · rintro rfl
    exact (Except.ok.inj h).symm
  · obtain ⟨hvar, hstarted⟩ := of_run_eq_ok h
    rw [List.isEmpty_eq_false_iff.mpr hne] at hstarted
    obtain ⟨tree, htree⟩ := Option.isSome_iff_exists.mp hstarted
    refine ⟨tree, htree, hvar, fun α _ entity ↦ ?_⟩
    have hvalue := holdsFor_run entity program h
    rw [holdsFor_of_tree htree, hvar, ChainStep.joinTruths_eq_foldl] at hvalue
    exact hvalue

/-- A group on an empty chain fails before its steps are come to. -/
example : (CriteriaChain.boundTo .default).run
    [.addGroup .or none [.addWhere ⟨"", .isNull, .null⟩], .addAnd ⟨"", .isNull, .null⟩] =
      .error (.malformedChain .chainStartsWithWhere) := rfl

end Sift
