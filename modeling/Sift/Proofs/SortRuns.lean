import Mathlib.Data.List.Induction
import Mathlib.Data.List.TakeWhile
import Sift.Proofs.WellFormed

/-!
# Runs of sort steps

A sort chain is built step by step, and a step that fails leaves the chain as it was.  So all that
counts of a run are the steps that succeed, and of those the ones since the last that started
afresh (`SortChain.StatedBy`).  Each of them that adds a level adds one, with the null policy that
is given last before the next level is added: `SortStep.levelsOf` reads the levels off the steps,
without a chain.

`SortChain.runStep_eq_error_iff` says when a step fails, and with what.  Whether there is a level
yet is all that it asks of the chain, and there is one exactly once a step has started afresh.
`SortChain.attemptAll_accounts` is the result.
-/

set_option autoImplicit false
namespace Sift

/-! ## What steps say -/

namespace SortStep

/-- The key of the level that a step adds. -/
def key? : SortStep → Option String
  | .orderBy key _ | .thenBy key _ => some key
  | .nullsFirst | .nullsLast => none

/-- The level that a step adds, before it is given a policy. -/
def level? : SortStep → Option SortLevel
  | .orderBy key direction | .thenBy key direction => some ⟨key, direction, .unspecified⟩
  | .nullsFirst | .nullsLast => none

/-- The policy that a step gives. -/
def policy? : SortStep → Option NullPolicy
  | .orderBy _ _ | .thenBy _ _ => none
  | .nullsFirst => some .first
  | .nullsLast => some .last

/-- Whether a step starts afresh. -/
def startsAfresh : SortStep → Bool
  | .orderBy _ _ => true
  | _ => false

/-- What a step is as one that needs a level before it. -/
def secondary? : SortStep → Option SecondarySort
  | .orderBy _ _ => none
  | .thenBy _ _ => some .thenBy
  | .nullsFirst => some .nullsFirst
  | .nullsLast => some .nullsLast

/-- The policy of a level that is followed by some steps: the last one that they give before they
add another level. -/
def policyBefore (rest : List SortStep) : NullPolicy :=
  ((rest.takeWhile (·.level?.isNone)).filterMap policy?).getLast?.getD .unspecified

/-- The levels that steps add, in order and with their policies. -/
def levelsOf : List SortStep → List SortLevel
  | [] => []
  | step :: rest =>
    (step.level?.map fun level ↦ { level with nulls := policyBefore rest }).toList ++ levelsOf rest

variable {steps rest : List SortStep} {step : SortStep}

theorem level?_eq_none_of_policy? {nulls : NullPolicy} (h : step.policy? = some nulls) :
    step.level? = none := by
  cases step with
  | orderBy key direction | thenBy key direction => cases h
  | nullsFirst | nullsLast => rfl

theorem policyBefore_append_of_level? {level : SortLevel} (h : step.level? = some level) :
    policyBefore (rest ++ [step]) = policyBefore rest := by
  have htake : (rest ++ [step]).takeWhile (·.level?.isNone) =
      rest.takeWhile (·.level?.isNone) := by
    rw [List.takeWhile_append]
    split
    · rename_i hlength
      rw [List.IsPrefix.eq_of_length (List.takeWhile_prefix _) hlength]
      simp [h]
    · rfl
  rw [policyBefore, policyBefore, htake]

/-- What comes after the next level does not matter. -/
theorem policyBefore_append_of_mem {later : List SortStep}
    (h : ∃ step ∈ rest, step.level? ≠ none) : policyBefore (rest ++ later) = policyBefore rest := by
  obtain ⟨step, hmem, hlevel⟩ := h
  have htake : (rest ++ later).takeWhile (·.level?.isNone) =
      rest.takeWhile (·.level?.isNone) := by
    rw [List.takeWhile_append, if_neg]
    intro hlength
    have hall := List.takeWhile_eq_self_iff.mp (List.IsPrefix.eq_of_length
      (List.takeWhile_prefix _) hlength)
    exact hlevel (Option.isNone_iff_eq_none.mp (hall step hmem))
  rw [policyBefore, policyBefore, htake]

theorem policyBefore_append_of_policy? {nulls : NullPolicy} (h : step.policy? = some nulls)
    (hrest : ∀ step ∈ rest, step.level? = none) : policyBefore (rest ++ [step]) = nulls := by
  have htake : (rest ++ [step]).takeWhile (·.level?.isNone) = rest ++ [step] := by
    rw [List.takeWhile_eq_self_iff]
    intro other hother
    rw [Option.isNone_iff_eq_none]
    obtain hother | hother := List.mem_append.mp hother
    · exact hrest other hother
    · rw [List.mem_singleton.mp hother, level?_eq_none_of_policy? h]
  rw [policyBefore, htake, List.filterMap_append]
  simp [h]

theorem levelsOf_eq_nil (h : ∀ step ∈ steps, step.level? = none) : levelsOf steps = [] := by
  induction steps with
  | nil => rfl
  | cons step rest ih =>
    rw [List.forall_mem_cons] at h
    rw [levelsOf, h.1, ih h.2]
    rfl

/-- A step that adds a level adds it after all others. -/
theorem levelsOf_append_of_level? {level : SortLevel} (h : step.level? = some level) :
    levelsOf (steps ++ [step]) = levelsOf steps ++ [{ level with nulls := .unspecified }] := by
  induction steps with
  | nil => simp [levelsOf, h, policyBefore]
  | cons first rest ih =>
    rw [List.cons_append, levelsOf, levelsOf, policyBefore_append_of_level? h, ih,
      List.append_assoc]

/-- A step that gives a policy gives it to the last level. -/
theorem levelsOf_append_of_policy? {nulls : NullPolicy} (h : step.policy? = some nulls)
    (hsteps : ∃ step ∈ steps, step.level? ≠ none) : ∃ before last,
      levelsOf steps = before ++ [last] ∧
      levelsOf (steps ++ [step]) = before ++ [{ last with nulls }] := by
  induction steps with
  | nil => exact absurd hsteps (by simp)
  | cons first rest ih =>
    by_cases hrest : ∃ step ∈ rest, step.level? ≠ none
    · obtain ⟨before, last, hbefore, hlast⟩ := ih hrest
      refine ⟨(first.level?.map fun level ↦ { level with nulls := policyBefore rest }).toList ++
        before, last, ?_, ?_⟩
      · rw [levelsOf, hbefore, List.append_assoc]
      · rw [List.cons_append, levelsOf, policyBefore_append_of_mem hrest, hlast, List.append_assoc]
    · -- The last level is that of the first step.
      have hnone : ∀ step ∈ rest, step.level? = none := by
        intro other hother
        exact not_not.mp fun hlevel ↦ hrest ⟨other, hother, hlevel⟩
      have hafter : ∀ other ∈ rest ++ [step], other.level? = none := by
        intro other hother
        obtain hother | hother := List.mem_append.mp hother
        · exact hnone other hother
        · rw [List.mem_singleton.mp hother, level?_eq_none_of_policy? h]
      obtain ⟨other, hother, hlevel⟩ := hsteps
      obtain rfl | hother := List.mem_cons.mp hother
      · obtain ⟨level, hlevel⟩ := Option.ne_none_iff_exists'.mp hlevel
        refine ⟨[], { level with nulls := policyBefore rest }, ?_, ?_⟩
        · rw [levelsOf, levelsOf_eq_nil hnone, hlevel]
          rfl
        · rw [List.cons_append, levelsOf, levelsOf_eq_nil hafter,
            policyBefore_append_of_policy? h hnone, hlevel]
          rfl
      · exact absurd (hnone other hother) hlevel

end SortStep

namespace SortChain

variable {chain next : SortChain} {step : SortStep} {done : List SortStep}

/-! ## One step -/

theorem newLevel_eq_error {key : String} {direction : Direction} {error : SpecError} :
    newLevel key direction = .error error ↔ key = "" ∧ error = .emptyArgument .sortKey := by
  rw [newLevel]
  by_cases hkey : key = "" <;> simp [hkey, eq_comm]

theorem setNulls_eq_error {nulls : NullPolicy} {operation : SecondarySort} {error : SpecError} :
    chain.setNulls nulls operation = .error error ↔
      chain.isEmpty = true ∧ error = .missingPrimarySort operation := by
  obtain ⟨levels⟩ := chain
  rw [setNulls, isEmpty]
  cases hlast : levels.getLast? with
  | none => simp [List.getLast?_eq_none_iff.mp hlast, eq_comm]
  | some last =>
    have hlevels : levels ≠ [] := by
      rintro rfl
      cases hlast
    simp [hlevels]

/-- **When a step fails.**  All but a fresh start need a level before them, and this is looked at
first; then the key of a level may not be empty. -/
theorem runStep_eq_error_iff {error : SpecError} : chain.runStep step = .error error ↔
    (chain.isEmpty = true ∧ ∃ operation, step.secondary? = some operation ∧
      error = .missingPrimarySort operation) ∨
    ((chain.isEmpty = false ∨ step.startsAfresh = true) ∧ step.key? = some "" ∧
      error = .emptyArgument .sortKey) := by
  cases step with
  | orderBy key direction =>
    rw [runStep, orderBy, Except.bind_eq_error, newLevel_eq_error]
    simp [SortStep.secondary?, SortStep.startsAfresh, SortStep.key?, pure, Except.pure]
  | thenBy key direction =>
    rw [runStep, thenBy]
    cases chain.isEmpty with
    | true => simp [SortStep.secondary?, SortStep.startsAfresh, eq_comm]
    | false =>
      rw [if_neg Bool.false_ne_true, Except.bind_eq_error, newLevel_eq_error]
      simp [SortStep.startsAfresh, SortStep.key?, pure, Except.pure]
  | nullsFirst =>
    rw [runStep, nullsFirst, setNulls_eq_error]
    simp [SortStep.secondary?, SortStep.key?]
  | nullsLast =>
    rw [runStep, nullsLast, setNulls_eq_error]
    simp [SortStep.secondary?, SortStep.key?]

theorem setNulls_of_append {before : List SortLevel} {last : SortLevel} {nulls : NullPolicy}
    {operation : SecondarySort} (hchain : chain.levels = before ++ [last])
    (h : chain.setNulls nulls operation = .ok next) :
    next.levels = before ++ [{ last with nulls }] := by
  rw [setNulls, hchain, List.getLast?_concat, List.dropLast_concat] at h
  obtain rfl := Except.ok.inj h
  rfl

/-- No step makes a chain empty. -/
theorem isEmpty_of_runStep (h : chain.runStep step = .ok next) : next.isEmpty = false := by
  cases step with
  | orderBy key direction =>
    obtain ⟨level, -, h⟩ := Except.bind_eq_ok.mp h
    obtain rfl := Except.ok.inj h
    rfl
  | thenBy key direction =>
    rw [runStep, thenBy] at h
    split at h
    · cases h
    · obtain ⟨level, -, h⟩ := Except.bind_eq_ok.mp h
      obtain rfl := Except.ok.inj h
      simp [isEmpty]
  | nullsFirst | nullsLast =>
    simp only [runStep, nullsFirst, nullsLast, setNulls] at h
    split at h
    · obtain rfl := Except.ok.inj h
      simp [isEmpty]
    · cases h

/-! ## Runs -/

/-- Attempts a step: one that fails leaves the chain as it was. -/
def attempt (chain : SortChain) (step : SortStep) : SortChain :=
  match chain.runStep step with
  | .ok next => next
  | .error _ => chain

/-- Attempts steps in order. -/
def attemptAll (chain : SortChain) (steps : List SortStep) : SortChain :=
  steps.foldl attempt chain

/-- The steps that succeed when all are attempted in order. -/
def succeeding (chain : SortChain) : List SortStep → List SortStep
  | [] => []
  | step :: rest =>
    match chain.runStep step with
    | .ok next => step :: succeeding next rest
    | .error _ => succeeding chain rest

theorem attempt_of_ok (h : chain.runStep step = .ok next) : chain.attempt step = next := by
  rw [attempt, h]

theorem attempt_of_error {error : SpecError} (h : chain.runStep step = .error error) :
    chain.attempt step = chain := by
  rw [attempt, h]

theorem attemptAll_append (chain : SortChain) (steps more : List SortStep) :
    chain.attemptAll (steps ++ more) = (chain.attemptAll steps).attemptAll more :=
  List.foldl_append

theorem attemptAll_singleton (chain : SortChain) (step : SortStep) :
    chain.attemptAll [step] = chain.attempt step := rfl

theorem succeeding_append (chain : SortChain) (steps more : List SortStep) :
    chain.succeeding (steps ++ more) =
      chain.succeeding steps ++ (chain.attemptAll steps).succeeding more := by
  induction steps generalizing chain with
  | nil => rfl
  | cons step rest ih =>
    rw [List.cons_append, succeeding, succeeding, attemptAll, List.foldl_cons]
    cases hstep : chain.runStep step with
    | ok next => simp only [attempt_of_ok hstep, ih next, List.cons_append, attemptAll]
    | error error => simp only [attempt_of_error hstep, ih chain, attemptAll]

/-- How the steps that succeeded account for a chain: there were none, or it has the levels that
they added since the last fresh start. -/
inductive StatedBy : List SortStep → SortChain → Prop where
  | empty : StatedBy [] .empty
  | since (before : List SortStep) (key : String) (direction : Direction)
    {rest : List SortStep} (hrest : ∀ step ∈ rest, step.startsAfresh = false) :
    StatedBy (before ++ .orderBy key direction :: rest)
      ⟨SortStep.levelsOf (.orderBy key direction :: rest)⟩

theorem StatedBy.isEmpty_iff (h : StatedBy done chain) :
    chain.isEmpty = true ↔ ∀ step ∈ done, step.startsAfresh = false := by
  cases h with
  | empty => simp [SortChain.isEmpty, SortChain.empty]
  | since before key direction hrest =>
    refine ⟨nofun, fun hdone ↦ ?_⟩
    have hstart : (SortStep.orderBy key direction).startsAfresh = false := hdone _ (by simp)
    cases hstart

/-- A policy goes to the last level. -/
theorem StatedBy.setNulls {nulls : NullPolicy} {operation : SecondarySort}
    (hdone : StatedBy done chain) (hpolicy : step.policy? = some nulls)
    (h : chain.setNulls nulls operation = .ok next) : StatedBy (done ++ [step]) next := by
  cases hdone with
  | empty => cases h
  | @since before key direction rest hrest =>
    have hlevel : ∃ step ∈ .orderBy key direction :: rest, step.level? ≠ none :=
      ⟨_, List.mem_cons_self, nofun⟩
    obtain ⟨earlier, last, hearlier, hlast⟩ :=
      SortStep.levelsOf_append_of_policy? hpolicy hlevel
    have hnext : next = ⟨SortStep.levelsOf (.orderBy key direction :: (rest ++ [step]))⟩ :=
      congrArg SortChain.mk ((setNulls_of_append hearlier h).trans hlast.symm)
    have hstep : step.startsAfresh = false := by
      cases step with
      | orderBy key direction => cases hpolicy
      | thenBy key direction => cases hpolicy
      | nullsFirst | nullsLast => rfl
    rw [hnext, List.append_assoc, List.cons_append]
    exact .since before key direction (by simpa [or_imp, forall_and] using ⟨hrest, hstep⟩)

/-- **What one step leaves.**  A fresh start forgets the steps before it, a further level comes
last, and a policy goes to the last level. -/
theorem StatedBy.runStep (hdone : StatedBy done chain) (h : chain.runStep step = .ok next) :
    StatedBy (done ++ [step]) next := by
  cases step with
  | orderBy key direction =>
    obtain ⟨level, hlevel, h⟩ := Except.bind_eq_ok.mp h
    obtain ⟨-, rfl⟩ := newLevel_eq_ok.mp hlevel
    obtain rfl := Except.ok.inj h
    have hnone : ∀ step ∈ ([] : List SortStep), step.startsAfresh = false := nofun
    exact .since done key direction hnone
  | thenBy key direction =>
    rw [SortChain.runStep, thenBy] at h
    split at h
    · cases h
    · rename_i hempty
      obtain ⟨level, hlevel, h⟩ := Except.bind_eq_ok.mp h
      obtain ⟨-, rfl⟩ := newLevel_eq_ok.mp hlevel
      obtain rfl := Except.ok.inj h
      cases hdone with
      | empty => exact absurd rfl hempty
      | @since before first firstDirection rest hrest =>
        have hlevel : (SortStep.thenBy key direction).level? =
          some ⟨key, direction, .unspecified⟩ := rfl
        rw [List.append_assoc, List.cons_append, ← SortStep.levelsOf_append_of_level? hlevel]
        exact .since before first firstDirection (by simpa [or_imp, forall_and] using ⟨hrest, rfl⟩)
  | nullsFirst => exact hdone.setNulls rfl h
  | nullsLast => exact hdone.setNulls rfl h

/-- **What a run leaves.** -/
theorem statedBy_attemptAll (steps : List SortStep) :
    StatedBy (empty.succeeding steps) (empty.attemptAll steps) := by
  -- A policy is given to the level before it, so the steps are taken from their end.
  induction steps using List.reverseRecOn with
  | nil => exact .empty
  | append_singleton steps step ih =>
    rw [succeeding_append, attemptAll_append, attemptAll_singleton]
    cases hstep : (empty.attemptAll steps).runStep step with
    | ok next =>
      rw [attempt_of_ok hstep, succeeding, hstep]
      exact ih.runStep hstep
    | error error =>
      rw [attempt_of_error hstep, succeeding, hstep]
      simpa [succeeding] using ih

theorem hasKeys_attemptAll (steps : List SortStep) : (empty.attemptAll steps).HasKeys := by
  induction steps using List.reverseRecOn with
  | nil => exact hasKeys_empty
  | append_singleton steps step ih =>
    rw [attemptAll_append, attemptAll_singleton]
    cases hstep : (empty.attemptAll steps).runStep step with
    | ok next =>
      rw [attempt_of_ok hstep]
      exact hasKeys_runStep ih hstep
    | error error => rwa [attempt_of_error hstep]

/-- A chain that has levels keeps having some. -/
theorem isEmpty_of_isEmpty_attemptAll (more : List SortStep)
    (h : (chain.attemptAll more).isEmpty = true) : chain.isEmpty = true := by
  induction more generalizing chain with
  | nil => exact h
  | cons step rest ih =>
    have hfirst : (chain.attempt step).isEmpty = true := ih h
    cases hstep : chain.runStep step with
    | ok next =>
      rw [attempt_of_ok hstep, isEmpty_of_runStep hstep] at hfirst
      cases hfirst
    | error error => rwa [attempt_of_error hstep] at hfirst

/-- **What becomes of sort steps.**  After any steps, those that succeeded account for the chain:
its levels are those added since the last fresh start, each with the policy that was given last
before the next one.  The next step fails for want of a level exactly if none of them was a fresh
start and it is none itself, and otherwise exactly if it adds a level with an empty key.  A chain
that has levels keeps having some, and all of them have keys. -/
theorem attemptAll_accounts (steps : List SortStep) :
    StatedBy (empty.succeeding steps) (empty.attemptAll steps) ∧
    (∀ step error, (empty.attemptAll steps).runStep step = .error error ↔
      ((∀ earlier ∈ empty.succeeding steps, earlier.startsAfresh = false) ∧
        ∃ operation, step.secondary? = some operation ∧ error = .missingPrimarySort operation) ∨
      (((∃ earlier ∈ empty.succeeding steps, earlier.startsAfresh = true) ∨
          step.startsAfresh = true) ∧
        step.key? = some "" ∧ error = .emptyArgument .sortKey)) ∧
    (∀ more, (empty.attemptAll (steps ++ more)).isEmpty = true →
      (empty.attemptAll steps).isEmpty = true) ∧
    ∀ level ∈ (empty.attemptAll steps).levels, level.key ≠ "" := by
  have hstated := statedBy_attemptAll steps
  have hfresh : (empty.attemptAll steps).isEmpty = false ↔
      ∃ earlier ∈ empty.succeeding steps, earlier.startsAfresh = true := by
    rw [← Bool.not_eq_true, hstated.isEmpty_iff]
    simp
  refine ⟨hstated, fun step error ↦ ?_, fun more h ↦ ?_, hasKeys_attemptAll steps⟩
  · rw [runStep_eq_error_iff, hstated.isEmpty_iff, hfresh]
  · rw [attemptAll_append] at h
    exact isEmpty_of_isEmpty_attemptAll more h

example : (empty.attemptAll [.nullsLast, .orderBy "price" .descending, .nullsFirst,
    .thenBy "" .ascending, .nullsLast, .thenBy "name" .ascending]).text =
      "price desc nulls last, name asc" := by decide

end SortChain
end Sift
