import Sift.Proofs.ChainGrammar
import Sift.Proofs.Concerns

/-!
# Building in two goes

A builder may be asked for its specification at any point, and the specification for a builder that
goes on from it.  Nothing is lost on the way as long as the criteria only grow, which is to say that
they are gone on with by steps of the chain that is handed out.  The second builder is then the
first, so that a program may be cut at any place: `Specification.toBuilder_is_checkpoint`.

What a specification does not keep is the scope of a chain, since criteria have none, and
`SpecificationBuilder.toBuilder_build_eq_iff` says that this is all.  A builder starts with an
outermost chain and steps leave the scope alone (`CriteriaChain.GrowsTo.scope_eq`), so there is
nothing to keep (`SpecificationBuilder.Grown.scope_eq_root`).  It takes a function that gets hold of
the chain of a group, and hands it to the builder as its own, to make a difference.
-/

set_option autoImplicit false
namespace Sift

/-! ## Chains that grow -/

/-- What steps can make of a chain.  A group may be filled in any way at all, also by a chain over
another variable. -/
inductive CriteriaChain.GrowsTo (start : CriteriaChain) : CriteriaChain → Prop where
  | refl : GrowsTo start start
  | addWhere {chain next : CriteriaChain} {clause : Clause} (hchain : GrowsTo start chain)
    (h : chain.addWhere clause = .ok next) : GrowsTo start next
  | addAnd {chain next : CriteriaChain} {clause : Clause} (hchain : GrowsTo start chain)
    (h : chain.addAnd clause = .ok next) : GrowsTo start next
  | addOr {chain next : CriteriaChain} {clause : Clause} (hchain : GrowsTo start chain)
    (h : chain.addOr clause = .ok next) : GrowsTo start next
  | addNot {chain next : CriteriaChain} {clause : Clause} (hchain : GrowsTo start chain)
    (h : chain.addNot clause = .ok next) : GrowsTo start next
  | addGroup {chain next : CriteriaChain} {connective : Connective}
    {fill : CriteriaChain → Except SpecError CriteriaChain} (hchain : GrowsTo start chain)
    (h : chain.addGroup connective fill = .ok next) : GrowsTo start next

namespace CriteriaChain

variable {start chain next : CriteriaChain}

/-- No step changes the scope of a chain. -/
theorem GrowsTo.scope_eq (h : start.GrowsTo next) : next.scope = start.scope := by
  induction h with
  | refl => rfl
  | addWhere _ h ih =>
    obtain ⟨-, ⟨-, rfl⟩ | ⟨-, tree, -, rfl⟩⟩ := addWhere_eq_ok.mp h <;> exact ih
  | addAnd _ h ih =>
    obtain ⟨-, tree, -, rfl⟩ := addAnd_eq_ok.mp h
    exact ih
  | addOr _ h ih =>
    obtain ⟨-, tree, -, rfl⟩ := addOr_eq_ok.mp h
    exact ih
  | addNot _ h ih =>
    obtain ⟨-, tree, -, rfl⟩ := addNot_eq_ok.mp h
    exact ih
  | addGroup _ h ih =>
    obtain ⟨tree, sub, inner, -, -, -, rfl⟩ := addGroup_eq_ok.mp h
    exact ih

theorem GrowsTo.runStep (hchain : start.GrowsTo chain) {step : ChainStep}
    (h : chain.runStep step = .ok next) : start.GrowsTo next := by
  cases step with
  | addWhere clause => exact hchain.addWhere h
  | addAnd clause => exact hchain.addAnd h
  | addOr clause => exact hchain.addOr h
  | addNot clause => exact hchain.addNot h
  | addGroup connective foreign steps =>
    rw [CriteriaChain.runStep] at h
    exact hchain.addGroup h
  | rejected cause => cases h

/-- **A program makes a chain grow.** -/
theorem GrowsTo.run (hchain : start.GrowsTo chain) {steps : List ChainStep}
    (h : chain.run steps = .ok next) : start.GrowsTo next := by
  induction steps generalizing chain with
  | nil =>
    obtain rfl := Except.ok.inj h
    exact hchain
  | cons step steps ih =>
    rw [run_cons, Except.bind_eq_ok] at h
    obtain ⟨middle, hmiddle, h⟩ := h
    exact ih (hchain.runStep hmiddle) h

end CriteriaChain

/-! ## Builders whose criteria grow -/

/-- Whether a call that goes on with the criteria by a function does so by steps of the chain that
the function is given. -/
def BuilderCall.OnlyGrows : BuilderCall → Prop
  | .step _ => True
  | .withCriteria extend => ∀ chain next, extend chain = .ok next → chain.GrowsTo next

namespace SpecificationBuilder

/-- The builders that are had by going on from a new one, or from that of a specification, with
criteria that only grow. -/
inductive Grown : SpecificationBuilder → Prop where
  | new : Grown .new
  | toBuilder (s : Specification) : Grown s.toBuilder
  | perform {b next : SpecificationBuilder} {call : BuilderCall} (hb : Grown b)
    (hcall : call.OnlyGrows) (h : b.perform call = .ok next) : Grown next

variable {b c : SpecificationBuilder}

/-- A builder is that of its specification exactly if its chain is the outermost one. -/
theorem toBuilder_build_eq_iff : b.build.toBuilder = b ↔ b.criteria.scope = .root := by
  obtain ⟨⟨var, scope, tree⟩, sorts, window, includes⟩ := b
  constructor
  · intro h
    have hscope : ChainScope.root = scope := congrArg (·.criteria.scope) h
    exact hscope.symm
  · intro h
    have hscope : scope = .root := h
    rw [hscope]
    rfl

/-- Criteria that only grow stay the outermost chain. -/
theorem scope_of_withCriteria {extend : CriteriaChain → Except SpecError CriteriaChain}
    (hb : b.criteria.scope = .root)
    (hextend : ∀ chain next, extend chain = .ok next → chain.GrowsTo next)
    (h : b.withCriteria extend = .ok c) : c.criteria.scope = .root := by
  obtain ⟨chain, hchain, h⟩ := Except.bind_eq_ok.mp h
  obtain rfl := Except.ok.inj h
  exact (hextend b.criteria chain hchain).scope_eq.trans hb

/-- A call leaves the chain the outermost one. -/
theorem scope_of_perform {call : BuilderCall} (hb : b.criteria.scope = .root)
    (hcall : call.OnlyGrows) (h : b.perform call = .ok c) : c.criteria.scope = .root := by
  by_cases hconcern : call.concern = .criteria
  · cases call with
    | withCriteria extend => exact scope_of_withCriteria hb hcall h
    | step step =>
      cases step with
      | boundTo v =>
        obtain rfl := Except.ok.inj h
        rfl
      | criteria steps =>
        exact scope_of_withCriteria hb (fun _ _ hrun ↦ CriteriaChain.GrowsTo.refl.run hrun) h
      | addWhere clause =>
        exact scope_of_withCriteria hb (fun _ _ hadd ↦ CriteriaChain.GrowsTo.refl.addWhere hadd) h
      | sort _ | skip _ | take _ | page _ _ | addInclude _ => cases hconcern
  · have hsame : c.criteria = b.criteria := part_of_perform h (Ne.symm hconcern)
    rw [hsame, hb]

theorem Grown.scope_eq_root (hb : b.Grown) : b.criteria.scope = .root := by
  induction hb with
  | new => rfl
  | toBuilder s => rfl
  | perform _ hcall h ih => exact scope_of_perform ih hcall h

theorem scope_of_performAll {calls : List BuilderCall} (hb : b.criteria.scope = .root)
    (hcalls : ∀ call ∈ calls, call.OnlyGrows) (h : b.performAll calls = .ok c) :
    c.criteria.scope = .root :=
  Except.foldlM_induction_mem (motive := fun b ↦ b.criteria.scope = .root)
    (fun hcall hb hnext ↦ scope_of_perform hb (hcalls _ hcall) hnext) hb h

/-! ## Cutting a program -/

/-- **A program may be cut at any place**, and what fails fails with the same error. -/
theorem buildAfter_append (hb : b.criteria.scope = .root) {p : List BuilderCall}
    (hp : ∀ call ∈ p, call.OnlyGrows) (q : List BuilderCall) :
    b.buildAfter (p ++ q) = b.buildAfter p >>= fun s ↦ s.toBuilder.buildAfter q := by
  have hrun : b.performAll (p ++ q) = b.performAll p >>= (·.performAll q) := List.foldlM_append
  rw [buildAfter, buildAfter, hrun]
  cases hp' : b.performAll p with
  | error error => rfl
  | ok c =>
    have hresumed : c.build.toBuilder = c :=
      toBuilder_build_eq_iff.mpr (scope_of_performAll hb hp hp')
    show (c.performAll q).map build = c.build.toBuilder.buildAfter q
    rw [hresumed, buildAfter]

theorem buildAfter_map_step (b : SpecificationBuilder) (steps : List BuilderStep) :
    b.buildAfter (steps.map .step) = (b.run steps).map build := by
  rw [buildAfter, performAll_map_step]

end SpecificationBuilder

open SpecificationBuilder

/-- **Going on from a specification is going on from the builder that built it.**  The builder of a
specification builds the specification.  If the chain of a builder is an outermost one, as it is for
every builder whose criteria only grew, then programs may be cut anywhere: to build what there is
after the first part of a program and to go on from that with the second part leads to the same
specification as the whole program, or fails with the same error.  So a program of steps may be cut
at any step. -/
theorem Specification.toBuilder_is_checkpoint :
    (∀ s : Specification, s.toBuilder.build = s) ∧
    (∀ b : SpecificationBuilder, b.Grown → b.criteria.scope = .root) ∧
    (∀ b : SpecificationBuilder, b.criteria.scope = .root → ∀ p : List BuilderCall,
      (∀ call ∈ p, call.OnlyGrows) → ∀ q : List BuilderCall,
        b.buildAfter (p ++ q) = b.buildAfter p >>= fun s ↦ s.toBuilder.buildAfter q) ∧
    ∀ b : SpecificationBuilder, b.criteria.scope = .root → ∀ steps more : List BuilderStep,
      (b.run (steps ++ more)).map build =
        (b.run steps).map build >>= fun s ↦ (s.toBuilder.run more).map build := by
  refine ⟨build_toBuilder, fun b hb ↦ hb.scope_eq_root, fun b hb p hp q ↦
    buildAfter_append hb hp q, fun b hb steps more ↦ ?_⟩
  have hsteps : ∀ call ∈ steps.map BuilderCall.step, call.OnlyGrows := by
    intro call hcall
    obtain ⟨step, -, rfl⟩ := List.mem_map.mp hcall
    trivial
  have hcut := buildAfter_append hb hsteps (more.map .step)
  rw [← List.map_append] at hcut
  simpa only [buildAfter_map_step] using hcut

/-- Goes on with a chain that is empty by a first condition, and with any other by a group over
another variable. -/
def namedOrGroup : BuilderCall :=
  .withCriteria fun chain ↦
    if chain.isStarted then
      chain.addGroup .or fun _ ↦ (CriteriaChain.boundTo ⟨"q"⟩).addWhere ⟨"name", .notNull, .null⟩
    else chain.addWhere ⟨"name", .notNull, .null⟩

theorem onlyGrows_namedOrGroup : namedOrGroup.OnlyGrows := by
  intro chain next h
  dsimp only at h
  split at h
  · exact CriteriaChain.GrowsTo.refl.addGroup h
  · exact CriteriaChain.GrowsTo.refl.addWhere h

/-- The specification that everything satisfies is gone on with once, and then once more. -/
theorem Specification.toBuilder_is_checkpoint_namedOrGroup :
    let b := Specification.all.toBuilder
    let named := Predicate.leaf .default ⟨"name", .notNull, .null⟩
    b.Grown ∧ namedOrGroup.OnlyGrows ∧
      (b.buildAfter [namedOrGroup] >>= fun s ↦ s.toBuilder.buildAfter [namedOrGroup]) =
        .ok (.ofCriteria .default (some (.or named named))) := by
  intro b named
  obtain ⟨-, hscope, hcut, -⟩ := Specification.toBuilder_is_checkpoint
  have hb : b.Grown := .toBuilder .all
  have hcalls : ∀ call ∈ [namedOrGroup], call.OnlyGrows := by
    simpa using onlyGrows_namedOrGroup
  have hwhole : b.buildAfter ([namedOrGroup] ++ [namedOrGroup]) =
      .ok (.ofCriteria .default (some (.or named named))) := rfl
  rw [hcut b (hscope b hb) [namedOrGroup] hcalls] at hwhole
  exact ⟨hb, onlyGrows_namedOrGroup, hwhole⟩

end Sift
