import Sift.Proofs.ChainGrammar
import Sift.Proofs.Reachable

/-!
# Clauses without a field

A chain lets no clause in whose field has no name.  Building, going on from a specification and the
connectives only move clauses around, so whatever is made from specifications with named fields
has named fields: `Specification.MadeFrom` says what can be made from given ones, and
`Specification.hasFields_iff_seeds` that nothing else is needed.

Parts are another matter.  `Specification.ofParts` looks at variables, sort keys and the window and
takes the criteria as they are, and so does reading, so that a reachable specification may well
have a clause without a field (`Specification.exists_reachable_unnamedField`).
-/

set_option autoImplicit false
namespace Sift

/-! ## Predicates -/

namespace Predicate

/-- Every clause names its field. -/
def HasFields (p : Predicate) : Prop :=
  ∀ clause ∈ p.clauses, clause.field ≠ ""

variable {p q : Predicate} {v w : Variable}

theorem hasFields_leaf {clause : Clause} : (leaf v clause).HasFields ↔ clause.field ≠ "" := by
  rw [HasFields, clauses, List.forall_mem_singleton]

theorem hasFields_and : (p.and q).HasFields ↔ p.HasFields ∧ q.HasFields :=
  List.forall_mem_append

theorem hasFields_or : (p.or q).HasFields ↔ p.HasFields ∧ q.HasFields :=
  List.forall_mem_append

theorem hasFields_not : p.not.HasFields ↔ p.HasFields := Iff.rfl

theorem hasFields_never : never.HasFields :=
  fun _ h ↦ absurd h List.not_mem_nil

theorem hasFields_rename : (p.rename v w).HasFields ↔ p.HasFields := by
  rw [HasFields, clauses_rename, HasFields]

theorem hasFields_join (connective : Connective) :
    (connective.join p q).HasFields ↔ p.HasFields ∧ q.HasFields := by
  cases connective with
  | and => exact hasFields_and
  | or => exact hasFields_or

end Predicate

/-! ## Criteria -/

namespace Criteria

/-- Every clause of criteria, if there are any, names its field. -/
def HasFields (criteria : Criteria) : Prop :=
  ∀ p ∈ criteria, p.HasFields

variable {a b : Criteria} {v w : Variable}

theorem hasFields_none : HasFields none := nofun

theorem hasFields_some {p : Predicate} : HasFields (some p) ↔ p.HasFields :=
  ⟨fun h ↦ h p rfl, fun h _ hp ↦ Option.some.inj hp ▸ h⟩

theorem HasFields.both (ha : a.HasFields) (hb : b.HasFields) : (a.both v b w).HasFields := by
  cases a with
  | none =>
    cases b with
    | none => exact hasFields_none
    | some q => exact hasFields_some.mpr (Predicate.hasFields_rename.mpr (hb q rfl))
  | some p =>
    cases b with
    | none => exact ha
    | some q =>
      refine hasFields_some.mpr (Predicate.hasFields_and.mpr ⟨ha p rfl, ?_⟩)
      exact Predicate.hasFields_rename.mpr (hb q rfl)

theorem HasFields.either (ha : a.HasFields) (hb : b.HasFields) : (a.either v b w).HasFields := by
  cases a with
  | none => exact hasFields_none
  | some p =>
    cases b with
    | none => exact hasFields_none
    | some q =>
      refine hasFields_some.mpr (Predicate.hasFields_or.mpr ⟨ha p rfl, ?_⟩)
      exact Predicate.hasFields_rename.mpr (hb q rfl)

theorem HasFields.negation (ha : a.HasFields) : a.negation.HasFields := by
  cases a with
  | none => exact hasFields_some.mpr Predicate.hasFields_never
  | some p =>
    cases p with
    | never => exact hasFields_none
    | leaf _ _ | and _ _ | or _ _ | not _ =>
      exact hasFields_some.mpr (Predicate.hasFields_not.mpr (ha _ rfl))

end Criteria

/-! ## Chains -/

namespace CriteriaChain

/-- Every clause of a chain names its field. -/
def HasFields (chain : CriteriaChain) : Prop :=
  Criteria.HasFields chain.tree

variable {chain next : CriteriaChain}

/-- To join a predicate with named fields keeps those of a chain named. -/
theorem HasFields.join (connective : Connective) {tree p : Predicate} (hchain : chain.HasFields)
    (htree : chain.tree = some tree) (hp : p.HasFields) :
    HasFields { chain with tree := some (connective.join tree p) } :=
  Criteria.hasFields_some.mpr
    ((Predicate.hasFields_join connective).mpr ⟨hchain tree htree, hp⟩)

theorem HasFields.addWhere {clause : Clause} (hchain : chain.HasFields)
    (h : chain.addWhere clause = .ok next) : next.HasFields := by
  obtain ⟨hfield, ⟨-, rfl⟩ | ⟨-, tree, htree, rfl⟩⟩ := addWhere_eq_ok.mp h
  · exact Criteria.hasFields_some.mpr (Predicate.hasFields_leaf.mpr hfield)
  · exact hchain.join .and htree (Predicate.hasFields_leaf.mpr hfield)

/-- A group may be filled by any chain with named fields. -/
theorem HasFields.addGroup {connective : Connective}
    {fill : CriteriaChain → Except SpecError CriteriaChain} (hchain : chain.HasFields)
    (hfill : ∀ sub, fill (groupOver chain.var) = .ok sub → sub.HasFields)
    (h : chain.addGroup connective fill = .ok next) : next.HasFields := by
  obtain ⟨tree, sub, inner, htree, hsub, hinner, rfl⟩ := addGroup_eq_ok.mp h
  exact hchain.join connective htree (Predicate.hasFields_rename.mpr (hfill sub hsub inner hinner))

mutual

/-- A step keeps the fields of a chain named, since it lets no other clause in. -/
theorem HasFields.runStep {chain next : CriteriaChain} (hchain : chain.HasFields) :
    (step : ChainStep) → chain.runStep step = .ok next → next.HasFields
  | .addWhere _, h => hchain.addWhere h
  | .addAnd _, h => by
    obtain ⟨hfield, tree, htree, rfl⟩ := addAnd_eq_ok.mp h
    exact hchain.join .and htree (Predicate.hasFields_leaf.mpr hfield)
  | .addOr _, h => by
    obtain ⟨hfield, tree, htree, rfl⟩ := addOr_eq_ok.mp h
    exact hchain.join .or htree (Predicate.hasFields_leaf.mpr hfield)
  | .addNot _, h => by
    obtain ⟨hfield, tree, htree, rfl⟩ := addNot_eq_ok.mp h
    exact hchain.join .and htree
      (Predicate.hasFields_not.mpr (Predicate.hasFields_leaf.mpr hfield))
  | .addGroup _ foreign steps, h => by
    rw [CriteriaChain.runStep] at h
    have hstart : (groupStart foreign (groupOver chain.var)).HasFields := by
      cases foreign <;> exact Criteria.hasFields_none
    exact hchain.addGroup (fun sub hsub ↦ hstart.run steps hsub) h
  | .rejected _, h => nomatch h

theorem HasFields.run {chain last : CriteriaChain} (hchain : chain.HasFields) :
    (steps : List ChainStep) → chain.run steps = .ok last → last.HasFields
  | [], h => Except.ok.inj h ▸ hchain
  | step :: steps, h => by
    rw [run_cons, Except.bind_eq_ok] at h
    obtain ⟨next, hnext, h⟩ := h
    exact (hchain.runStep step hnext).run steps h

end

end CriteriaChain

/-! ## Specifications -/

namespace Specification

/-- Every clause of a specification names its field. -/
def HasFields (s : Specification) : Prop :=
  Criteria.HasFields s.criteria

/-- Going on with the criteria, whatever goes on with them. -/
theorem HasFields.withCriteria {b next : SpecificationBuilder}
    {extend : CriteriaChain → Except SpecError CriteriaChain}
    (hextend : ∀ chain, extend b.criteria = .ok chain → chain.HasFields)
    (h : b.withCriteria extend = .ok next) : next.build.HasFields := by
  obtain ⟨chain, hchain, h⟩ := Except.bind_eq_ok.mp h
  obtain rfl := Except.ok.inj h
  exact hextend chain hchain

theorem HasFields.runStep {b next : SpecificationBuilder} {step : BuilderStep}
    (hb : b.build.HasFields) (h : b.runStep step = .ok next) : next.build.HasFields := by
  cases step with
  | boundTo v =>
    obtain rfl := Except.ok.inj h
    exact Criteria.hasFields_none
  | criteria steps =>
    rw [SpecificationBuilder.runStep] at h
    exact withCriteria (fun chain ↦ CriteriaChain.HasFields.run hb steps) h
  | addWhere clause =>
    rw [SpecificationBuilder.runStep] at h
    exact withCriteria (fun chain ↦ CriteriaChain.HasFields.addWhere hb) h
  | skip count =>
    obtain rfl := Except.ok.inj h
    exact hb
  | sort _ | take _ | page _ _ | addInclude _ =>
    obtain ⟨_, -, h⟩ := Except.bind_eq_ok.mp h
    obtain rfl := Except.ok.inj h
    exact hb

theorem HasFields.run {b last : SpecificationBuilder} {steps : List BuilderStep}
    (hb : b.build.HasFields) (h : b.run steps = .ok last) : last.build.HasFields := by
  rw [SpecificationBuilder.run_eq_foldlM] at h
  exact Except.foldlM_induction (motive := fun b ↦ b.build.HasFields) HasFields.runStep hb h

/-- What can be made from given specifications by building, going on from one and the
connectives. -/
inductive MadeFrom (seeds : Specification → Prop) : Specification → Prop where
  | seed {s : Specification} (hs : seeds s) : MadeFrom seeds s
  | all : MadeFrom seeds .all
  | none : MadeFrom seeds .none
  | build {b : SpecificationBuilder} {steps : List BuilderStep}
    (h : SpecificationBuilder.new.run steps = .ok b) : MadeFrom seeds b.build
  | goOn {s : Specification} {b : SpecificationBuilder} {steps : List BuilderStep}
    (hs : MadeFrom seeds s) (h : s.toBuilder.run steps = .ok b) : MadeFrom seeds b.build
  | and {a b : Specification} (ha : MadeFrom seeds a) (hb : MadeFrom seeds b) :
    MadeFrom seeds (a.and b)
  | or {a b : Specification} (ha : MadeFrom seeds a) (hb : MadeFrom seeds b) :
    MadeFrom seeds (a.or b)
  | not {a : Specification} (ha : MadeFrom seeds a) : MadeFrom seeds a.not

theorem MadeFrom.hasFields {seeds : Specification → Prop} (hseeds : ∀ s, seeds s → s.HasFields)
    {s : Specification} (hs : MadeFrom seeds s) : s.HasFields := by
  induction hs with
  | seed hs => exact hseeds _ hs
  | all => exact Criteria.hasFields_none
  | none => exact Criteria.hasFields_some.mpr Predicate.hasFields_never
  | build h => exact HasFields.run (b := .new) Criteria.hasFields_none h
  | @goOn s b steps _ h ih => exact HasFields.run (b := s.toBuilder) ih h
  | and _ _ iha ihb => exact Criteria.HasFields.both iha ihb
  | or _ _ iha ihb => exact Criteria.HasFields.either iha ihb
  | not _ iha => exact Criteria.HasFields.negation iha

/-- **Fields are named wherever they were named to begin with.**  What is made from specifications
by building, going on and the connectives has named fields when those have, and parts are let
through with the criteria they have. -/
theorem hasFields_iff_seeds (seeds : Specification → Prop) :
    ((∀ s, MadeFrom seeds s → s.HasFields) ↔ ∀ s, seeds s → s.HasFields) ∧
    ∀ parts s, ofParts parts = .ok s → (s.HasFields ↔ Criteria.HasFields parts.criteria) := by
  refine ⟨⟨fun h s hs ↦ h s (.seed hs), fun h s hs ↦ hs.hasFields h⟩, fun parts s h ↦ ?_⟩
  obtain ⟨-, -, -, rfl⟩ := ofParts_eq_ok.mp h
  exact Iff.rfl

/-- Parts whose one clause has no field. -/
def unnamedFieldParts : SpecificationParts :=
  ⟨.default, some (.leaf .default ⟨"", .isNull, .null⟩), .empty, Option.none, Option.none, []⟩

/-- A text that says the same. -/
def unnamedFieldText : String :=
  "\x7b\"criteria\":\x7b\"kind\":\"leaf\",\"var\":\"x\",\"clause\":" ++
    "\x7b\"field\":\"\",\"op\":\"is_null\",\"value\":\x7b\"type\":\"null\"\x7d\x7d\x7d\x7d"

/-- **Parts and stored text let a clause without a field in.** -/
theorem exists_reachable_unnamedField : ∃ s : Specification, s.Reachable ∧
    ofParts unnamedFieldParts = .ok s ∧ ofJsonText unnamedFieldText = .ok s ∧ ¬ s.HasFields := by
  have hparts : ofParts unnamedFieldParts =
      .ok (.ofCriteria .default unnamedFieldParts.criteria) := rfl
  have htext : ofJsonText unnamedFieldText =
      .ok (.ofCriteria .default unnamedFieldParts.criteria) := by decide +kernel
  refine ⟨_, .ofParts .empty hparts, hparts, htext, fun h ↦ ?_⟩
  exact Predicate.hasFields_leaf.mp (h _ rfl) rfl

end Specification
end Sift
