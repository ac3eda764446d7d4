import Sift.CriteriaChain
import Sift.Proofs.Outcome
import Sift.Proofs.Renaming

/-!
# What the steps of a criteria chain do

Each step of a chain either fails or joins one predicate to what is there; its variable and scope
stay.  The lemmas `addWhere_eq_ok`, `addAnd_eq_ok`, `addOr_eq_ok`, `addNot_eq_ok` and
`addGroup_eq_ok` say exactly when a step succeeds and with what, so that nothing below needs to
open one.

A chain is *closed* when every leaf of its predicate reads from its variable.  The steps keep
this.  For groups it rests on renaming: whatever chain fills a group, its predicate is restated
over the variable of the chain around it.
-/

set_option autoImplicit false
namespace Sift
namespace CriteriaChain

variable {chain sub next : CriteriaChain} {clause : Clause} {connective : Connective}
  {fill : CriteriaChain → Except SpecError CriteriaChain}

/-! ## When steps succeed -/

theorem leaf_eq_ok {p : Predicate} :
    chain.leaf clause = .ok p ↔ clause.field ≠ "" ∧ p = .leaf chain.var clause :=
  Except.ite_eq_ok

theorem extend_eq_ok {p : Predicate} : chain.extend connective p = .ok next ↔
    ∃ tree, chain.tree = some tree ∧
      next = { chain with tree := some (connective.join tree p) } := by
  rw [extend]
  split
  · rename_i tree htree
    rw [Except.ok.injEq, eq_comm]
    constructor
    · exact fun heq ↦ ⟨tree, htree, heq⟩
    · rintro ⟨tree', htree', heq⟩
      rw [htree, Option.some.injEq] at htree'
      rwa [htree']
  · rename_i htree
    refine ⟨nofun, ?_⟩
    rintro ⟨tree, htree', -⟩
    rw [htree] at htree'
    cases htree'

/-- Every step with a clause makes its leaf first. -/
theorem bind_leaf_eq_ok {f : Predicate → Except SpecError CriteriaChain} :
    (chain.leaf clause >>= f) = .ok next ↔
      clause.field ≠ "" ∧ f (.leaf chain.var clause) = .ok next := by
  rw [Except.bind_eq_ok]
  constructor
  · rintro ⟨p, hp, h⟩
    obtain ⟨hfield, rfl⟩ := leaf_eq_ok.mp hp
    exact ⟨hfield, h⟩
  · rintro ⟨hfield, h⟩
    exact ⟨_, leaf_eq_ok.mpr ⟨hfield, rfl⟩, h⟩

theorem addAnd_eq_ok : chain.addAnd clause = .ok next ↔ clause.field ≠ "" ∧
    ∃ tree, chain.tree = some tree ∧
      next = { chain with tree := some (.and tree (.leaf chain.var clause)) } := by
  rw [addAnd, bind_leaf_eq_ok, extend_eq_ok]
  rfl

theorem addOr_eq_ok : chain.addOr clause = .ok next ↔ clause.field ≠ "" ∧
    ∃ tree, chain.tree = some tree ∧
      next = { chain with tree := some (.or tree (.leaf chain.var clause)) } := by
  rw [addOr, bind_leaf_eq_ok, extend_eq_ok]
  rfl

theorem addNot_eq_ok : chain.addNot clause = .ok next ↔ clause.field ≠ "" ∧
    ∃ tree, chain.tree = some tree ∧
      next = { chain with tree := some (.and tree (.not (.leaf chain.var clause))) } := by
  rw [addNot, bind_leaf_eq_ok, extend_eq_ok]
  rfl

/-- A condition is the first of any chain, or one more of the outermost one. -/
theorem addWhere_eq_ok : chain.addWhere clause = .ok next ↔ clause.field ≠ "" ∧
    (chain.tree = none ∧ next = { chain with tree := some (.leaf chain.var clause) } ∨
      chain.scope = .root ∧ ∃ tree, chain.tree = some tree ∧
        next = { chain with tree := some (.and tree (.leaf chain.var clause)) }) := by
  rw [addWhere, bind_leaf_eq_ok]
  refine and_congr_right fun _ ↦ ?_
  rcases htree : chain.tree with _ | tree
  · simp [eq_comm]
  · rcases hscope : chain.scope with _ | _
    · simp [eq_comm]
    · simp

theorem addGroup_eq_ok : chain.addGroup connective fill = .ok next ↔
    ∃ tree sub inner, chain.tree = some tree ∧ fill (groupOver chain.var) = .ok sub ∧
      sub.tree = some inner ∧ next = { chain with
        tree := some (connective.join tree (inner.rename sub.var chain.var)) } := by
  rw [addGroup]
  split
  · rw [Except.bind_eq_ok]
    constructor
    · rintro ⟨sub, hsub, h⟩
      obtain ⟨p, hp, h⟩ := Except.bind_eq_ok.mp h
      obtain ⟨tree, htree, rfl⟩ := extend_eq_ok.mp h
      rw [groupTree] at hp
      split at hp
      · rename_i inner hinner
        obtain rfl := Except.ok.inj hp
        exact ⟨tree, sub, inner, htree, hsub, hinner, rfl⟩
      · cases hp
    · rintro ⟨tree, sub, inner, htree, hsub, hinner, rfl⟩
      refine ⟨sub, hsub, Except.bind_eq_ok.mpr ⟨inner.rename sub.var chain.var, ?_, ?_⟩⟩
      · rw [groupTree, hinner]
      · exact extend_eq_ok.mpr ⟨tree, htree, rfl⟩
  · rename_i hstarted
    refine ⟨nofun, ?_⟩
    rintro ⟨tree, -, -, htree, -⟩
    rw [isStarted, htree] at hstarted
    exact absurd rfl hstarted

/-! ## Closed chains -/

/-- Whether every leaf of a chain reads from its variable. -/
def isClosed (chain : CriteriaChain) : Bool :=
  Criteria.isClosedOver chain.tree chain.var

theorem isClosed_boundTo (v : Variable) : (boundTo v).isClosed = true := rfl

theorem isClosed_groupOver (v : Variable) : (groupOver v).isClosed = true := rfl

/-- To join a closed predicate keeps a chain closed. -/
theorem isClosed_join (connective : Connective) {tree p : Predicate}
    (hchain : chain.isClosed = true)
    (htree : chain.tree = some tree) (hp : p.isClosedOver chain.var = true) :
    isClosed { chain with tree := some (connective.join tree p) } = true := by
  have htree' : tree.isClosedOver chain.var = true := by
    rw [isClosed, htree] at hchain
    exact hchain
  show (connective.join tree p).isClosedOver chain.var = true
  cases connective with
  | and => exact Predicate.isClosedOver_and.trans (by rw [htree', hp, Bool.and_self])
  | or => exact Predicate.isClosedOver_or.trans (by rw [htree', hp, Bool.and_self])

theorem isClosed_addWhere (hchain : chain.isClosed = true)
    (h : chain.addWhere clause = .ok next) : next.isClosed = true := by
  have hleaf : (Predicate.leaf chain.var clause).isClosedOver chain.var = true := by simp
  obtain ⟨-, ⟨-, rfl⟩ | ⟨-, tree, htree, rfl⟩⟩ := addWhere_eq_ok.mp h
  · exact hleaf
  · exact isClosed_join .and hchain htree hleaf

theorem isClosed_addAnd (hchain : chain.isClosed = true)
    (h : chain.addAnd clause = .ok next) : next.isClosed = true := by
  obtain ⟨-, tree, htree, rfl⟩ := addAnd_eq_ok.mp h
  exact isClosed_join .and hchain htree (by simp)

theorem isClosed_addOr (hchain : chain.isClosed = true)
    (h : chain.addOr clause = .ok next) : next.isClosed = true := by
  obtain ⟨-, tree, htree, rfl⟩ := addOr_eq_ok.mp h
  exact isClosed_join .or hchain htree (by simp)

theorem isClosed_addNot (hchain : chain.isClosed = true)
    (h : chain.addNot clause = .ok next) : next.isClosed = true := by
  obtain ⟨-, tree, htree, rfl⟩ := addNot_eq_ok.mp h
  exact isClosed_join .and hchain htree (by simp)

/-- A group may be filled by a chain over any variable, as long as that chain is closed. -/
theorem isClosed_addGroup (hchain : chain.isClosed = true)
    (hfill : ∀ sub, fill (groupOver chain.var) = .ok sub → sub.isClosed = true)
    (h : chain.addGroup connective fill = .ok next) : next.isClosed = true := by
  obtain ⟨tree, sub, inner, htree, hsub, hinner, rfl⟩ := addGroup_eq_ok.mp h
  have hclosed := hfill sub hsub
  rw [isClosed, hinner] at hclosed
  exact isClosed_join connective hchain htree (Predicate.isClosedOver_rename hclosed)

/-! ## Programs -/

theorem isClosed_groupStart {foreign : Option Variable} (hchain : chain.isClosed = true) :
    (groupStart foreign chain).isClosed = true := by
  cases foreign with
  | none => exact hchain
  | some v => exact isClosed_boundTo v

mutual

/-- A step keeps a chain closed; for a group, because its program does. -/
theorem isClosed_runStep {chain next : CriteriaChain} (hchain : chain.isClosed = true) :
    (step : ChainStep) → chain.runStep step = .ok next → next.isClosed = true
  | .addWhere _, h => isClosed_addWhere hchain h
  | .addAnd _, h => isClosed_addAnd hchain h
  | .addOr _, h => isClosed_addOr hchain h
  | .addNot _, h => isClosed_addNot hchain h
  | .addGroup _ foreign steps, h => by
    rw [runStep] at h
    refine isClosed_addGroup hchain (fun sub hsub ↦ ?_) h
    have hstart : (groupStart foreign (groupOver chain.var)).isClosed = true :=
      isClosed_groupStart (isClosed_groupOver _)
    exact isClosed_run hstart steps hsub
  | .rejected _, h => nomatch h

/-- A program keeps a chain closed. -/
theorem isClosed_run {chain last : CriteriaChain} (hchain : chain.isClosed = true) :
    (steps : List ChainStep) → chain.run steps = .ok last → last.isClosed = true
  | [], h => Except.ok.inj h ▸ hchain
  | step :: steps, h => by
    rw [run] at h
    split at h
    · rename_i next hnext
      exact isClosed_run (isClosed_runStep hchain step hnext) steps h
    · cases h

end

/-- What fills a group is closed over the variable of the chain that it was made with. -/
theorem isClosedOver_of_group {sub : CriteriaChain} {foreign : Option Variable} {v : Variable}
    {steps : List ChainStep} {inner : Predicate}
    (hsub : (groupStart foreign (groupOver v)).run steps = .ok sub)
    (hinner : sub.tree = some inner) : inner.isClosedOver sub.var = true := by
  have hclosed := isClosed_run (isClosed_groupStart (isClosed_groupOver v)) steps hsub
  rwa [isClosed, hinner] at hclosed

end CriteriaChain
end Sift
