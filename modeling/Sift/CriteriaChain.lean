import Sift.Error
import Sift.Predicate.Composition

/-!
# Criteria chains

A chain builds a predicate one condition at a time.  It is empty until a first `where` gives it a
condition; only then may `and`, `or`, `not` and groups go on.  A group opens a chain of its own, in
which `where` may stand only once; in the outermost chain a further `where` means `and`.

`ChainStep` makes programs of steps a data type: a group holds the program that fills it, and may
fill a fresh outermost chain over a variable of its own instead.  `CriteriaChain.run` runs a
program and stops at the first error.
-/

set_option autoImplicit false
namespace Sift

/-- Whether a chain is the outermost one or fills a group. -/
inductive ChainScope where
  | root
  | group
deriving DecidableEq, Repr

/-- A predicate under construction over one variable. -/
structure CriteriaChain where
  var : Variable
  scope : ChainScope
  tree : Option Predicate
deriving DecidableEq

/-- How a condition is joined to what is there. -/
inductive Connective where
  | and
  | or
deriving DecidableEq, Repr

/-- The predicate that joins two in this way. -/
def Connective.join : Connective → Predicate → Predicate → Predicate
  | .and => .and
  | .or => .or

namespace CriteriaChain

/-- Chains are equal when their parts are, predicates up to the form of their numbers. -/
instance : BEq CriteriaChain where
  beq a b := a.var == b.var && a.scope == b.scope && a.tree == b.tree

/-! ## Chains -/

/-- The empty outermost chain over a variable. -/
def boundTo (var : Variable) : CriteriaChain := ⟨var, .root, none⟩

/-- The empty outermost chain over the default variable. -/
def new : CriteriaChain := boundTo .default

/-- The empty chain that fills a group. -/
def groupOver (var : Variable) : CriteriaChain := ⟨var, .group, none⟩

/-- The outermost chain that goes on from given criteria. -/
def resume (var : Variable) (criteria : Criteria) : CriteriaChain := ⟨var, .root, criteria⟩

/-- Whether a chain has a condition. -/
def isStarted (chain : CriteriaChain) : Bool := chain.tree.isSome

/-! ## Steps -/

/-- The leaf of a clause, whose field must have a name. -/
def leaf (chain : CriteriaChain) (clause : Clause) : Except SpecError Predicate :=
  if clause.field = "" then .error (.emptyArgument .clauseField)
  else .ok (.leaf chain.var clause)

/-- The rule broken by going on from an empty chain. -/
def startRule : ChainScope → ChainRule
  | .root => .chainStartsWithWhere
  | .group => .groupStartsWithWhere

/-- Joins a predicate to a chain that has a condition. -/
def extend (chain : CriteriaChain) (connective : Connective) (next : Predicate) :
    Except SpecError CriteriaChain :=
  match chain.tree with
  | some tree => .ok { chain with tree := some (connective.join tree next) }
  | none => .error (.malformedChain (startRule chain.scope))

/-- The first condition of a chain, or one more condition of the outermost chain. -/
def addWhere (chain : CriteriaChain) (clause : Clause) : Except SpecError CriteriaChain := do
  let leaf ← chain.leaf clause
  match chain.tree, chain.scope with
  | none, _ => .ok { chain with tree := some leaf }
  | some tree, .root => .ok { chain with tree := some (.and tree leaf) }
  | some _, .group => .error (.malformedChain .groupHasOneWhere)

/-- Joins a clause with and. -/
def addAnd (chain : CriteriaChain) (clause : Clause) : Except SpecError CriteriaChain := do
  let leaf ← chain.leaf clause
  chain.extend .and leaf

/-- Joins a clause with or. -/
def addOr (chain : CriteriaChain) (clause : Clause) : Except SpecError CriteriaChain := do
  let leaf ← chain.leaf clause
  chain.extend .or leaf

/-- Joins the negation of a clause with and. -/
def addNot (chain : CriteriaChain) (clause : Clause) : Except SpecError CriteriaChain := do
  let leaf ← chain.leaf clause
  chain.extend .and (.not leaf)

/-- The predicate of a chain that filled a group, over the variable of the chain around it. -/
def groupTree (chain sub : CriteriaChain) : Except SpecError Predicate :=
  match sub.tree with
  | some tree => .ok (tree.rename sub.var chain.var)
  | none => .error .emptyGroup

/-- A group: what `fill` makes of a fresh chain is joined as one condition.  An empty chain fails
before `fill` is run. -/
def addGroup (chain : CriteriaChain) (connective : Connective)
    (fill : CriteriaChain → Except SpecError CriteriaChain) : Except SpecError CriteriaChain :=
  if chain.isStarted then do
    let sub ← fill (groupOver chain.var)
    let tree ← chain.groupTree sub
    chain.extend connective tree
  else
    .error (.malformedChain (startRule chain.scope))

end CriteriaChain

/-! ## Programs -/

/-- A step of a chain.  A group holds the steps that fill it; with a variable it fills a fresh
outermost chain over that variable instead of the chain it is given.  A step whose clause could
not be made is `rejected`, and fails when it is reached. -/
inductive ChainStep where
  | addWhere (clause : Clause)
  | addAnd (clause : Clause)
  | addOr (clause : Clause)
  | addNot (clause : Clause)
  | addGroup (connective : Connective) (foreign : Option Variable) (steps : List ChainStep)
  | rejected (cause : SpecError)

namespace CriteriaChain

/-- The chain that a group's steps are run on. -/
def groupStart (foreign : Option Variable) (given : CriteriaChain) : CriteriaChain :=
  foreign.elim given boundTo

mutual

/-- Runs one step. -/
def runStep (chain : CriteriaChain) : ChainStep → Except SpecError CriteriaChain
  | .addWhere clause => chain.addWhere clause
  | .addAnd clause => chain.addAnd clause
  | .addOr clause => chain.addOr clause
  | .addNot clause => chain.addNot clause
  | .addGroup connective foreign steps =>
    chain.addGroup connective fun given ↦ run (groupStart foreign given) steps
  | .rejected cause => .error cause

/-- Runs a program up to the first error. -/
def run (chain : CriteriaChain) : List ChainStep → Except SpecError CriteriaChain
  | [] => .ok chain
  | step :: steps =>
    match runStep chain step with
    | .ok next => run next steps
    | .error error => .error error

end

end CriteriaChain
end Sift
