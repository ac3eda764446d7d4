import Sift.Proofs.Chains
import Sift.Proofs.IncludePaths
import Sift.Specification.Builder

/-!
# Well-formed specifications

`Specification.WellFormed` is what every specification is meant to be: its criteria are closed over
its variable, its sort keys are not empty, it does not take zero, and its paths are a set of paths
that can be had.  This file goes through the operations that make specifications and shows that
each of them keeps it.

* `Specification.WellFormed.and`, `or` and `not` — the connectives;
* `Specification.WellFormed.runStep` and `run` — building, where a builder counts as well formed if
  what it would build is;
* `Specification.ofParts_eq_ok` — checking parts lets through exactly what is well formed, up to the
  paths, which are not checked there.
-/

set_option autoImplicit false
namespace Sift

/-! ## Sort chains -/

namespace SortChain

variable {chain next : SortChain}

/-- Every level has a key. -/
def HasKeys (chain : SortChain) : Prop :=
  ∀ level ∈ chain.levels, level.key ≠ ""

theorem hasKeys_empty : empty.HasKeys := nofun

theorem ofLevels_eq_ok {levels : List SortLevel} : ofLevels levels = .ok chain ↔
    HasKeys ⟨levels⟩ ∧ chain = ⟨levels⟩ := by
  have hany : levels.any (·.key == "") = true ↔ ¬ HasKeys ⟨levels⟩ := by
    simp [HasKeys]
  rw [ofLevels, Except.ite_eq_ok, hany, not_not]

theorem newLevel_eq_ok {key : String} {direction : Direction} {level : SortLevel} :
    newLevel key direction = .ok level ↔ key ≠ "" ∧ level = ⟨key, direction, .unspecified⟩ :=
  Except.ite_eq_ok

theorem hasKeys_orderBy (chain : SortChain) {key : String} {direction : Direction}
    (h : chain.orderBy key direction = .ok next) : next.HasKeys := by
  obtain ⟨level, hlevel, h⟩ := Except.bind_eq_ok.mp h
  obtain ⟨hkey, rfl⟩ := newLevel_eq_ok.mp hlevel
  obtain rfl := Except.ok.inj h
  intro level hmem
  rwa [List.mem_singleton.mp hmem]

theorem hasKeys_thenBy {key : String} {direction : Direction} (hchain : chain.HasKeys)
    (h : chain.thenBy key direction = .ok next) : next.HasKeys := by
  rw [thenBy] at h
  split at h
  · cases h
  · obtain ⟨level, hlevel, h⟩ := Except.bind_eq_ok.mp h
    obtain ⟨hkey, rfl⟩ := newLevel_eq_ok.mp hlevel
    obtain rfl := Except.ok.inj h
    intro level hmem
    rcases List.mem_append.mp hmem with hmem | hmem
    · exact hchain level hmem
    · rwa [List.mem_singleton.mp hmem]

theorem hasKeys_setNulls {nulls : NullPolicy} {operation : SecondarySort} (hchain : chain.HasKeys)
    (h : chain.setNulls nulls operation = .ok next) : next.HasKeys := by
  rw [setNulls] at h
  split at h
  · rename_i last hlast
    obtain rfl := Except.ok.inj h
    intro level hmem
    rcases List.mem_append.mp hmem with hmem | hmem
    · exact hchain level (List.dropLast_subset _ hmem)
    · rw [List.mem_singleton.mp hmem]
      exact hchain last (List.mem_of_getLast? hlast)
  · cases h

theorem hasKeys_runStep {step : SortStep} (hchain : chain.HasKeys)
    (h : chain.runStep step = .ok next) : next.HasKeys := by
  cases step with
  | orderBy key direction => exact hasKeys_orderBy chain h
  | thenBy key direction => exact hasKeys_thenBy hchain h
  | nullsFirst => exact hasKeys_setNulls hchain h
  | nullsLast => exact hasKeys_setNulls hchain h

end SortChain

/-! ## Windows -/

namespace Window

theorem new_eq_ok {skip take : Option UInt64} {window : Window} :
    new skip take = .ok window ↔ take ≠ some 0 ∧ window = ⟨skip, take⟩ :=
  Except.ite_eq_ok

end Window

/-- A page has a number and a size, and what comes before it can be counted. -/
theorem Page.new_eq_ok {number size : UInt64} {page : Page} :
    new number size = .ok page ↔ number ≠ 0 ∧ size ≠ 0 ∧
      (number.toNat - 1) * size.toNat < UInt64.size ∧ page = ⟨number, size⟩ := by
  rw [new]
  split
  · rename_i hnumber
    exact ⟨nofun, fun h ↦ absurd hnumber h.1⟩
  · rename_i hnumber
    split
    · rename_i hsize
      exact ⟨nofun, fun h ↦ absurd hsize h.2.1⟩
    · rename_i hsize
      split
      · rename_i hfits
        rw [Except.ok.injEq, eq_comm]
        exact ⟨fun h ↦ ⟨hnumber, hsize, hfits, h⟩, fun h ↦ h.2.2.2⟩
      · rename_i hfits
        exact ⟨nofun, fun h ↦ absurd h.2.2.1 hfits⟩

/-! ## Specifications -/

namespace Specification

/-- What every specification is meant to be. -/
structure WellFormed (s : Specification) : Prop where
  /-- Every leaf reads from the variable of the specification. -/
  closed : s.criteria.isClosedOver s.var = true
  /-- Every sort level has a key. -/
  hasKeys : s.sorts.HasKeys
  /-- The window does not take zero. -/
  take_ne_zero : s.window.take ≠ some 0
  /-- The paths can be had and are in order, each once. -/
  isSet : IncludePath.IsSet s.includes

namespace WellFormed

theorem ofCriteria {v : Variable} {criteria : Criteria} (h : criteria.isClosedOver v = true) :
    (Specification.ofCriteria v criteria).WellFormed where
  closed := h
  hasKeys := SortChain.hasKeys_empty
  take_ne_zero := nofun
  isSet := .empty

theorem all : Specification.all.WellFormed := ofCriteria rfl

theorem none : Specification.none.WellFormed := ofCriteria rfl

variable {a b : Specification}

theorem and (ha : a.WellFormed) (hb : b.WellFormed) : (a.and b).WellFormed :=
  ofCriteria (Criteria.isClosedOver_both ha.closed hb.closed)

theorem or (ha : a.WellFormed) (hb : b.WellFormed) : (a.or b).WellFormed :=
  ofCriteria (Criteria.isClosedOver_either ha.closed hb.closed)

theorem not (ha : a.WellFormed) : a.not.WellFormed :=
  ofCriteria (Criteria.isClosedOver_negation ha.closed)

end WellFormed

end Specification

/-! ## Building -/

/-- A program is a loop over its steps that carries the builder along. -/
theorem SpecificationBuilder.run_eq_foldlM (b : SpecificationBuilder) (steps : List BuilderStep) :
    b.run steps = steps.foldlM runStep b := by
  induction steps generalizing b with
  | nil => rfl
  | cons step steps ih =>
    rw [run, List.foldlM_cons]
    rcases b.runStep step with e | next
    · rfl
    · exact ih next

namespace Specification

theorem build_toBuilder (s : Specification) : s.toBuilder.build = s := rfl

namespace WellFormed

variable {b next : SpecificationBuilder}

theorem new : SpecificationBuilder.new.build.WellFormed := all

/-- Going on with the criteria, whatever goes on with them. -/
theorem withCriteria {extend : CriteriaChain → Except SpecError CriteriaChain}
    (hb : b.build.WellFormed)
    (hextend : ∀ chain, extend b.criteria = .ok chain → chain.isClosed = true)
    (h : b.withCriteria extend = .ok next) : next.build.WellFormed := by
  obtain ⟨chain, hchain, h⟩ := Except.bind_eq_ok.mp h
  obtain rfl := Except.ok.inj h
  exact { hb with closed := hextend chain hchain }

theorem withSorts {step : SortStep} (hb : b.build.WellFormed)
    (h : b.withSorts (·.runStep step) = .ok next) : next.build.WellFormed := by
  obtain ⟨sorts, hsorts, h⟩ := Except.bind_eq_ok.mp h
  obtain rfl := Except.ok.inj h
  exact { hb with hasKeys := SortChain.hasKeys_runStep hb.hasKeys hsorts }

theorem take {count : UInt64} (hb : b.build.WellFormed) (h : b.take count = .ok next) :
    next.build.WellFormed := by
  obtain ⟨window, hwindow, h⟩ := Except.bind_eq_ok.mp h
  obtain rfl := Except.ok.inj h
  obtain ⟨htake, rfl⟩ := Window.new_eq_ok.mp hwindow
  exact { hb with take_ne_zero := htake }

theorem page {number size : UInt64} (hb : b.build.WellFormed)
    (h : b.page number size = .ok next) : next.build.WellFormed := by
  obtain ⟨page, hpage, h⟩ := Except.bind_eq_ok.mp h
  obtain rfl := Except.ok.inj h
  obtain ⟨-, hsize, -, rfl⟩ := Page.new_eq_ok.mp hpage
  exact { hb with take_ne_zero := fun hzero ↦ hsize (Option.some.inj hzero) }

theorem addInclude {path : String} (hb : b.build.WellFormed)
    (h : b.addInclude path = .ok next) : next.build.WellFormed := by
  obtain ⟨parsed, hparsed, h⟩ := Except.bind_eq_ok.mp h
  obtain rfl := Except.ok.inj h
  exact { hb with isSet := hb.isSet.insertOrdered (.parse hparsed) }

/-- **A step of a builder keeps what it builds well formed.** -/
theorem runStep {step : BuilderStep} (hb : b.build.WellFormed)
    (h : b.runStep step = .ok next) : next.build.WellFormed := by
  cases step with
  | boundTo v =>
    obtain rfl := Except.ok.inj h
    exact { hb with closed := rfl }
  | criteria steps =>
    rw [SpecificationBuilder.runStep] at h
    exact hb.withCriteria (fun _ ↦ CriteriaChain.isClosed_run hb.closed steps) h
  | addWhere clause =>
    rw [SpecificationBuilder.runStep] at h
    exact hb.withCriteria (fun _ ↦ CriteriaChain.isClosed_addWhere hb.closed) h
  | sort step => exact hb.withSorts h
  | skip count =>
    obtain rfl := Except.ok.inj h
    exact { hb with }
  | take count => exact hb.take h
  | page number size => exact hb.page h
  | addInclude path => exact hb.addInclude h

/-- A program of a builder keeps what it builds well formed. -/
theorem run {steps : List BuilderStep} (hb : b.build.WellFormed)
    (h : b.run steps = .ok next) : next.build.WellFormed := by
  rw [SpecificationBuilder.run_eq_foldlM] at h
  exact Except.foldlM_induction runStep hb h

end WellFormed

/-! ## Parts -/

theorem unboundVariable?_eq_none {v : Variable} {criteria : Criteria} :
    unboundVariable? v criteria = Option.none ↔ criteria.isClosedOver v = true := by
  cases criteria with
  | none => exact ⟨fun _ ↦ rfl, fun _ ↦ rfl⟩
  | some p =>
    show p.freeVariables.find? (· != v) = Option.none ↔ p.isClosedOver v = true
    rw [List.find?_eq_none, Predicate.isClosedOver_iff]
    refine forall_congr' fun w ↦ ?_
    rw [Predicate.mem_freeVariables, bne_iff_ne, ne_eq, not_not]

/-- **What parts are let through**: those whose criteria are closed, whose sort keys are not empty
and that do not take zero; they are kept as they are. -/
theorem ofParts_eq_ok {parts : SpecificationParts} {s : Specification} :
    ofParts parts = .ok s ↔ parts.criteria.isClosedOver parts.var = true ∧
      parts.sorts.HasKeys ∧ parts.take ≠ some 0 ∧
      s = ⟨parts.var, parts.criteria, parts.sorts, ⟨parts.skip, parts.take⟩, parts.includes⟩ := by
  rw [ofParts]
  split
  · rename_i w hunbound
    refine ⟨nofun, fun h ↦ ?_⟩
    rw [unboundVariable?_eq_none.mpr h.1] at hunbound
    cases hunbound
  · rename_i hunbound
    constructor
    · intro h
      obtain ⟨sorts, hsorts, h⟩ := Except.bind_eq_ok.mp h
      obtain ⟨window, hwindow, h⟩ := Except.bind_eq_ok.mp h
      obtain ⟨hkeys, rfl⟩ := SortChain.ofLevels_eq_ok.mp hsorts
      obtain ⟨htake, rfl⟩ := Window.new_eq_ok.mp hwindow
      obtain rfl := Except.ok.inj h
      exact ⟨unboundVariable?_eq_none.mp hunbound, hkeys, htake, rfl⟩
    · rintro ⟨-, hkeys, htake, rfl⟩
      refine Except.bind_eq_ok.mpr ⟨_, SortChain.ofLevels_eq_ok.mpr ⟨hkeys, rfl⟩, ?_⟩
      exact Except.bind_eq_ok.mpr ⟨_, Window.new_eq_ok.mpr ⟨htake, rfl⟩, rfl⟩

theorem WellFormed.ofParts {parts : SpecificationParts} {s : Specification}
    (hincludes : IncludePath.IsSet parts.includes) (h : Specification.ofParts parts = .ok s) :
    s.WellFormed := by
  obtain ⟨hclosed, hkeys, htake, rfl⟩ := ofParts_eq_ok.mp h
  exact ⟨hclosed, hkeys, htake, hincludes⟩

end Specification
end Sift
