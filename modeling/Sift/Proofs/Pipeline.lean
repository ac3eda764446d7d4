import Sift.Evaluation
import Sift.Proofs.Composition
import Sift.Proofs.StableSort

/-!
# The ordinary pipeline over a list

What a specification asks for can be said without stages or sources: take what satisfies it, in
stable order, and cut its window out.  `Evaluator.run_ofConfig` says that the pipeline does this
to a source in memory, stage by stage:

* `Stage.performAll_filter` and `Stage.performAll_order` — what is there and in which order;
* `Stage.performAll_loading` — which paths are asked for;
* `Stage.performAll_pagination` — the window, with its limit from the settings.

`Specification.fetch_refines_reference` puts it together, with the order given by what a stable
sort is rather than by an algorithm.
-/

set_option autoImplicit false
namespace Sift

/-! ## The window -/

/-- How many a window takes.  Where it does not say, the limit does not count. -/
def Window.limit (window : Window) (maxTake : Option UInt64) : Option Nat :=
  window.take.map fun n ↦ maxTake.elim n.toNat fun max ↦ min n.toNat max.toNat

/-- What a window shows of a list. -/
def Window.cut {α : Type} (window : Window) (maxTake : Option UInt64) (items : List α) : List α :=
  let rest := items.drop (window.skip.elim 0 UInt64.toNat)
  (window.limit maxTake).elim rest fun n ↦ rest.take n

/-- The smaller of two numbers to take is taken. -/
theorem StageContext.cappedTake_toNat (context : StageContext) :
    context.cappedTake.map UInt64.toNat = context.spec.window.limit context.config.maxTake := by
  rw [cappedTake, Window.limit]
  rcases context.spec.window.take with _ | n
  · rfl
  · rcases context.config.maxTake with _ | max
    · rfl
    · show some (if n > max then max else n).toNat = some (min n.toNat max.toNat)
      by_cases hmax : n > max
      · have hnat : max.toNat < n.toNat := UInt64.lt_iff_toNat_lt.mp hmax
        rw [if_pos hmax, Nat.min_eq_right (Nat.le_of_lt hnat)]
      · have hnat : n.toNat ≤ max.toNat := UInt64.le_iff_toNat_le.mp (UInt64.not_lt.mp hmax)
        rw [if_neg hmax, Nat.min_eq_left hnat]

/-! ## The stages -/

theorem SourceCall.performAll_append {σ : Type} [QuerySource σ] (calls more : List SourceCall)
    (source : σ) : performAll (calls ++ more) source = performAll more (performAll calls source) :=
  List.foldl_append

namespace Stage

open SourceCall

variable {α : Type} [Entity α] (context : StageContext) (source : MemorySource α)

theorem performAll_filter : performAll (filter.calls context) source =
    { source with items := source.items.filter context.spec.isSatisfiedBy } := by
  show performAll (context.spec.criteria.map _).toList source = _
  rcases hcriteria : context.spec.criteria with _ | p
  · have hall : ∀ entity : α, context.spec.isSatisfiedBy entity = true := by
      intro entity
      rw [Specification.isSatisfiedBy, hcriteria]
      rfl
    rw [List.filter_eq_self.mpr fun entity _ ↦ hall entity]
    rfl
  · have hp : (context.spec.isSatisfiedBy : α → Bool) = p.eval context.spec.var := by
      funext entity
      rw [Specification.isSatisfiedBy, hcriteria]
      rfl
    rw [hp]
    rfl

/-- The order is left out only where there is one that nothing can depend on. -/
theorem performAll_order : performAll (order.calls context) source =
    if context.orderIsUnneeded then source
    else { source with items := context.spec.sorts.sort source.items } := by
  show performAll (if context.spec.sorts.isEmpty || context.orderIsUnneeded then []
    else [.orderBy context.spec.sorts.levels]) source = _
  rw [SortChain.sort]
  by_cases hempty : context.spec.sorts.isEmpty = true
  · rw [if_pos (by rw [hempty, Bool.true_or]), if_pos hempty]
    exact (ite_self source).symm
  · by_cases hunneeded : context.orderIsUnneeded = true
    · rw [if_pos (by rw [hunneeded, Bool.or_true]), if_pos hunneeded]
      rfl
    · rw [if_neg (by simp [hempty, hunneeded]), if_neg hunneeded, if_neg hempty]
      exact if_neg hempty

theorem performAll_load (paths : List IncludePath) :
    performAll (paths.map .load) source =
      { source with included := source.included ++ paths } := by
  induction paths generalizing source with
  | nil =>
    rw [List.append_nil]
    rfl
  | cons path paths ih =>
    have hrest := ih { source with included := source.included ++ [path] }
    rw [List.append_assoc] at hrest
    exact hrest

theorem performAll_loading : performAll (loading.calls context) source =
    if context.intent.materializes then
      { source with included := source.included ++ context.spec.includes }
    else source := by
  show performAll (if _ then _ else _) source = _
  split
  · exact performAll_load source context.spec.includes
  · rfl

theorem performAll_skip (skip : Option UInt64) :
    performAll (skip.map .skip).toList source =
      { source with items := source.items.drop (skip.elim 0 UInt64.toNat) } := by
  cases skip <;> rfl

theorem performAll_take (take : Option UInt64) :
    performAll (take.map .take).toList source =
      { source with
        items := (take.map UInt64.toNat).elim source.items fun n ↦ source.items.take n } := by
  cases take <;> rfl

theorem performAll_pagination : performAll (pagination.calls context) source =
    { source with items := context.spec.window.cut context.config.maxTake source.items } := by
  show performAll ((context.spec.window.skip.map .skip).toList ++
    (context.cappedTake.map .take).toList) source = _
  rw [performAll_append, performAll_skip, performAll_take, context.cappedTake_toNat]
  rfl

end Stage

/-! ## The pipeline -/

namespace Evaluator

variable {α : Type} [Entity α]

/-- **What the pipeline leaves in memory** when entities are wanted. -/
theorem run_ofConfig (config : EvaluatorConfig) (s : Specification) (source : MemorySource α) :
    (ofConfig config).run s .fetch source =
      ⟨s.window.cut config.maxTake (s.sorts.sort (source.items.filter s.isSatisfiedBy)),
        source.included ++ s.includes⟩ := by
  show SourceCall.performAll (Stage.pipeline.flatMap fun stage ↦
    stage.calls ((ofConfig config).context s .fetch)) source = _
  simp only [Stage.pipeline, List.flatMap_cons, List.flatMap_nil, List.append_nil]
  have hneeded : ((ofConfig config).context s .fetch).orderIsUnneeded = false := by
    simp [StageContext.orderIsUnneeded, context, Intent.materializes]
  rw [SourceCall.performAll_append, SourceCall.performAll_append, SourceCall.performAll_append,
    Stage.performAll_filter, Stage.performAll_order, hneeded, if_neg Bool.false_ne_true,
    Stage.performAll_loading, Stage.performAll_pagination]
  rfl

end Evaluator

/-- What filtering returns is cut out of what satisfies the specification, in order. -/
theorem Specification.filter_eq_cut_sort {α : Type} [Entity α] (s : Specification)
    (entities : List α) : s.filter entities = s.window.cut EvaluatorConfig.default.maxTake
      (s.sorts.sort (entities.filter s.isSatisfiedBy)) :=
  congrArg MemorySource.items (Evaluator.run_ofConfig .default s (.ofList entities))

/-! ## The reference -/

/-- **Fetching is the reference query.**  The entities that satisfy a specification have one stable
rearrangement in its order.  Under any settings the pipeline leaves the window of that, and asks
for the paths of the specification in ascending order; filtering and finding are the case of the
default settings. -/
theorem Specification.fetch_refines_reference {s : Specification} (hs : s.Reachable) {α : Type}
    [Entity α] (entities : List α) :
    Ascending s.includes ∧ ∃ ordered,
      StablySorted s.sorts.compareEntities (entities.filter s.isSatisfiedBy) ordered ∧
      (∀ other, StablySorted s.sorts.compareEntities (entities.filter s.isSatisfiedBy) other →
        other = ordered) ∧
      (∀ config, (Evaluator.ofConfig config).run s .fetch (MemorySource.ofList entities) =
        ⟨s.window.cut config.maxTake ordered, s.includes⟩) ∧
      s.filter entities = s.window.cut EvaluatorConfig.default.maxTake ordered ∧
      (∀ (β : Type) (copy : α → β), s.filterCopied copy entities =
        (s.window.cut EvaluatorConfig.default.maxTake ordered).map copy) ∧
      s.find? entities = (s.window.cut EvaluatorConfig.default.maxTake ordered).head? := by
  have hsort := stablySorted_sort s.sorts (entities.filter s.isSatisfiedBy)
  have hrun := fun config ↦ Evaluator.run_ofConfig config s (MemorySource.ofList entities)
  have hfilter : s.filter entities = s.window.cut EvaluatorConfig.default.maxTake
      (s.sorts.sort (entities.filter s.isSatisfiedBy)) :=
    congrArg MemorySource.items (hrun .default)
  refine ⟨hs.wellFormed.isSet.ascending, _, hsort, fun other hother ↦ hother.unique hsort, hrun,
    hfilter, fun β copy ↦ congrArg (List.map copy) hfilter, ?_⟩
  exact congrArg List.head? hfilter

/-- Records that have a name, and whether they are active. -/
def namedRecords : List Record :=
  [("b", true), ("a", false), ("c", true), ("b", false)].map fun (name, active) ↦
    ⟨fun field ↦ if field = "name" then .string name else .bool active⟩

theorem Specification.fetch_refines_reference_foreignGroup :
    ∃ b, SpecificationBuilder.new.run foreignGroupSteps = .ok b ∧ ∃ ordered,
      StablySorted b.build.sorts.compareEntities (namedRecords.filter b.build.isSatisfiedBy)
        ordered ∧
      (Evaluator.ofConfig ⟨true, some 2⟩).run b.build .fetch (MemorySource.ofList namedRecords) =
        ⟨ordered.take 2, [⟨"order", ["lines"]⟩]⟩ := by
  have hb : ∃ b, SpecificationBuilder.new.run foreignGroupSteps = .ok b ∧
      b.build.window = ⟨Option.none, some 3⟩ ∧ b.build.includes = [⟨"order", ["lines"]⟩] :=
    ⟨_, rfl, rfl, rfl⟩
  obtain ⟨b, hb, hwindow, hincludes⟩ := hb
  obtain ⟨-, ordered, hordered, -, hrun, -⟩ := Specification.fetch_refines_reference
    (.build (SpecificationBuilder.Reachable.new.run hb)) namedRecords
  refine ⟨b, hb, ordered, hordered, ?_⟩
  rw [hrun, hwindow, hincludes]
  rfl

end Sift
