import Sift.Proofs.Pipeline

/-!
# Counting what fetching would return

An evaluation that is only wanted for a number leaves the order out where there is no window, and
never asks for a relation.  It may then leave the entities of a list in another order than fetching
does, but not another number of them: without a window no stage looks at the order, and with one
nothing is left out that a stage could look at.

None of this needs the stages to be those of the pipeline in their order.  It holds for any list of
them, with repetitions and omissions, since it holds stage by stage:

* `Evaluator.run_related` — a relation between two sources that every stage keeps is kept by a run;
* `Stage.items_eq_of_window` and `Stage.items_perm_of_unbounded` — what one stage keeps.

`Evaluator.run_agrees_on_items` is the result, with `Specification.count`, `any` and `find?` as the
case of the ordinary stages.
-/

set_option autoImplicit false
namespace Sift

/-! ## Runs stage by stage -/

namespace Evaluator

/-- A run goes through the stages one after the other. -/
theorem run_eq_foldl {σ : Type} [QuerySource σ] (evaluator : Evaluator) (s : Specification)
    (intent : Intent) (source : σ) : evaluator.run s intent source =
      evaluator.stages.foldl (fun source stage ↦
        SourceCall.performAll (stage.calls (evaluator.context s intent)) source) source :=
  List.foldl_flatMap

/-- **A relation between two sources that every stage keeps is kept by a run**, also if the two are
evaluated for different intents. -/
theorem run_related {σ τ : Type} [QuerySource σ] [QuerySource τ] {R : σ → τ → Prop}
    {evaluator : Evaluator} {s : Specification} {i j : Intent}
    (hstage : ∀ stage ∈ evaluator.stages, ∀ a b, R a b →
      R (SourceCall.performAll (stage.calls (evaluator.context s i)) a)
        (SourceCall.performAll (stage.calls (evaluator.context s j)) b))
    {a : σ} {b : τ} (h : R a b) : R (evaluator.run s i a) (evaluator.run s j b) := by
  rw [run_eq_foldl, run_eq_foldl]
  generalize evaluator.stages = stages at hstage
  induction stages generalizing a b with
  | nil => exact h
  | cons stage stages ih =>
    rw [List.foldl_cons, List.foldl_cons]
    exact ih (hstage stage List.mem_cons_self a b h)
      fun next hnext ↦ hstage next (List.mem_cons_of_mem _ hnext)

end Evaluator

/-! ## What a stage leaves in a list -/

theorem Window.cut_of_isUnbounded {α : Type} {window : Window} (h : window.isUnbounded = true)
    (maxTake : Option UInt64) (items : List α) : window.cut maxTake items = items := by
  obtain ⟨_ | skip, _ | take⟩ := window
  · rfl
  all_goals cases h

namespace Stage

open SourceCall

variable {α : Type} [Entity α]

section Items

variable (context : StageContext) (source : MemorySource α)

theorem items_filter : (performAll (filter.calls context) source).items =
    source.items.filter context.spec.isSatisfiedBy := by
  rw [performAll_filter]

/-- Ordering rearranges, if it does anything. -/
theorem items_order_perm : (performAll (order.calls context) source).items.Perm source.items := by
  rw [performAll_order]
  split
  · rfl
  · exact (stablySorted_sort _ _).perm

/-- With a window the order is not left out. -/
theorem items_order_of_window (h : context.spec.window.isUnbounded = false) :
    (performAll (order.calls context) source).items = context.spec.sorts.sort source.items := by
  have hneeded : context.orderIsUnneeded = false := by
    rw [StageContext.orderIsUnneeded, h, Bool.and_false]
  rw [performAll_order, if_neg (Bool.eq_false_iff.mp hneeded)]

theorem items_loading : (performAll (loading.calls context) source).items = source.items := by
  rw [performAll_loading]
  split <;> rfl

theorem items_pagination : (performAll (pagination.calls context) source).items =
    context.spec.window.cut context.config.maxTake source.items := by
  rw [performAll_pagination]

end Items

variable {stage : Stage} (hstage : stage ∈ pipeline) {s : Specification} (config : EvaluatorConfig)
  (i j : Intent) {a b : MemorySource α}
include hstage

theorem eq_of_mem_pipeline :
    stage = filter ∨ stage = order ∨ stage = loading ∨ stage = pagination := by
  simpa [pipeline] using hstage

/-- **With a window no stage treats the entities differently for different intents.** -/
theorem items_eq_of_window (hwindow : s.window.isUnbounded = false) (h : a.items = b.items) :
    (performAll (stage.calls ⟨s, i, config⟩) a).items =
      (performAll (stage.calls ⟨s, j, config⟩) b).items := by
  rcases eq_of_mem_pipeline hstage with rfl | rfl | rfl | rfl
  · rw [items_filter, items_filter, h]
  · rw [items_order_of_window _ _ hwindow, items_order_of_window _ _ hwindow, h]
  · rw [items_loading, items_loading, h]
  · rw [items_pagination, items_pagination, h]

/-- **Without a window every stage keeps sources that hold the same entities in any order so.**
Filtering and ordering do, and there is nothing to cut out. -/
theorem items_perm_of_unbounded (hwindow : s.window.isUnbounded = true)
    (h : a.items.Perm b.items) : (performAll (stage.calls ⟨s, i, config⟩) a).items.Perm
      (performAll (stage.calls ⟨s, j, config⟩) b).items := by
  rcases eq_of_mem_pipeline hstage with rfl | rfl | rfl | rfl
  · rw [items_filter, items_filter]
    exact h.filter _
  · exact (items_order_perm _ _).trans (h.trans (items_order_perm _ _).symm)
  · rwa [items_loading, items_loading]
  · rwa [items_pagination, items_pagination, Window.cut_of_isUnbounded hwindow,
      Window.cut_of_isUnbounded hwindow]

end Stage

/-! ## Intents -/

namespace Evaluator

variable {α : Type} [Entity α] {evaluator : Evaluator}

theorem items_run_of_window (hstages : evaluator.stages ⊆ Stage.pipeline) {s : Specification}
    (hwindow : s.window.isUnbounded = false) (i j : Intent) (source : MemorySource α) :
    (evaluator.run s i source).items = (evaluator.run s j source).items :=
  run_related (R := fun a b : MemorySource α ↦ a.items = b.items)
    (fun _ hstage _ _ ↦ Stage.items_eq_of_window (hstages hstage) evaluator.config i j hwindow) rfl

/-- Whatever the stages and the window are, the number of entities does not depend on the intent. -/
theorem size_run (hstages : evaluator.stages ⊆ Stage.pipeline) (s : Specification) (i j : Intent)
    (source : MemorySource α) :
    (evaluator.run s i source).size = (evaluator.run s j source).size := by
  rcases hwindow : s.window.isUnbounded with _ | _
  · exact congrArg List.length (items_run_of_window hstages hwindow i j source)
  · have hperm : (evaluator.run s i source).items.Perm (evaluator.run s j source).items :=
      run_related (R := fun a b : MemorySource α ↦ a.items.Perm b.items) (fun _ hstage _ _ ↦
        Stage.items_perm_of_unbounded (hstages hstage) evaluator.config i j hwindow) (.refl _)
    exact hperm.length_eq

theorem isEmpty_run (hstages : evaluator.stages ⊆ Stage.pipeline) (s : Specification)
    (i j : Intent) (source : MemorySource α) :
    (evaluator.run s i source).isEmpty = (evaluator.run s j source).isEmpty := by
  have hsize := size_run hstages s i j source
  rw [MemorySource.isEmpty, MemorySource.isEmpty, Bool.eq_iff_iff, List.isEmpty_iff_length_eq_zero,
    List.isEmpty_iff_length_eq_zero]
  exact iff_of_eq (congrArg (· = 0) hsize)

end Evaluator

namespace Specification

variable {α : Type} [Entity α] (s : Specification) (entities : List α)

theorem count_eq_length_filter : s.count entities = (s.filter entities).length :=
  Evaluator.size_run (List.Subset.refl _) s .count .fetch (.ofList entities)

theorem any_eq_not_isEmpty_filter : s.any entities = !(s.filter entities).isEmpty :=
  congrArg (!·) (Evaluator.isEmpty_run (List.Subset.refl _) s .exists .fetch (.ofList entities))

end Specification

/-- **Counting and asking for existence agree with fetching**, for any list of the ordinary stages,
any settings and whatever the source held before.  The number of entities is the same for each
intent, and there are none for one exactly if there are none for another; with a window even the
entities and their order are the same.  So counting is the length of what filtering returns, and
finding its first entity. -/
theorem Evaluator.run_agrees_on_items {evaluator : Evaluator}
    (hstages : evaluator.stages ⊆ Stage.pipeline) (s : Specification) {α : Type} [Entity α] :
    (∀ source : MemorySource α,
      (evaluator.run s .count source).size = (evaluator.run s .fetch source).size ∧
      ((evaluator.run s .exists source).isEmpty = true ↔
        (evaluator.run s .fetch source).isEmpty = true) ∧
      (s.window ≠ .unbounded → ∀ i j : Intent,
        (evaluator.run s i source).items = (evaluator.run s j source).items)) ∧
    ∀ entities : List α, s.count entities = (s.filter entities).length ∧
      s.any entities = !(s.filter entities).isEmpty ∧
      s.find? entities = (s.filter entities).head? := by
  refine ⟨fun source ↦ ⟨size_run hstages s _ _ source, ?_, fun hwindow i j ↦ ?_⟩,
    fun entities ↦ ⟨s.count_eq_length_filter entities, s.any_eq_not_isEmpty_filter entities, rfl⟩⟩
  · rw [isEmpty_run hstages s .exists .fetch source]
  · have hbounded : s.window.isUnbounded = false := by
      obtain ⟨var, criteria, sorts, ⟨_ | skip, _ | take⟩, includes⟩ := s
      · exact absurd rfl hwindow
      all_goals rfl
    exact items_run_of_window hstages hbounded i j source

/-- The first two records by name, should they be active. -/
def firstActive : Specification where
  var := ⟨"record"⟩
  criteria := some (.leaf ⟨"record"⟩ ⟨"active", .equal, .bool true⟩)
  sorts := ⟨[⟨"name", .ascending, .unspecified⟩]⟩
  window := ⟨none, some 2⟩
  includes := []

/-- Two records are taken before one of them is filtered out. -/
theorem Evaluator.run_agrees_on_items_lateFilter :
    let evaluator : Evaluator := ⟨[.pagination, .filter, .loading, .pagination], .default⟩
    let source := MemorySource.ofList namedRecords
    evaluator.stages ⊆ Stage.pipeline ∧
      (evaluator.run firstActive .count source).items =
        (evaluator.run firstActive .fetch source).items ∧
      (evaluator.run firstActive .count source).size = 1 := by
  intro evaluator source
  have hstages : evaluator.stages ⊆ Stage.pipeline := by
    simp [evaluator, Stage.pipeline]
  have hwindow : firstActive.window ≠ .unbounded := by decide
  obtain ⟨hrun, -⟩ := run_agrees_on_items hstages firstActive (α := Record)
  exact ⟨hstages, (hrun source).2.2 hwindow .count .fetch, rfl⟩

end Sift
