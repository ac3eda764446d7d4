import Mathlib.Data.List.Basic
import Sift.Proofs.Intents

/-!
# Stages that can change places

The ordinary stages come in one order, but only pagination depends on what was done before it.
Filtering, ordering and loading each leave alone what the other two do, so they may come in any
order as long as pagination is the last: `Evaluator.run_eq_of_perm`.

Loading is independent because it does not touch the entities.  What remains is that a stable sort
and a filter commute, ties included:

* `StablySorted.filter` — a stable rearrangement in order stays one when both lists are filtered;
* `SortChain.sort_filter` — so sorting what is kept is keeping what was sorted.

`Stage.Commutes` is the relation between two stages, and `Evaluator.run_append_of_perm` says that
any list of stages that commute pairwise may be rearranged, whatever comes after it.
-/

set_option autoImplicit false
namespace Sift

open Std

/-! ## Sorting and filtering -/

section Sorting

variable {α : Type} {cmp : α → α → Ordering} {items sorted : List α}

/-- What is tied with an item in a filtered list is what passes the filter among what was tied. -/
theorem tiedWith_filter (p : α → Bool) (item : α) (items : List α) :
    tiedWith cmp item (items.filter p) = (tiedWith cmp item items).filter p := by
  rw [tiedWith, tiedWith, List.filter_comm]

/-- **A filter does not disturb a stable sort.** -/
theorem StablySorted.filter (h : StablySorted cmp items sorted) (p : α → Bool) :
    StablySorted cmp (items.filter p) (sorted.filter p) where
  perm := h.perm.filter p
  ordered := h.ordered.filter p
  stable item := by
    rw [tiedWith_filter, tiedWith_filter, h.stable]

end Sorting

/-- Sorting what is kept is keeping what was sorted. -/
theorem SortChain.sort_filter {α : Type} [Entity α] (chain : SortChain) (p : α → Bool)
    (entities : List α) : chain.sort (entities.filter p) = (chain.sort entities).filter p := by
  have hkept : StablySorted (compareByLevels chain.levels) (entities.filter p)
      (chain.sort (entities.filter p)) := stablySorted_sort chain _
  have hsorted : StablySorted (compareByLevels chain.levels) (entities.filter p)
      ((chain.sort entities).filter p) := (stablySorted_sort chain entities).filter p
  exact hkept.unique hsorted

/-! ## Two stages -/

namespace Stage

open SourceCall

/-- Whether it does not matter to a source in memory which of two stages is gone through first. -/
def Commutes (α : Type) [Entity α] (context : StageContext) (a b : Stage) : Prop :=
  ∀ source : MemorySource α, performAll (b.calls context) (performAll (a.calls context) source) =
    performAll (a.calls context) (performAll (b.calls context) source)

section Commutes

variable {α : Type} [Entity α] {context : StageContext}

theorem Commutes.refl (a : Stage) : Commutes α context a a :=
  fun _ ↦ rfl

theorem Commutes.symm {a b : Stage} (h : Commutes α context a b) : Commutes α context b a :=
  fun source ↦ (h source).symm

theorem commutes_filter_order : Commutes α context filter order := by
  intro source
  rw [performAll_filter, performAll_order, performAll_order, performAll_filter]
  by_cases hunneeded : context.orderIsUnneeded = true
  · rw [if_pos hunneeded, if_pos hunneeded]
  · rw [if_neg hunneeded, if_neg hunneeded, SortChain.sort_filter]

/-- Loading does not touch the entities. -/
theorem commutes_filter_loading : Commutes α context filter loading := by
  intro source
  rw [performAll_filter, performAll_loading, performAll_loading, performAll_filter]
  by_cases hfetch : context.intent.materializes = true
  · rw [if_pos hfetch, if_pos hfetch]
  · rw [if_neg hfetch, if_neg hfetch]

theorem commutes_order_loading : Commutes α context order loading := by
  intro source
  rw [performAll_order, performAll_loading, performAll_loading, performAll_order]
  by_cases hunneeded : context.orderIsUnneeded = true
  · rw [if_pos hunneeded, if_pos hunneeded]
  · by_cases hfetch : context.intent.materializes = true
    · rw [if_pos hfetch, if_pos hfetch, if_neg hunneeded, if_neg hunneeded]
    · rw [if_neg hfetch, if_neg hfetch, if_neg hunneeded]

end Commutes

/-- The ordinary stages before the last. -/
def beforePagination : List Stage := [filter, order, loading]

/-- **Whichever two of the stages before pagination commute.** -/
theorem commutes_of_mem {α : Type} [Entity α] {context : StageContext} {a b : Stage}
    (ha : a ∈ beforePagination) (hb : b ∈ beforePagination) : Commutes α context a b := by
  have hcases : ∀ {stage : Stage}, stage ∈ beforePagination →
      stage = filter ∨ stage = order ∨ stage = loading := by
    intro stage hstage
    simpa [beforePagination] using hstage
  rcases hcases ha with rfl | rfl | rfl <;> rcases hcases hb with rfl | rfl | rfl
  · exact .refl filter
  · exact commutes_filter_order
  · exact commutes_filter_loading
  · exact commutes_filter_order.symm
  · exact .refl order
  · exact commutes_order_loading
  · exact commutes_filter_loading.symm
  · exact commutes_order_loading.symm
  · exact .refl loading

end Stage

/-! ## Runs -/

namespace Evaluator

variable {α : Type} [Entity α]

/-- **Stages that commute pairwise may be rearranged**, whatever comes after them. -/
theorem run_append_of_perm {stages others : List Stage} (hperm : stages.Perm others)
    (s : Specification) (intent : Intent) (config : EvaluatorConfig)
    (hcommutes : ∀ a ∈ stages, ∀ b ∈ stages, Stage.Commutes α ⟨s, intent, config⟩ a b)
    (rest : List Stage) (source : MemorySource α) :
    (⟨stages ++ rest, config⟩ : Evaluator).run s intent source =
      (⟨others ++ rest, config⟩ : Evaluator).run s intent source := by
  rw [run_eq_foldl, run_eq_foldl, List.foldl_append, List.foldl_append]
  refine congrArg (fun start ↦ rest.foldl _ start) ?_
  exact hperm.foldl_eq' (fun a ha b hb current ↦ hcommutes a ha b hb current) source

/-- **Filtering, ordering and loading may come in any order before pagination.**  For every
specification, intent and settings, going through the three of them once each, however arranged,
and then through pagination leaves of every source in memory what the ordinary stages leave: the
same entities in the same order, tied ones included, and the same paths asked for. -/
theorem run_eq_of_perm {stages : List Stage}
    (hperm : stages.Perm [Stage.filter, Stage.order, Stage.loading]) (s : Specification)
    (intent : Intent) (config : EvaluatorConfig) (source : MemorySource α) :
    (⟨stages ++ [Stage.pagination], config⟩ : Evaluator).run s intent source =
      (ofConfig config).run s intent source := by
  have hcommutes : ∀ a ∈ stages, ∀ b ∈ stages, Stage.Commutes α ⟨s, intent, config⟩ a b := by
    intro a ha b hb
    have ha' : a ∈ Stage.beforePagination := hperm.mem_iff.mp ha
    have hb' : b ∈ Stage.beforePagination := hperm.mem_iff.mp hb
    exact Stage.commutes_of_mem ha' hb'
  exact run_append_of_perm hperm s intent config hcommutes [Stage.pagination] source

/-- The first two records of which the name is not `a`, the names in descending order, with their
orders. -/
def lastNames : Specification where
  var := ⟨"record"⟩
  criteria := some (.leaf ⟨"record"⟩ ⟨"name", .notEqual, .string "a"⟩)
  sorts := ⟨[⟨"name", .descending, .unspecified⟩]⟩
  window := ⟨none, some 2⟩
  includes := [⟨"order", []⟩]

/-- Two of the records have one name, and they are put in order before the third is left out. -/
theorem run_eq_of_perm_lateFilter :
    let stages : List Stage := [.order, .loading, .filter]
    let source := MemorySource.ofList namedRecords
    stages.Perm [Stage.filter, Stage.order, Stage.loading] ∧ ∀ intent : Intent,
      (⟨stages ++ [Stage.pagination], .default⟩ : Evaluator).run lastNames intent source =
        default.run lastNames intent source := by
  intro stages source
  have hperm : stages.Perm [Stage.filter, Stage.order, Stage.loading] :=
    @List.perm_append_comm _ [Stage.order, Stage.loading] [Stage.filter]
  exact ⟨hperm, fun intent ↦ run_eq_of_perm hperm lastNames intent .default source⟩

end Evaluator
end Sift
