import Sift.Proofs.Sorting

/-!
# Sorting level after level

A sort chain compares by all its levels at once.  Sorting by one level at a time gives the same
list, the last level first, because each sort leaves in place what its own level does not tell
apart: `SortChain.sort_successively`.

What is behind it has nothing to do with levels.  If a list is sorted stably by one comparison and
then by another, the outcome is sorted stably by both, the second one before the first
(`StablySorted.trans`), and there is only one such list.

* `compareByLevels_append` — the levels of two lists are compared one list after the other;
* `SourceCall.performAll_orderBy_singletons` — a source in memory may be asked for one level at a
  time.
-/

set_option autoImplicit false
namespace Sift

open Std

/-! ## Two comparisons -/

section Comparisons

variable {α : Type} {cmp cmp' : α → α → Ordering}

/-- What is tied by two comparisons is what the second ties among what the first does. -/
theorem tiedWith_compareLex (item : α) (items : List α) :
    tiedWith (compareLex cmp cmp') item items = tiedWith cmp' item (tiedWith cmp item items) := by
  rw [tiedWith, tiedWith, tiedWith, List.filter_filter]
  refine List.filter_congr fun other _ ↦ ?_
  rw [compareLex]
  cases cmp item other with
  | lt | gt => exact (Bool.and_false _).symm
  | eq => exact (Bool.and_true _).symm

/-- It does not matter which of the two is asked first what it ties. -/
theorem tiedWith_comm (item : α) (items : List α) :
    tiedWith cmp item (tiedWith cmp' item items) =
      tiedWith cmp' item (tiedWith cmp item items) := by
  rw [tiedWith, tiedWith, tiedWith, tiedWith, List.filter_filter, List.filter_filter]
  exact List.filter_congr fun other _ ↦ Bool.and_comm _ _

variable [TransCmp cmp] {items middle sorted : List α}

/-- **A stable sort after another one.**  Ties of the later sort are left in the order of the
earlier one, so that both together sort by the later comparison and, on a tie, by the earlier. -/
theorem StablySorted.trans (earlier : StablySorted cmp' items middle)
    (later : StablySorted cmp middle sorted) : StablySorted (compareLex cmp cmp') items sorted where
  perm := later.perm.trans earlier.perm
  ordered := by
    have hties := later.pairwise_of_tied earlier.ordered
    refine (later.ordered.and hties).imp fun {a b} ⟨hle, htie⟩ ↦ Ordering.isLE_then_iff_or.mpr ?_
    exact (Ordering.isLE_iff_eq_lt_or_eq_eq.mp hle).imp_right fun heq ↦ ⟨heq, htie heq⟩
  stable item := by
    calc tiedWith (compareLex cmp cmp') item sorted
        = tiedWith cmp' item (tiedWith cmp item sorted) := tiedWith_compareLex item sorted
      _ = tiedWith cmp' item (tiedWith cmp item middle) := by rw [later.stable]
      _ = tiedWith cmp item (tiedWith cmp' item middle) := tiedWith_comm item middle
      _ = tiedWith cmp item (tiedWith cmp' item items) := by rw [earlier.stable]
      _ = tiedWith cmp' item (tiedWith cmp item items) := tiedWith_comm item items
      _ = tiedWith (compareLex cmp cmp') item items := (tiedWith_compareLex item items).symm

end Comparisons

/-! ## Levels -/

section Levels

variable {α : Type} [Entity α]

/-- The levels of a second list break the ties of those of the first. -/
theorem compareByLevels_append (p q : List SortLevel) :
    compareByLevels (α := α) (p ++ q) = compareLex (compareByLevels p) (compareByLevels q) := by
  funext a b
  induction p with
  | nil => rfl
  | cons level levels ih =>
    rw [List.cons_append, compareByLevels, ih, compareLex, compareLex, compareByLevels,
      Ordering.then_assoc]

/-- Sorting stably by all levels is sorting stably by the last ones and then by the first ones. -/
theorem stablySorted_append_iff (p q : List SortLevel) (entities sorted : List α) :
    StablySorted (compareByLevels (p ++ q)) entities sorted ↔
      ∃ middle, StablySorted (compareByLevels q) entities middle ∧
        StablySorted (compareByLevels p) middle sorted := by
  have htrans : ∀ {middle other}, StablySorted (compareByLevels q) entities middle →
      StablySorted (compareByLevels p) middle other →
      StablySorted (compareByLevels (p ++ q)) entities other := by
    intro middle other hq hp
    rw [compareByLevels_append]
    exact hq.trans hp
  constructor
  · intro h
    have hq := stablySorted_sortByLevels q entities
    have hp := stablySorted_sortByLevels p (sortByLevels q entities)
    rw [h.unique (htrans hq hp)]
    exact ⟨_, hq, hp⟩
  · rintro ⟨middle, hq, hp⟩
    exact htrans hq hp

namespace SortChain

theorem sort_append (p q : List SortLevel) (entities : List α) :
    (⟨p ++ q⟩ : SortChain).sort entities =
      (⟨p⟩ : SortChain).sort ((⟨q⟩ : SortChain).sort entities) :=
  (stablySorted_sort ⟨p ++ q⟩ entities).unique
    ((stablySorted_append_iff p q _ _).mpr ⟨_, stablySorted_sort ⟨q⟩ _, stablySorted_sort ⟨p⟩ _⟩)

/-- One level is sorted by at a time, the last one first. -/
theorem sort_eq_foldr (levels : List SortLevel) (entities : List α) :
    (⟨levels⟩ : SortChain).sort entities =
      levels.foldr (fun level sorted ↦ (⟨[level]⟩ : SortChain).sort sorted) entities := by
  induction levels with
  | nil => rfl
  | cons level levels ih =>
    calc (⟨level :: levels⟩ : SortChain).sort entities
        = (⟨[level]⟩ : SortChain).sort ((⟨levels⟩ : SortChain).sort entities) :=
          sort_append [level] levels entities
      _ = _ := by rw [ih, List.foldr_cons]

end SortChain

theorem MemorySource.orderBy_append (p q : List SortLevel) (source : MemorySource α) :
    QuerySource.orderBy (p ++ q) source = QuerySource.orderBy p (QuerySource.orderBy q source) := by
  rw [orderBy_eq_sort, orderBy_eq_sort, orderBy_eq_sort, SortChain.sort_append]

/-- Asking for one level at a time, the last one first, is asking for all of them. -/
theorem SourceCall.performAll_orderBy_singletons (levels : List SortLevel)
    (source : MemorySource α) :
    performAll (levels.reverse.map fun level ↦ orderBy [level]) source =
      QuerySource.orderBy levels source := by
  rw [performAll, List.foldl_map, List.foldl_reverse]
  induction levels with
  | nil => rfl
  | cons level levels ih =>
    rw [List.foldr_cons, ih]
    exact (MemorySource.orderBy_append [level] levels source).symm

/-- **Sorting by several levels is sorting by one after the other, the last one first.**  To sort
by the levels of two lists is to sort by the second list and then by the first one, in whatever way
as long as both sorts are stable.  So a chain may be worked off level by level, and a source in
memory may be asked for its levels one at a time. -/
theorem SortChain.sort_successively (p q : List SortLevel) (entities : List α)
    (source : MemorySource α) :
    (⟨p ++ q⟩ : SortChain).sort entities =
      (⟨p⟩ : SortChain).sort ((⟨q⟩ : SortChain).sort entities) ∧
    (⟨p⟩ : SortChain).sort entities =
      p.foldr (fun level sorted ↦ (⟨[level]⟩ : SortChain).sort sorted) entities ∧
    (∀ sorted, StablySorted (compareByLevels (p ++ q)) entities sorted ↔
      ∃ middle, StablySorted (compareByLevels q) entities middle ∧
        StablySorted (compareByLevels p) middle sorted) ∧
    QuerySource.orderBy (p ++ q) source =
      QuerySource.orderBy p (QuerySource.orderBy q source) ∧
    QuerySource.orderBy p source =
      SourceCall.performAll (p.reverse.map fun level ↦ .orderBy [level]) source := by
  exact ⟨sort_append p q entities, sort_eq_foldr p entities, stablySorted_append_iff p q entities,
    MemorySource.orderBy_append p q source,
    (SourceCall.performAll_orderBy_singletons p source).symm⟩

end Levels
end Sift
