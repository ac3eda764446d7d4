import Mathlib.Data.List.Pairwise
import Sift.Proofs.Intents
import Sift.Proofs.Pages

/-!
# Results that do not depend on the order of the input

Two lists may hold the same entities in different orders.  What a specification asks for is then the
same up to order; which of it a window shows need not be, since tied entities stay in the order that
they came in.

A sort chain *distinguishes* what satisfies a specification if no two of the entities that satisfy
it are tied.  Then there is only one order for them to be in, so that every window shows the same
entities: `Specification.filter_eq_of_perm`.  A window counts the same number of entities in any
case, since it cuts at the same places: `Specification.length_filter_of_perm`.
-/

set_option autoImplicit false
namespace Sift

open Std

/-! ## One order without ties -/

section Sorting

variable {α : Type} {cmp : α → α → Ordering} {items others sorted sorted' : List α}

/-- Whether no two items, at different places of a list, are tied. -/
def Untied (cmp : α → α → Ordering) (items : List α) : Prop :=
  items.Pairwise fun a b ↦ cmp a b ≠ .eq

variable [TransCmp cmp]

/-- Without ties an item is tied with itself only. -/
theorem Untied.eq_of_tied (h : Untied cmp items) {a b : α} (ha : a ∈ items) (hb : b ∈ items)
    (htied : cmp a b = .eq) : a = b := by
  have hsymm : Std.Symm fun a b : α ↦ cmp a b ≠ .eq :=
    ⟨fun _ _ hab hba ↦ hab (OrientedCmp.eq_symm hba)⟩
  by_contra hne
  exact List.Pairwise.forall h ha hb hne htied

/-- **Without ties there is one list in order**, wherever its items stood before. -/
theorem StablySorted.eq_of_perm (h : StablySorted cmp items sorted)
    (h' : StablySorted cmp others sorted') (hperm : items.Perm others)
    (huntied : Untied cmp items) : sorted = sorted' := by
  refine List.Perm.eq_of_pairwise (fun a b ha hb hab hba ↦ ?_) h.ordered h'.ordered
    (h.perm.trans (hperm.trans h'.perm.symm))
  have ha' : a ∈ items := h.perm.mem_iff.mp ha
  have hb' : b ∈ items := hperm.mem_iff.mpr (h'.perm.mem_iff.mp hb)
  exact huntied.eq_of_tied ha' hb' (OrientedCmp.isLE_antisymm hab hba)

end Sorting

/-- A window shows as many of one list as of another that is as long. -/
theorem Window.length_cut_congr {α : Type} (window : Window) (maxTake : Option UInt64)
    {items others : List α} (h : items.length = others.length) :
    (window.cut maxTake items).length = (window.cut maxTake others).length := by
  rw [cut, cut]
  cases window.limit maxTake with
  | none => rw [Option.elim_none, Option.elim_none, List.length_drop, List.length_drop, h]
  | some n =>
    rw [Option.elim_some, Option.elim_some, List.length_take, List.length_take, List.length_drop,
      List.length_drop, h]

/-! ## Specifications -/

namespace Specification

variable {α : Type} [Entity α]

/-- Whether the sort chain of a specification tells apart all the entities of a list that satisfy
it. -/
def Distinguishes (s : Specification) (entities : List α) : Prop :=
  Untied s.sorts.compareEntities (entities.filter s.isSatisfiedBy)

variable {xs ys : List α}

theorem filter_eq_of_perm (s : Specification) (hperm : xs.Perm ys) (h : s.Distinguishes xs) :
    s.filter xs = s.filter ys := by
  have hsort : s.sorts.sort (xs.filter s.isSatisfiedBy) =
      s.sorts.sort (ys.filter s.isSatisfiedBy) :=
    (stablySorted_sort s.sorts _).eq_of_perm (stablySorted_sort s.sorts _) (hperm.filter _) h
  rw [filter_eq_cut_sort, filter_eq_cut_sort, hsort]

theorem length_filter_of_perm (s : Specification) (hperm : xs.Perm ys) :
    (s.filter xs).length = (s.filter ys).length := by
  rw [filter_eq_cut_sort, filter_eq_cut_sort]
  refine Window.length_cut_congr _ _ ?_
  rw [(stablySorted_sort s.sorts _).perm.length_eq, (stablySorted_sort s.sorts _).perm.length_eq,
    (hperm.filter _).length_eq]

/-- **A chain that distinguishes makes paging stable.**  If two lists hold the same entities and the
sort chain ties no two of those that satisfy a specification, then the specification returns the
same list for both, whatever its window is, and so shows the same pages of both.  Whether or not
the chain does that, it counts the same number of entities in both, and has any in both or in
neither. -/
theorem paging_stable_of_perm (s : Specification) (hperm : xs.Perm ys) :
    (s.Distinguishes xs →
      (∀ window, filter { s with window } xs = filter { s with window } ys) ∧
      ∀ number size page, s.paged number size = .ok page → page.filter xs = page.filter ys) ∧
    ∀ window, count { s with window } xs = count { s with window } ys ∧
      any { s with window } xs = any { s with window } ys := by
  refine ⟨fun h ↦ ?_, fun window ↦ ?_⟩
  · have hwindow : ∀ window, filter { s with window } xs = filter { s with window } ys :=
      fun window ↦ filter_eq_of_perm { s with window } hperm h
    refine ⟨hwindow, fun number size page hpage ↦ ?_⟩
    obtain ⟨-, -, -, rfl⟩ := paged_eq_ok.mp hpage
    exact hwindow _
  · have hlength := length_filter_of_perm { s with window } hperm
    refine ⟨?_, ?_⟩
    · rw [count_eq_length_filter, count_eq_length_filter, hlength]
    · rw [any_eq_not_isEmpty_filter, any_eq_not_isEmpty_filter, Bool.eq_iff_iff]
      simp only [Bool.not_eq_true', List.isEmpty_eq_false_iff, ← List.length_pos_iff, hlength]

/-- Of two records of one name only one is active, so that the name tells the active ones apart. -/
theorem paging_stable_of_perm_reversed :
    namedRecords.Perm namedRecords.reverse ∧ firstActive.Distinguishes namedRecords ∧
      firstActive.filter namedRecords = firstActive.filter namedRecords.reverse ∧
      firstActive.count namedRecords = firstActive.count namedRecords.reverse := by
  have hperm : namedRecords.Perm namedRecords.reverse := (List.reverse_perm _).symm
  have hdistinguishes : firstActive.Distinguishes namedRecords := by
    refine List.Pairwise.cons ?_ (List.pairwise_singleton _ _)
    intro record hrecord
    rw [List.mem_singleton.mp hrecord]
    decide
  obtain ⟨hfilter, hcount⟩ := paging_stable_of_perm firstActive hperm
  exact ⟨hperm, hdistinguishes, (hfilter hdistinguishes).1 firstActive.window,
    (hcount firstActive.window).1⟩

end Specification
end Sift
