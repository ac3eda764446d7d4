import Sift.Proofs.ValueOrder

/-!
# Stable sorting

`StablySorted cmp items sorted` says that `sorted` is `items` in the order of `cmp`, with tied items
in the order they had.  For a total preorder there is exactly one such list:

* `StablySorted.unique` — two of them are equal;
* `stablySorted_sortByLevels` — sorting by levels gives one.
-/

set_option autoImplicit false
namespace Sift

open Std

variable {α : Type}

/-- The items of a list that are tied with a given one. -/
def tiedWith (cmp : α → α → Ordering) (item : α) (items : List α) : List α :=
  items.filter fun other ↦ cmp item other == .eq

/-- A rearrangement in order that leaves tied items as they were. -/
structure StablySorted (cmp : α → α → Ordering) (items sorted : List α) : Prop where
  perm : sorted.Perm items
  ordered : sorted.Pairwise fun a b ↦ (cmp a b).isLE
  stable : ∀ item, tiedWith cmp item sorted = tiedWith cmp item items

variable {cmp : α → α → Ordering}

theorem mem_tiedWith {item other : α} {items : List α} :
    other ∈ tiedWith cmp item items ↔ other ∈ items ∧ cmp item other = .eq := by
  rw [tiedWith, List.mem_filter, beq_iff_eq]

variable {a b : α} {items others sorted sorted' : List α}

theorem tiedWith_cons_of_eq (h : cmp a b = .eq) :
    tiedWith cmp a (b :: items) = b :: tiedWith cmp a items :=
  List.filter_cons_of_pos (beq_iff_eq.mpr h)

theorem tiedWith_cons_of_ne (h : cmp a b ≠ .eq) :
    tiedWith cmp a (b :: items) = tiedWith cmp a items :=
  List.filter_cons_of_neg fun heq ↦ h (beq_iff_eq.mp heq)

variable [TransCmp cmp]

theorem mem_tiedWith_self : a ∈ tiedWith cmp a items ↔ a ∈ items := by
  have hself : cmp a a = .eq := ReflCmp.compare_self
  rw [mem_tiedWith, hself, eq_self, and_true]

/-- What is tied with the items of a list makes up all of it. -/
theorem mem_of_tiedWith_eq (h : ∀ item, tiedWith cmp item items = tiedWith cmp item others)
    (ha : a ∈ items) : a ∈ others := by
  have htied : a ∈ tiedWith cmp a items := mem_tiedWith_self.mpr ha
  rw [h] at htied
  exact mem_tiedWith_self.mp htied

theorem isLE_head (h : (b :: items).Pairwise fun a b ↦ (cmp a b).isLE) (ha : a ∈ b :: items) :
    (cmp b a).isLE = true := by
  rcases List.mem_cons.mp ha with rfl | ha
  · exact ReflCmp.isLE_rfl
  · exact List.rel_of_pairwise_cons h ha

/-- In order, a list is determined by what is tied with what. -/
theorem eq_of_tiedWith_eq (hitems : items.Pairwise fun a b ↦ (cmp a b).isLE)
    (hothers : others.Pairwise fun a b ↦ (cmp a b).isLE)
    (h : ∀ item, tiedWith cmp item items = tiedWith cmp item others) : items = others := by
  induction items generalizing others with
  | nil =>
    cases others with
    | nil => rfl
    | cons b others => cases mem_of_tiedWith_eq (fun item ↦ (h item).symm) List.mem_cons_self
  | cons a items ih =>
    cases others with
    | nil => cases mem_of_tiedWith_eq h List.mem_cons_self
    | cons b others =>
      -- The heads are below each other, so they are tied and lead the same list of tied items.
      have hab : (cmp a b).isLE = true :=
        isLE_head hitems (mem_of_tiedWith_eq (fun item ↦ (h item).symm) List.mem_cons_self)
      have hba : (cmp b a).isLE = true :=
        isLE_head hothers (mem_of_tiedWith_eq h List.mem_cons_self)
      have htied : cmp a b = .eq := OrientedCmp.isLE_antisymm hab hba
      have hheads := h a
      rw [tiedWith_cons_of_eq ReflCmp.compare_self, tiedWith_cons_of_eq htied] at hheads
      obtain ⟨rfl, -⟩ := List.cons.inj hheads
      rw [ih (List.Pairwise.of_cons hitems) (List.Pairwise.of_cons hothers) fun item ↦ ?_]
      by_cases hitem : cmp item a = .eq
      · have htails := h item
        rw [tiedWith_cons_of_eq hitem, tiedWith_cons_of_eq hitem] at htails
        exact (List.cons.inj htails).2
      · have htails := h item
        rwa [tiedWith_cons_of_ne hitem, tiedWith_cons_of_ne hitem] at htails

/-- **There is at most one stable rearrangement in order.** -/
theorem StablySorted.unique (h : StablySorted cmp items sorted)
    (h' : StablySorted cmp items sorted') : sorted = sorted' :=
  eq_of_tiedWith_eq h.ordered h'.ordered fun item ↦ (h.stable item).trans (h'.stable item).symm

/-! ## Sorting by merging -/

theorem isLE_or_isLE (a b : α) : ((cmp a b).isLE || (cmp b a).isLE) = true := by
  have hswap : cmp b a = (cmp a b).swap := OrientedCmp.eq_swap
  rw [hswap]
  cases cmp a b <;> rfl

/-- **Merge sort is stable.**  The items tied with one are in order as they stand, so they are
still in this order afterwards, and there are no more of them than before. -/
theorem stablySorted_mergeSort (items : List α) :
    StablySorted cmp items (items.mergeSort fun a b ↦ (cmp a b).isLE) := by
  have htrans : ∀ a b c, (cmp a b).isLE = true → (cmp b c).isLE = true → (cmp a c).isLE = true :=
    fun _ _ _ ↦ TransCmp.isLE_trans
  have hperm := List.mergeSort_perm items fun a b ↦ (cmp a b).isLE
  refine ⟨hperm, List.pairwise_mergeSort htrans isLE_or_isLE items, fun item ↦ ?_⟩
  have htied : (tiedWith cmp item items).Pairwise fun a b ↦ (cmp a b).isLE := by
    refine List.pairwise_of_forall_mem_list fun a ha b hb ↦ ?_
    have hitem : cmp a item = .eq := OrientedCmp.eq_symm (mem_tiedWith.mp ha).2
    rw [TransCmp.congr_left hitem, (mem_tiedWith.mp hb).2]
    rfl
  have hsub : (tiedWith cmp item items).Sublist
      (items.mergeSort fun a b ↦ (cmp a b).isLE) :=
    List.sublist_mergeSort htrans isLE_or_isLE htied List.filter_sublist
  have hfilter := hsub.filter fun other ↦ cmp item other == .eq
  rw [tiedWith, List.filter_filter] at hfilter
  simp only [Bool.and_self] at hfilter
  exact (hfilter.eq_of_length (hperm.filter _).length_eq.symm).symm

section Entities

variable {β : Type} [Entity β]

/-- **Sorting by levels is stable.** -/
theorem stablySorted_sortByLevels (levels : List SortLevel) (entities : List β) :
    StablySorted (compareByLevels levels) entities (sortByLevels levels entities) :=
  stablySorted_mergeSort entities

/-- Without levels everything is tied, so that nothing moves. -/
theorem stablySorted_nil (entities : List β) :
    StablySorted (compareByLevels []) entities entities :=
  ⟨.rfl, List.pairwise_of_forall fun _ _ ↦ rfl, fun _ ↦ rfl⟩

theorem stablySorted_sort (chain : SortChain) (entities : List β) :
    StablySorted (compareByLevels chain.levels) entities (chain.sort entities) := by
  rw [SortChain.sort]
  split
  · rename_i h
    rw [List.isEmpty_iff.mp h]
    exact stablySorted_nil entities
  · exact stablySorted_sortByLevels chain.levels entities

end Entities
end Sift
