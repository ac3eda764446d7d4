import Mathlib.Data.List.Induction
import Sift.OrderedSet

/-!
# Ordered sets

`Ascending` is what makes a list an ordered set.  `insertOrdered` keeps it and adds exactly its
item, so `orderedSet` lists the items it is given in order, each once.
-/

set_option autoImplicit false
namespace Sift

open Std

variable {α : Type} [Ord α]

/-- Strictly ascending order, so that there is nothing twice. -/
def Ascending (set : List α) : Prop :=
  set.Pairwise fun a b ↦ compare a b = .lt

theorem ascending_nil : Ascending ([] : List α) := List.Pairwise.nil

theorem mem_insertOrdered [LawfulEqOrd α] {item other : α} {set : List α} :
    other ∈ insertOrdered item set ↔ other = item ∨ other ∈ set := by
  induction set with
  | nil => exact List.mem_cons
  | cons first rest ih =>
    rw [insertOrdered]
    split
    · exact List.mem_cons
    · rename_i heq
      rw [LawfulEqOrd.eq_of_compare heq, List.mem_cons, ← or_assoc, or_self]
    · rw [List.mem_cons, ih, List.mem_cons, or_left_comm]

theorem Ascending.insertOrdered [TransOrd α] [LawfulEqOrd α] {set : List α} (h : Ascending set)
    (item : α) : Ascending (insertOrdered item set) := by
  induction set with
  | nil => exact List.pairwise_singleton _ _
  | cons first rest ih =>
    obtain ⟨hfirst, hrest⟩ := List.pairwise_cons.mp h
    rw [Sift.insertOrdered]
    split
    · rename_i hlt
      refine List.pairwise_cons.mpr ⟨fun other hother ↦ ?_, h⟩
      rcases List.mem_cons.mp hother with rfl | hother
      · exact hlt
      · exact TransCmp.lt_trans hlt (hfirst other hother)
    · exact h
    · rename_i hgt
      refine List.pairwise_cons.mpr ⟨fun other hother ↦ ?_, ih hrest⟩
      rcases mem_insertOrdered.mp hother with rfl | hother
      · exact OrientedCmp.lt_of_gt hgt
      · exact hfirst other hother

theorem orderedSet_append_singleton (items : List α) (last : α) :
    orderedSet (items ++ [last]) = insertOrdered last (orderedSet items) := by
  rw [orderedSet, List.foldl_append, ← orderedSet]
  rfl

theorem mem_orderedSet [LawfulEqOrd α] {item : α} {items : List α} :
    item ∈ orderedSet items ↔ item ∈ items := by
  induction items using List.reverseRecOn with
  | nil => rfl
  | append_singleton items last ih =>
    rw [orderedSet_append_singleton, mem_insertOrdered, ih, List.mem_append, List.mem_singleton,
      or_comm]

theorem ascending_orderedSet [TransOrd α] [LawfulEqOrd α] (items : List α) :
    Ascending (orderedSet items) := by
  induction items using List.reverseRecOn with
  | nil => exact ascending_nil
  | append_singleton items last ih =>
    rw [orderedSet_append_singleton]
    exact ih.insertOrdered last

/-- An item past all others goes to the end. -/
theorem insertOrdered_of_forall_lt [OrientedOrd α] {item : α} {set : List α}
    (h : ∀ other ∈ set, compare other item = .lt) : insertOrdered item set = set ++ [item] := by
  induction set with
  | nil => rfl
  | cons first rest ih =>
    have hfirst : compare item first = .gt :=
      OrientedCmp.gt_of_lt (h first List.mem_cons_self)
    rw [insertOrdered, hfirst]
    dsimp only
    rw [ih fun other hother ↦ h other (List.mem_cons_of_mem _ hother), List.cons_append]

/-- A set is the set of its items. -/
theorem orderedSet_of_ascending [OrientedOrd α] {set : List α} (h : Ascending set) :
    orderedSet set = set := by
  induction set using List.reverseRecOn with
  | nil => rfl
  | append_singleton set last ih =>
    obtain ⟨hset, -, hlast⟩ := List.pairwise_append.mp h
    rw [orderedSet_append_singleton, ih hset]
    exact insertOrdered_of_forall_lt fun other hother ↦ hlast other hother last List.mem_cons_self

/-- A set is determined by what is in it. -/
theorem Ascending.eq_of_mem_iff [TransOrd α] [LawfulEqOrd α] {set other : List α}
    (h : Ascending set) (h' : Ascending other) (hmem : ∀ item, item ∈ set ↔ item ∈ other) :
    set = other := by
  have hnodup : ∀ {items : List α}, Ascending items → items.Nodup := fun hitems ↦
    hitems.imp fun {a b} hab heq ↦ by
      rw [heq, ReflOrd.compare_self] at hab
      cases hab
  refine List.Perm.eq_of_pairwise (fun a b _ _ hab hba ↦ ?_) h h'
    ((List.perm_ext_iff_of_nodup (hnodup h) (hnodup h')).mpr hmem)
  rw [OrientedCmp.gt_of_lt hba] at hab
  cases hab

theorem orderedSet_congr [TransOrd α] [LawfulEqOrd α] {items others : List α}
    (h : ∀ item, item ∈ items ↔ item ∈ others) : orderedSet items = orderedSet others := by
  refine (ascending_orderedSet items).eq_of_mem_iff (ascending_orderedSet others) fun item ↦ ?_
  rw [mem_orderedSet, mem_orderedSet, h item]

end Sift
