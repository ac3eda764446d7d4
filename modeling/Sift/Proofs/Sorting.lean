import Mathlib.Data.List.Pairwise
import Sift.Proofs.StableSort
import Sift.Source

/-!
# Sorting, place by place

A list can hold one entity at two places, and what is said of a sorted list is then less than what
happened to it.  `places` gives every entity the place it stands at (`Placed`), which no comparison
reads.  So sorting moves places and entities alike (`SortChain.sort_places`), and stability is that
tied entities stay at ascending places.

`SortChain.sort_eq_iff` says that sorting gives the one stable rearrangement in order, that a source
in memory does the same, and that there is nothing left to do a second time.

* `compareByLevels_congr` — a comparison reads nothing but the sort keys;
* `StablySorted.pairwise_of_tied` — what a list has between earlier and later items, a stable
  rearrangement of it has between earlier and later tied ones.
-/

set_option autoImplicit false
namespace Sift

open Std

/-! ## Places -/

/-- An entity at a place of a list.  It reads as the entity does. -/
structure Placed (α : Type) where
  index : Nat
  entity : α

/-- An entity has the same fields wherever it is placed. -/
instance {α : Type} [Entity α] : Entity (Placed α) :=
  ⟨fun placed ↦ Entity.fieldValue placed.entity⟩

/-- Something else made of an entity, at its place. -/
def Placed.map {α β : Type} (f : α → β) (placed : Placed α) : Placed β :=
  ⟨placed.index, f placed.entity⟩

/-- The entities of a list, each at its place. -/
def places {α : Type} (entities : List α) : List (Placed α) :=
  entities.zipIdx.map fun (entity, index) ↦ ⟨index, entity⟩

section Places

variable {α : Type} (entities : List α)

@[simp] theorem map_entity_places : (places entities).map Placed.entity = entities := by
  rw [places, List.map_map]
  exact List.zipIdx_map_fst 0 entities

@[simp] theorem map_index_places :
    (places entities).map Placed.index = List.range entities.length := by
  rw [places, List.map_map]
  exact (List.zipIdx_map_snd 0 entities).trans List.range_eq_range'.symm

theorem places_map {β : Type} (f : α → β) :
    places (entities.map f) = (places entities).map (Placed.map f) := by
  simp [places, List.zipIdx_map, Placed.map, Function.comp_def]

/-- Places are in ascending order. -/
theorem pairwise_places : (places entities).Pairwise fun a b ↦ a.index < b.index := by
  have h : ((places entities).map Placed.index).Pairwise (· < ·) := by
    rw [map_index_places]
    exact List.pairwise_lt_range
  exact List.pairwise_map.mp h

variable {entities}

/-- An entity is found at its place. -/
theorem getElem?_of_mem_places {placed : Placed α} (h : placed ∈ places entities) :
    entities[placed.index]? = some placed.entity := by
  obtain ⟨⟨entity, index⟩, hmem, rfl⟩ := List.mem_map.mp h
  exact List.mem_zipIdx_iff_getElem?.mp hmem

end Places

/-! ## What a comparison reads -/

section Reading

variable {α β : Type} [Entity α] [Entity β]

/-- **A comparison reads nothing but the sort keys.** -/
theorem compareByLevels_congr {levels : List SortLevel} {a b : α} {a' b' : β}
    (ha : ∀ level ∈ levels, Entity.fieldValue a level.key = Entity.fieldValue a' level.key)
    (hb : ∀ level ∈ levels, Entity.fieldValue b level.key = Entity.fieldValue b' level.key) :
    compareByLevels levels a b = compareByLevels levels a' b' := by
  induction levels with
  | nil => rfl
  | cons level levels ih =>
    rw [List.forall_mem_cons] at ha hb
    rw [compareByLevels, compareByLevels, SortLevel.compareEntities, SortLevel.compareEntities,
      ha.1, hb.1, ih ha.2 hb.2]

/-- Sorting does not see what is done to entities as long as the sort keys read alike. -/
theorem SortChain.sort_map {chain : SortChain} {f : α → β} {entities : List α}
    (h : ∀ entity, ∀ level ∈ chain.levels,
      Entity.fieldValue (f entity) level.key = Entity.fieldValue entity level.key) :
    chain.sort (entities.map f) = (chain.sort entities).map f := by
  rw [SortChain.sort, SortChain.sort]
  split
  · rfl
  · refine (List.map_mergeSort fun a _ b _ ↦ ?_).symm
    rw [compareByLevels_congr (h a) (h b)]

/-- A place is moved with its entity. -/
theorem SortChain.sort_places (chain : SortChain) (entities : List α) :
    (chain.sort (places entities)).map Placed.entity = chain.sort entities := by
  have hmap : chain.sort ((places entities).map Placed.entity) =
      (chain.sort (places entities)).map Placed.entity :=
    SortChain.sort_map fun _ _ _ ↦ rfl
  rw [← hmap, map_entity_places]

end Reading

/-! ## Stability -/

section Stability

variable {α : Type} {cmp : α → α → Ordering} [TransCmp cmp] {items sorted : List α}

/-- **Tied items keep whatever they had to each other in their order.** -/
theorem StablySorted.pairwise_of_tied (h : StablySorted cmp items sorted) {r : α → α → Prop}
    (hr : items.Pairwise r) : sorted.Pairwise fun a b ↦ cmp a b = .eq → r a b := by
  rw [List.pairwise_iff_forall_sublist]
  intro a b hsub htied
  -- Of a tied pair both are among what is tied with the first, and that list has not changed.
  have hself : cmp a a = .eq := ReflCmp.compare_self
  have hfilter : tiedWith cmp a [a, b] = [a, b] := by
    simp [tiedWith, hself, htied]
  have htieds : [a, b].Sublist (tiedWith cmp a sorted) := by
    rw [← hfilter]
    exact hsub.filter _
  rw [h.stable a] at htieds
  have hpair : [a, b].Sublist items := htieds.trans List.filter_sublist
  exact List.pairwise_iff_forall_sublist.mp hr hpair

end Stability

/-- A source in memory sorts what it holds. -/
theorem MemorySource.orderBy_eq_sort {α : Type} [Entity α] (levels : List SortLevel)
    (source : MemorySource α) : QuerySource.orderBy levels source =
      { source with items := (⟨levels⟩ : SortChain).sort source.items } := by
  show (if levels.isEmpty then source else _) = _
  rw [SortChain.sort, SortChain.isEmpty]
  by_cases h : levels.isEmpty = true
  · rw [if_pos h, if_pos h]
  · rw [if_neg h, if_neg h]

namespace SortChain

variable {α : Type} [Entity α]

theorem sort_sort (chain : SortChain) (entities : List α) :
    chain.sort (chain.sort entities) = chain.sort entities := by
  have hself : StablySorted (compareByLevels chain.levels) (chain.sort entities)
      (chain.sort entities) :=
    ⟨.rfl, (stablySorted_sort chain entities).ordered, fun _ ↦ rfl⟩
  exact (stablySorted_sort chain _).unique hself

theorem compareEntities_placed (chain : SortChain) (a b : Placed α) :
    chain.compareEntities a b = chain.compareEntities a.entity b.entity :=
  compareByLevels_congr (fun _ _ ↦ rfl) fun _ _ ↦ rfl

/-- Places of a list put in the order of a chain, so that tied entities stay at ascending ones. -/
structure OrderedPlaces (chain : SortChain) (entities : List α) (other : List (Placed α)) :
    Prop where
  perm : other.Perm (places entities)
  ordered : other.Pairwise fun a b ↦ (chain.compareEntities a.entity b.entity).isLE
  stable : other.Pairwise fun a b ↦
    chain.compareEntities a.entity b.entity = .eq → a.index < b.index

theorem orderedPlaces_sort (chain : SortChain) (entities : List α) :
    chain.OrderedPlaces entities (chain.sort (places entities)) := by
  have h := stablySorted_sort chain (places entities)
  refine ⟨h.perm, h.ordered.imp fun {a b} hab ↦ ?_,
    (h.pairwise_of_tied (pairwise_places entities)).imp fun {a b} hab htied ↦ ?_⟩
  · rwa [← compareEntities_placed]
  · rw [← compareEntities_placed] at htied
    exact hab htied

/-- Two places cannot each come before the other, so there is one way to put them in order. -/
theorem OrderedPlaces.unique {chain : SortChain} {entities : List α}
    {one other : List (Placed α)} (h : chain.OrderedPlaces entities one)
    (h' : chain.OrderedPlaces entities other) : one = other := by
  refine List.Perm.eq_of_pairwise (fun a b _ _ hab hba ↦ ?_) (h.ordered.and h.stable)
    (h'.ordered.and h'.stable) (h.perm.trans h'.perm.symm)
  have htied : chain.compareEntities a.entity b.entity = .eq :=
    OrientedCmp.isLE_antisymm hab.1 hba.1
  have hlt : a.index < b.index := hab.2 htied
  have hgt : b.index < a.index := hba.2 (OrientedCmp.eq_symm htied)
  omega

/-- **Sorting gives the one stable rearrangement in order.**  A list is what sorting gives exactly
if it has the same entities, is in the order of the chain and leaves tied entities as they stood;
the same holds of their places, of which tied entities keep ascending ones.  Asking a source in
memory for the order of the levels does the same to what it holds, sorting again changes nothing,
and without levels nothing moves. -/
theorem sort_eq_iff (chain : SortChain) (entities : List α) :
    (∀ other, StablySorted chain.compareEntities entities other ↔ other = chain.sort entities) ∧
    (∀ other, chain.OrderedPlaces entities other ↔ other = chain.sort (places entities)) ∧
    (chain.sort (places entities)).map Placed.entity = chain.sort entities ∧
    (∀ included, QuerySource.orderBy chain.levels (⟨entities, included⟩ : MemorySource α) =
      ⟨chain.sort entities, included⟩) ∧
    chain.sort (chain.sort entities) = chain.sort entities ∧
    SortChain.empty.sort entities = entities := by
  refine ⟨fun other ↦ ?_, fun other ↦ ?_, chain.sort_places entities, fun included ↦ ?_,
    chain.sort_sort entities, rfl⟩
  · constructor
    · intro h
      exact h.unique (stablySorted_sort chain entities)
    · rintro rfl
      exact stablySorted_sort chain entities
  · constructor
    · intro h
      exact h.unique (chain.orderedPlaces_sort entities)
    · rintro rfl
      exact chain.orderedPlaces_sort entities
  · show (if chain.isEmpty then _ else _) = _
    rw [SortChain.sort]
    by_cases hempty : chain.isEmpty = true
    · rw [if_pos hempty, if_pos hempty]
    · rw [if_neg hempty, if_neg hempty]

end SortChain
end Sift
