import Mathlib.Data.List.Basic
import Sift.Proofs.Intents
import Sift.Proofs.Sorting

/-!
# What an evaluation reads

A specification can tell two entities apart only by the fields that it names, in the clauses of its
criteria or as sort keys.  `Specification.fieldsRead` lists them, and `AgreeOn` says of two
entities, possibly of different types, that they read alike there.

The argument goes through what can be seen of an entity: `Record.seenIn` reads as the entity does in
given fields and as null elsewhere, and entities that agree on the fields have one such record.
Replacing every entity by its record changes nothing in what is returned but the entities themselves
(`Specification.filter_map`), so that two lists that agree give the same places.

`Specification.selected_eq_of_agreeOn` is the result, and `Predicate.eval_congr` the part of it that
is about one entity.
-/

set_option autoImplicit false
namespace Sift

/-! ## One entity -/

section OneEntity

variable {α β : Type} [Entity α] [Entity β] {a : α} {b : β}

/-- Whether two entities read alike in given fields. -/
def AgreeOn (fields : List String) (a : α) (b : β) : Prop :=
  ∀ field ∈ fields, Entity.fieldValue a field = Entity.fieldValue b field

theorem AgreeOn.mono {fields more : List String} (h : AgreeOn more a b) (hsub : fields ⊆ more) :
    AgreeOn fields a b :=
  fun field hfield ↦ h field (hsub hfield)

theorem agreeOn_append {fields more : List String} :
    AgreeOn (fields ++ more) a b ↔ AgreeOn fields a b ∧ AgreeOn more a b :=
  List.forall_mem_append

/-- The fields that a predicate names. -/
def Predicate.fieldsRead (p : Predicate) : List String :=
  p.clauses.map Clause.field

theorem Predicate.fieldsRead_and (left right : Predicate) :
    (left.and right).fieldsRead = left.fieldsRead ++ right.fieldsRead :=
  List.map_append

theorem Predicate.fieldsRead_or (left right : Predicate) :
    (left.or right).fieldsRead = left.fieldsRead ++ right.fieldsRead :=
  List.map_append

/-- **A predicate reads nothing but the fields of its clauses.** -/
theorem Predicate.eval_congr {p : Predicate} (h : AgreeOn p.fieldsRead a b) (v : Variable) :
    p.eval v a = p.eval v b := by
  induction p with
  | leaf w clause =>
    have hfield := h clause.field List.mem_cons_self
    rw [eval, eval, hfield]
  | and left right ihl ihr =>
    rw [fieldsRead_and, agreeOn_append] at h
    rw [eval, eval, ihl h.1, ihr h.2]
  | or left right ihl ihr =>
    rw [fieldsRead_or, agreeOn_append] at h
    rw [eval, eval, ihl h.1, ihr h.2]
  | not operand ih => rw [eval, eval, ih h]
  | never => rfl

namespace Specification

variable {s : Specification}

/-- The fields that a specification names: those of its clauses and its sort keys. -/
def fieldsRead (s : Specification) : List String :=
  s.criteria.elim [] Predicate.fieldsRead ++ s.sorts.levels.map SortLevel.key

theorem isSatisfiedBy_congr (h : AgreeOn s.fieldsRead a b) :
    s.isSatisfiedBy a = s.isSatisfiedBy b := by
  rw [isSatisfiedBy, isSatisfiedBy]
  rcases hcriteria : s.criteria with _ | p
  · rfl
  · have hsub : p.fieldsRead ⊆ s.fieldsRead := by
      rw [fieldsRead, hcriteria]
      exact List.subset_append_left _ _
    exact Predicate.eval_congr (h.mono hsub) s.var

theorem key_mem_fieldsRead {level : SortLevel} (h : level ∈ s.sorts.levels) :
    level.key ∈ s.fieldsRead :=
  List.mem_append_right _ (List.mem_map_of_mem h)

end Specification

/-- All that can be seen of an entity in given fields; it reads as null elsewhere. -/
def Record.seenIn (fields : List String) (entity : α) : Record :=
  ⟨fun field ↦ if field ∈ fields then Entity.fieldValue entity field else .null⟩

theorem Record.agreeOn_seenIn (fields : List String) (entity : α) :
    AgreeOn fields (Record.seenIn fields entity) entity :=
  fun _ hfield ↦ if_pos hfield

theorem AgreeOn.seenIn_eq {fields : List String} (h : AgreeOn fields a b) :
    Record.seenIn fields a = Record.seenIn fields b := by
  refine congrArg Record.mk (funext fun field ↦ ?_)
  by_cases hfield : field ∈ fields
  · rw [if_pos hfield, if_pos hfield, h field hfield]
  · rw [if_neg hfield, if_neg hfield]

end OneEntity

/-! ## A list of entities -/

namespace Window

variable {α β : Type} (window : Window) (maxTake : Option UInt64)

theorem cut_map (f : α → β) (items : List α) :
    window.cut maxTake (items.map f) = (window.cut maxTake items).map f := by
  rw [cut, cut]
  cases window.limit maxTake <;> simp

theorem cut_subset (items : List α) : window.cut maxTake items ⊆ items := by
  rw [cut]
  cases window.limit maxTake with
  | none => exact List.drop_subset _ _
  | some n => exact List.Subset.trans (List.take_subset _ _) (List.drop_subset _ _)

end Window

namespace Specification

variable {α β : Type} [Entity α] [Entity β] (s : Specification)

/-- **What is returned does not depend on more of the entities than what is read.** -/
theorem filter_map {f : α → β} (h : ∀ entity, AgreeOn s.fieldsRead (f entity) entity)
    (entities : List α) : s.filter (entities.map f) = (s.filter entities).map f := by
  have hsatisfied : (entities.map f).filter s.isSatisfiedBy =
      (entities.filter s.isSatisfiedBy).map f := by
    rw [List.filter_map]
    refine congrArg (List.map f) (List.filter_congr fun entity _ ↦ ?_)
    exact isSatisfiedBy_congr (h entity)
  have hsorted : s.sorts.sort ((entities.filter s.isSatisfiedBy).map f) =
      (s.sorts.sort (entities.filter s.isSatisfiedBy)).map f :=
    SortChain.sort_map fun entity _ hlevel ↦ h entity _ (key_mem_fieldsRead hlevel)
  rw [filter_eq_cut_sort, filter_eq_cut_sort, hsatisfied, hsorted, Window.cut_map]

theorem filter_subset (entities : List α) : s.filter entities ⊆ entities := by
  rw [filter_eq_cut_sort]
  intro entity hentity
  have hsorted := Window.cut_subset _ _ _ hentity
  have hsatisfied := (stablySorted_sort s.sorts _).perm.mem_iff.mp hsorted
  exact (List.mem_filter.mp hsatisfied).1

/-! ## Places -/

/-- The places of the entities that a specification asks for, in the order it returns them. -/
def selected (entities : List α) : List Nat :=
  (s.filter (places entities)).map Placed.index

theorem filter_eq_map_entity (entities : List α) :
    s.filter entities = (s.filter (places entities)).map Placed.entity := by
  have hmap := s.filter_map (f := Placed.entity) (fun _ _ _ ↦ rfl) (places entities)
  rwa [map_entity_places] at hmap

/-- What is returned are the entities at the selected places. -/
theorem filter_eq_filterMap_selected (entities : List α) :
    s.filter entities = (s.selected entities).filterMap (entities[·]?) := by
  rw [filter_eq_map_entity, selected, List.filterMap_map]
  symm
  rw [List.filterMap_eq_map_iff_forall_eq_some]
  intro placed hplaced
  exact getElem?_of_mem_places (s.filter_subset _ hplaced)

/-- What is found is the entity at the first selected place. -/
theorem find?_eq_bind_selected (entities : List α) :
    s.find? entities = (s.selected entities).head?.bind (entities[·]?) := by
  show (s.filter entities).head? = _
  rw [filter_eq_map_entity, selected, List.head?_map, List.head?_map]
  rcases hplaces : (s.filter (places entities)).head? with _ | placed
  · rfl
  · have hplaced := s.filter_subset _ (List.mem_of_head? hplaces)
    exact (getElem?_of_mem_places hplaced).symm

theorem count_eq_length_selected (entities : List α) :
    s.count entities = (s.selected entities).length := by
  rw [count_eq_length_filter, filter_eq_map_entity, selected, List.length_map, List.length_map]

theorem any_eq_not_isEmpty_selected (entities : List α) :
    s.any entities = !(s.selected entities).isEmpty := by
  rw [any_eq_not_isEmpty_filter, filter_eq_map_entity, selected, List.isEmpty_map,
    List.isEmpty_map]

/-- Places are selected by what is read of the entities there. -/
theorem selected_map {f : α → β} (h : ∀ entity, AgreeOn s.fieldsRead (f entity) entity)
    (entities : List α) : s.selected (entities.map f) = s.selected entities := by
  have hplaced : ∀ placed : Placed α, AgreeOn s.fieldsRead (placed.map f) placed :=
    fun placed ↦ h placed.entity
  rw [selected, places_map, s.filter_map hplaced, List.map_map]
  rfl

variable {s} {xs : List α} {ys : List β}

/-- Entities that agree look the same. -/
theorem map_seenIn_eq (h : List.Forall₂ (AgreeOn s.fieldsRead) xs ys) :
    xs.map (Record.seenIn s.fieldsRead) = ys.map (Record.seenIn s.fieldsRead) := by
  induction h with
  | nil => rfl
  | cons hfirst _ ih => rw [List.map_cons, List.map_cons, hfirst.seenIn_eq, ih]

theorem selected_congr (h : List.Forall₂ (AgreeOn s.fieldsRead) xs ys) :
    s.selected xs = s.selected ys := by
  have hseen : ∀ {γ : Type} [Entity γ] (entities : List γ),
      s.selected (entities.map (Record.seenIn s.fieldsRead)) = s.selected entities :=
    fun entities ↦ s.selected_map (Record.agreeOn_seenIn s.fieldsRead) entities
  rw [← hseen xs, map_seenIn_eq h, hseen ys]

/-- **An evaluation reads nothing but the fields it names.**  Two lists may hold entities of
different types; as long as those at the same places read alike in the fields of the clauses and in
the sort keys, a specification selects the same places of both lists in the same order.  So it
counts as many in both, has any in both or in neither, and finds the entities at one place.  A
predicate by itself needs only the fields of its own clauses. -/
theorem selected_eq_of_agreeOn (s : Specification)
    (h : List.Forall₂ (AgreeOn s.fieldsRead) xs ys) :
    s.selected xs = s.selected ys ∧
    s.filter xs = (s.selected xs).filterMap (xs[·]?) ∧
    s.filter ys = (s.selected xs).filterMap (ys[·]?) ∧
    s.count xs = s.count ys ∧ s.any xs = s.any ys ∧
    s.find? xs = (s.selected xs).head?.bind (xs[·]?) ∧
    s.find? ys = (s.selected xs).head?.bind (ys[·]?) ∧
    ∀ (p : Predicate) (v : Variable) (a : α) (b : β),
      AgreeOn p.fieldsRead a b → p.eval v a = p.eval v b := by
  have hselected := selected_congr h
  refine ⟨hselected, s.filter_eq_filterMap_selected xs, ?_, ?_, ?_, s.find?_eq_bind_selected xs, ?_,
    fun p v a b hab ↦ Predicate.eval_congr hab v⟩
  · rw [hselected]
    exact s.filter_eq_filterMap_selected ys
  · rw [count_eq_length_selected, count_eq_length_selected, hselected]
  · rw [any_eq_not_isEmpty_selected, any_eq_not_isEmpty_selected, hselected]
  · rw [hselected]
    exact s.find?_eq_bind_selected ys

/-- Records like `namedRecords` that have nothing but a name and whether they are active. -/
def terseRecords : List Record :=
  [("b", true), ("a", false), ("c", true), ("b", false)].map fun (name, active) ↦
    ⟨fun field ↦ if field = "name" then .string name
      else if field = "active" then .bool active else .null⟩

/-- Records that differ in their prices only, and a specification that asks for no price. -/
theorem selected_eq_of_agreeOn_unreadPrice :
    List.Forall₂ (AgreeOn firstActive.fieldsRead) namedRecords terseRecords ∧
      ¬ List.Forall₂ (AgreeOn ["price"]) namedRecords terseRecords ∧
      firstActive.selected namedRecords = firstActive.selected terseRecords ∧
      firstActive.count namedRecords = firstActive.count terseRecords := by
  have hagree : List.Forall₂ (AgreeOn firstActive.fieldsRead) namedRecords terseRecords := by
    have hfields : firstActive.fieldsRead = ["active", "name"] := rfl
    rw [hfields]
    simp [namedRecords, terseRecords, AgreeOn, Entity.fieldValue]
  have hprice : ¬ List.Forall₂ (AgreeOn ["price"]) namedRecords terseRecords := by
    simp [namedRecords, terseRecords, AgreeOn, Entity.fieldValue]
  obtain ⟨hselected, -, -, hcount, -⟩ := selected_eq_of_agreeOn firstActive hagree
  exact ⟨hagree, hprice, hselected, hcount⟩

end Specification
end Sift
