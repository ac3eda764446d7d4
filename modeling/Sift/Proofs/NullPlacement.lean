import Sift.Proofs.SuccessiveSorts

/-!
# Where nulls go

A sort level puts the entities that read as null at its key before all others or after all others
(`SortLevel.nullsLead`).  In a chain this is so within every block of entities that the levels
before do not tell apart, and `SortChain.nulls_placed` says so of what sorting gives.

`MayPrecede` is the order that sorting puts places in: by the levels, and on a tie by the places
themselves.  What it says of two entities of a block comes from one level at a time:

* `MayPrecede.of_tied` — the levels that tie them drop out;
* `MayPrecede.readsNull_of_lead` and `MayPrecede.not_readsNull` — the next one decides between a
  null and another value, whatever its direction;
* `MayPrecede.of_readsNull` — between two nulls it drops out as well.

`MayPrecede.split_block` and `MayPrecede.pairwise_nulls` are the same for a whole block.
-/

set_option autoImplicit false
namespace Sift

open Std

/-- A list in which nothing stands before what satisfies `p` but what satisfies it too. -/
theorem eq_filter_append_filter {α : Type} {p : α → Bool} {items : List α}
    (h : items.Pairwise fun a b ↦ p b = true → p a = true) :
    items = items.filter p ++ items.filter (!p ·) := by
  induction items with
  | nil => rfl
  | cons item items ih =>
    obtain ⟨hitem, hitems⟩ := List.pairwise_cons.mp h
    by_cases hp : p item = true
    · rw [List.filter_cons_of_pos hp, List.filter_cons_of_neg (by simp [hp]), List.cons_append,
        ← ih hitems]
    · have hnone : ∀ other ∈ item :: items, ¬ p other = true :=
        List.forall_mem_cons.mpr ⟨hp, fun other hother hother' ↦ hp (hitem other hother hother')⟩
      rw [List.filter_eq_nil_iff.mpr hnone, List.nil_append, List.filter_eq_self.mpr]
      intro other hother
      rw [Bool.eq_false_iff.mpr (hnone other hother), Bool.not_false]

/-! ## One level -/

theorem Value.eq_null_of_isNull {value : Value} (h : value.isNull = true) : value = .null := by
  cases value with
  | null => rfl
  | _ => cases h

/-- Null is of the last kind. -/
theorem Value.compare_null_left {value : Value} (h : value.isNull = false) :
    Value.null.compare value = .gt := by
  cases value with
  | null => cases h
  | _ => rfl

namespace SortLevel

/-- Whether nulls stand before all other values: where the policy puts them, and without one before
them only if the largest value is. -/
def nullsLead (level : SortLevel) : Bool :=
  match level.nulls, level.direction with
  | .first, _ => true
  | .last, _ => false
  | .unspecified, .ascending => false
  | .unspecified, .descending => true

theorem compareValues_null_left (level : SortLevel) {value : Value} (h : value.isNull = false) :
    level.compareValues .null value = if level.nullsLead then .lt else .gt := by
  obtain ⟨key, direction, nulls⟩ := level
  rw [compareValues, Value.compare_null_left h]
  cases nulls with
  | unspecified => cases direction <;> rfl
  | first =>
    rw [NullPolicy.rank, NullPolicy.rank, h]
    cases direction <;> rfl
  | last =>
    rw [NullPolicy.rank, NullPolicy.rank, h]
    cases direction <;> rfl

variable {α : Type} [Entity α] (level : SortLevel) {a b : α}

/-- Whether an entity reads as null at the key of a level. -/
def readsNull (entity : α) : Bool :=
  (Entity.fieldValue entity level.key).isNull

/-- A level tells a null from any other value. -/
theorem compareEntities_of_readsNull (ha : level.readsNull a = true)
    (hb : level.readsNull b = false) :
    level.compareEntities a b = if level.nullsLead then .lt else .gt := by
  rw [compareEntities, Value.eq_null_of_isNull ha]
  exact level.compareValues_null_left hb

/-- A level does not tell nulls apart. -/
theorem compareEntities_of_readsNull_both (ha : level.readsNull a = true)
    (hb : level.readsNull b = true) : level.compareEntities a b = .eq := by
  rw [compareEntities, Value.eq_null_of_isNull ha, Value.eq_null_of_isNull hb]
  exact ReflCmp.compare_self

end SortLevel

/-! ## Two entities of a block -/

section Blocks

variable {α : Type} [Entity α]

/-- Levels tie what each of them ties. -/
theorem compareByLevels_eq_of_forall {levels : List SortLevel} {a b : α}
    (h : ∀ level ∈ levels, level.compareEntities a b = .eq) :
    compareByLevels levels a b = .eq := by
  induction levels with
  | nil => rfl
  | cons level levels ih =>
    rw [List.forall_mem_cons] at h
    rw [compareByLevels, h.1, ih h.2]
    rfl

/-- What the levels before tie is left to a level and those after it. -/
theorem compareByLevels_of_tied {before after : List SortLevel} {level : SortLevel} {a b : α}
    (h : ∀ earlier ∈ before, earlier.compareEntities a b = .eq) :
    compareByLevels (before ++ level :: after) a b =
      (level.compareEntities a b).then (compareByLevels after a b) := by
  rw [compareByLevels_append, compareLex, compareByLevels_eq_of_forall h]
  rfl

/-- A list of levels around one of its places. -/
theorem levels_eq_append {levels : List SortLevel} {i : Nat} {level : SortLevel}
    (h : levels[i]? = some level) :
    levels = levels.take i ++ level :: levels.drop (i + 1) := by
  obtain ⟨hi, rfl⟩ := List.getElem?_eq_some_iff.mp h
  rw [← List.drop_eq_getElem_cons, List.take_append_drop]

/-- Whether one placed entity may stand before another in the order of levels, where those that
are tied stand by their places. -/
def MayPrecede (levels : List SortLevel) (a b : Placed α) : Prop :=
  compareByLevels levels a.entity b.entity = .lt ∨
    compareByLevels levels a.entity b.entity = .eq ∧ a.index < b.index

variable {level : SortLevel} {before after : List SortLevel} {a b : Placed α}

/-- In a block, a level and those after it decide. -/
theorem MayPrecede.of_tied (h : MayPrecede (before ++ level :: after) a b)
    (htied : ∀ earlier ∈ before, earlier.compareEntities a.entity b.entity = .eq) :
    MayPrecede (level :: after) a b := by
  rw [MayPrecede, compareByLevels_of_tied htied] at h
  exact h

theorem MayPrecede.isLE_level (h : MayPrecede (level :: after) a b) :
    (level.compareEntities a.entity b.entity).isLE = true := by
  rw [MayPrecede, compareByLevels] at h
  have hle := Ordering.isLE_iff_eq_lt_or_eq_eq.mpr (h.imp_right And.left)
  exact Ordering.isLE_left_of_isLE_then hle

/-- Nulls are left to the levels after. -/
theorem MayPrecede.of_readsNull (h : MayPrecede (level :: after) a b)
    (ha : level.readsNull a.entity = true) (hb : level.readsNull b.entity = true) :
    MayPrecede after a b := by
  rw [MayPrecede, compareByLevels, level.compareEntities_of_readsNull_both ha hb,
    Ordering.eq_then] at h
  exact h

/-- Where nulls lead, nothing but a null stands before a null. -/
theorem MayPrecede.readsNull_of_lead (h : MayPrecede (level :: after) a b)
    (hlead : level.nullsLead = true) (hb : level.readsNull b.entity = true) :
    level.readsNull a.entity = true := by
  by_contra ha
  have hba := level.compareEntities_of_readsNull hb (Bool.eq_false_iff.mpr ha)
  rw [if_pos hlead] at hba
  have hab := h.isLE_level
  rw [OrientedCmp.gt_of_lt hba] at hab
  cases hab

/-- Where they do not, no null stands before anything else. -/
theorem MayPrecede.not_readsNull (h : MayPrecede (level :: after) a b)
    (hlead : level.nullsLead = false) (hb : level.readsNull b.entity = false) :
    level.readsNull a.entity = false := by
  rw [Bool.eq_false_iff]
  intro ha
  have hab := h.isLE_level
  rw [level.compareEntities_of_readsNull ha hb, hlead] at hab
  cases hab

/-- A block in order is split into nulls and others, the ones or the others first. -/
theorem MayPrecede.split_block {block : List (Placed α)}
    (h : block.Pairwise (MayPrecede (level :: after))) :
    let nulls := block.filter fun a ↦ level.readsNull a.entity
    let others := block.filter fun a ↦ !level.readsNull a.entity
    block = if level.nullsLead then nulls ++ others else others ++ nulls := by
  intro nulls others
  cases hlead : level.nullsLead with
  | true =>
    rw [if_pos rfl]
    exact eq_filter_append_filter (h.imp fun {_ _} h ↦ h.readsNull_of_lead hlead)
  | false =>
    have hothers : block.Pairwise fun a b ↦
        (!level.readsNull b.entity) = true → (!level.readsNull a.entity) = true := by
      refine h.imp fun {a b} h hb ↦ ?_
      rw [Bool.not_eq_true'] at hb ⊢
      exact h.not_readsNull hlead hb
    have hsplit := eq_filter_append_filter hothers
    simp only [Bool.not_not] at hsplit
    rwa [if_neg Bool.false_ne_true]

/-- The nulls of a block in order are in that of the levels after. -/
theorem MayPrecede.pairwise_nulls {block : List (Placed α)}
    (h : block.Pairwise (MayPrecede (level :: after))) :
    (block.filter fun a ↦ level.readsNull a.entity).Pairwise (MayPrecede after) := by
  refine (List.Pairwise.filter _ h).imp_of_mem fun {a b} ha hb h ↦ ?_
  exact h.of_readsNull (List.mem_filter.mp ha).2 (List.mem_filter.mp hb).2

end Blocks

/-! ## Sorted lists -/

namespace SortChain

variable {α : Type} [Entity α]

/-- Sorting puts places in the order of the levels, and tied ones in that of the input. -/
theorem pairwise_sort_places (chain : SortChain) (entities : List α) :
    (chain.sort (places entities)).Pairwise (MayPrecede chain.levels) := by
  have h := chain.orderedPlaces_sort entities
  refine (h.ordered.and h.stable).imp fun {a b} ⟨hle, hstable⟩ ↦ ?_
  exact (Ordering.isLE_iff_eq_lt_or_eq_eq.mp hle).imp_right fun htied ↦ ⟨htied, hstable htied⟩

/-- **Where nulls go, at every level.**  Take any entities of a sorted list, as they stand there,
that no level before the `i`-th tells apart.  Those that read as null at the `i`-th level all stand
before the others or all after them, as the level says.  The nulls themselves are in the order of
the levels that are left, and where these tie them in that of the input. -/
theorem nulls_placed (chain : SortChain) (entities : List α) {i : Nat} {level : SortLevel}
    (hlevel : chain.levels[i]? = some level) {block : List (Placed α)}
    (hblock : block.Sublist (chain.sort (places entities)))
    (htied : block.Pairwise fun a b ↦
      ∀ earlier ∈ chain.levels.take i, earlier.compareEntities a.entity b.entity = .eq) :
    let nulls := block.filter fun a ↦ level.readsNull a.entity
    let others := block.filter fun a ↦ !level.readsNull a.entity
    (chain.sort (places entities)).map Placed.entity = chain.sort entities ∧
      block = (if level.nullsLead then nulls ++ others else others ++ nulls) ∧
      nulls.Pairwise (MayPrecede (chain.levels.drop (i + 1))) := by
  intro nulls others
  have horder : block.Pairwise (MayPrecede (level :: chain.levels.drop (i + 1))) := by
    have hsorted := (chain.pairwise_sort_places entities).sublist hblock
    rw [levels_eq_append hlevel] at hsorted
    exact (hsorted.and htied).imp fun {_ _} h ↦ h.1.of_tied h.2
  exact ⟨chain.sort_places entities, MayPrecede.split_block horder,
    MayPrecede.pairwise_nulls horder⟩

end SortChain

/-! ## A table of players -/

/-- A player of a team, who may have no rank yet. -/
structure Player where
  team : String
  rank : Option Int64
  name : String
deriving DecidableEq

deriving instance DecidableEq for Placed

/-- Only the rank of a player may be null. -/
instance : Entity Player where
  fieldValue player field :=
    if field = "team" then .string player.team
    else if field = "rank" then player.rank.elim .null fun rank ↦ .number (.signed rank)
    else .string player.name

/-- Two teams, in one of which ranks are missing. -/
def players : List Player :=
  [⟨"a", none, "z"⟩, ⟨"b", some 1, "y"⟩, ⟨"a", some 3, "x"⟩, ⟨"a", none, "y"⟩, ⟨"a", none, "z"⟩]

/-- By team, then the best rank first with those that have none at the end, then by name. -/
def byRank : SortChain :=
  ⟨[⟨"team", .ascending, .unspecified⟩, ⟨"rank", .descending, .last⟩,
    ⟨"name", .ascending, .unspecified⟩]⟩

/-- The first team of the table: its ranked player, and the others by name and then by place. -/
def firstTeam : List (Placed Player) :=
  [⟨2, "a", some 3, "x"⟩, ⟨3, "a", none, "y"⟩, ⟨0, "a", none, "z"⟩, ⟨4, "a", none, "z"⟩]

theorem byRank_sort_players :
    byRank.sort (places players) = firstTeam ++ [⟨1, "b", some 1, "y"⟩] := by
  have hplaces : byRank.OrderedPlaces players (firstTeam ++ [⟨1, "b", some 1, "y"⟩]) :=
    ⟨by decide, by decide, by decide⟩
  exact (byRank.orderedPlaces_sort players).unique hplaces

/-- The unranked players of the first team are at its end, although the order is descending. -/
theorem SortChain.nulls_placed_byRank :
    let level : SortLevel := ⟨"rank", .descending, .last⟩
    let unranked := firstTeam.filter fun a ↦ level.readsNull a.entity
    byRank.levels[1]? = some level ∧ firstTeam.Sublist (byRank.sort (places players)) ∧
      (firstTeam.Pairwise fun a b ↦
        ∀ earlier ∈ byRank.levels.take 1, earlier.compareEntities a.entity b.entity = .eq) ∧
      firstTeam = (firstTeam.filter fun a ↦ !level.readsNull a.entity) ++ unranked ∧
      unranked.Pairwise (MayPrecede [⟨"name", .ascending, .unspecified⟩]) ∧
      unranked.map Placed.index = [3, 0, 4] := by
  intro level unranked
  have hlevel : byRank.levels[1]? = some level := rfl
  have hblock : firstTeam.Sublist (byRank.sort (places players)) := by
    rw [byRank_sort_players]
    exact List.sublist_append_left _ _
  have htied : firstTeam.Pairwise fun a b ↦
      ∀ earlier ∈ byRank.levels.take 1, earlier.compareEntities a.entity b.entity = .eq := by
    decide
  obtain ⟨-, hsplit, horder⟩ := nulls_placed byRank players hlevel hblock htied
  exact ⟨hlevel, hblock, htied, hsplit, horder, by decide⟩

end Sift
