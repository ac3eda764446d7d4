import Mathlib.Data.List.Perm.Subperm
import Sift.Proofs.FieldsRead
import Sift.Proofs.SourceCalls

/-!
# What calls leave in memory

A pipeline of one's own may ask a source for anything in any order.  Whatever it is, a source in
memory neither makes entities up nor holds one twice: `places` shows where each of them came from.
One call does this and the calls after one another do, so everything here is said of one call first
and then of a run:

* `MemorySource.performAll_map` — what is done to the entities does not depend on more of them than
  what is read, so that places go through a run with their entities;
* `MemorySource.performAll_subperm` — nothing is made up, and nothing held twice;
* `MemorySource.performAll_sublist` — without an order, nothing changes its place;
* `MemorySource.accepts_of_mem_performAll` and `MemorySource.mem_performAll_of_accepts` — a run
  keeps nothing but what its filters accept, and without a cut all of that.

`MemorySource.performAll_accounts` is the result, together with the equations between short runs.
-/

set_option autoImplicit false
namespace Sift

/-! ## Calls -/

namespace SourceCall

/-- Whether a call lets an entity through, as far as it looks at it. -/
def accepts {α : Type} [Entity α] (entity : α) : SourceCall → Bool
  | .filter var criteria => criteria.eval var entity
  | _ => true

/-- Whether a call takes entities away without looking at them. -/
def isCut : SourceCall → Bool
  | .skip _ | .take _ => true
  | _ => false

/-- The path that a call asks to load. -/
def loaded? : SourceCall → Option IncludePath
  | .load path => some path
  | _ => none

end SourceCall

namespace MemorySource

open SourceCall

/-- Something else made of each entity. -/
def map {α β : Type} (f : α → β) (source : MemorySource α) : MemorySource β :=
  ⟨source.items.map f, source.included⟩

/-! ## One call -/

section Perform

variable {α β : Type} [Entity α] [Entity β] (call : SourceCall) (source : MemorySource α)

/-- An order is a sort, whether there are levels or not. -/
theorem perform_orderBy (levels : List SortLevel) : (SourceCall.orderBy levels).perform source =
    { source with items := SortChain.sort ⟨levels⟩ source.items } :=
  orderBy_eq_sort levels source

/-- A call sees nothing of an entity but what is read of it. -/
theorem perform_map {f : α → β}
    (h : ∀ entity field, Entity.fieldValue (f entity) field = Entity.fieldValue entity field) :
    call.perform (source.map f) = (call.perform source).map f := by
  cases call with
  | filter var criteria =>
    have heval : criteria.eval var ∘ f = criteria.eval var := by
      funext entity
      exact Predicate.eval_congr (fun field _ ↦ h entity field) var
    refine congrArg (MemorySource.mk · source.included) ?_
    rw [map, List.filter_map, heval]
    rfl
  | orderBy levels =>
    rw [perform_orderBy, perform_orderBy]
    exact congrArg (MemorySource.mk · source.included)
      (SortChain.sort_map fun entity level _ ↦ h entity level.key)
  | skip count => exact congrArg (MemorySource.mk · source.included) List.map_drop.symm
  | take count => exact congrArg (MemorySource.mk · source.included) List.map_take.symm
  | load path => rfl

theorem perform_subperm : (call.perform source).items.Subperm source.items := by
  cases call with
  | filter var criteria => exact List.filter_sublist.subperm
  | orderBy levels =>
    rw [perform_orderBy]
    exact (stablySorted_sort ⟨levels⟩ source.items).perm.subperm
  | skip count => exact (List.drop_sublist _ _).subperm
  | take count => exact (List.take_sublist _ _).subperm
  | load path => exact List.Subperm.refl _

/-- Only an order moves entities. -/
theorem perform_sublist (h : call.isOrderBy = false) :
    (call.perform source).items.Sublist source.items := by
  cases call with
  | filter var criteria => exact List.filter_sublist
  | orderBy levels => cases h
  | skip count => exact List.drop_sublist _ _
  | take count => exact List.take_sublist _ _
  | load path => exact List.Sublist.refl _

variable {call source}

theorem accepts_of_mem_perform {entity : α} (h : entity ∈ (call.perform source).items) :
    call.accepts entity = true := by
  cases call with
  | filter var criteria => exact (List.mem_filter.mp h).2
  | orderBy _ | skip _ | take _ | load _ => rfl

/-- Only a cut takes away what is accepted. -/
theorem mem_perform_of_accepts {entity : α} (hcut : call.isCut = false)
    (hentity : entity ∈ source.items) (h : call.accepts entity = true) :
    entity ∈ (call.perform source).items := by
  cases call with
  | filter var criteria => exact List.mem_filter.mpr ⟨hentity, h⟩
  | orderBy levels =>
    rw [perform_orderBy]
    exact (stablySorted_sort ⟨levels⟩ source.items).perm.mem_iff.mpr hentity
  | skip _ | take _ => cases hcut
  | load path => exact hentity

theorem included_perform :
    (call.perform source).included = source.included ++ call.loaded?.toList := by
  cases call with
  | orderBy levels =>
    rw [perform_orderBy]
    exact (List.append_nil _).symm
  | load path => rfl
  | filter _ _ | skip _ | take _ => exact (List.append_nil _).symm

end Perform

/-! ## A run -/

section Run

variable {α β : Type} [Entity α] [Entity β] {calls : List SourceCall} {source : MemorySource α}

/-- **A run sees nothing of an entity but what is read of it.** -/
theorem performAll_map {f : α → β}
    (h : ∀ entity field, Entity.fieldValue (f entity) field = Entity.fieldValue entity field)
    (calls : List SourceCall) (source : MemorySource α) :
    performAll calls (source.map f) = (performAll calls source).map f := by
  induction calls generalizing source with
  | nil => rfl
  | cons call calls ih =>
    show performAll calls (call.perform (source.map f)) = _
    rw [perform_map call source h]
    exact ih (call.perform source)

/-- **Nothing is made up, and nothing is held more often than before.** -/
theorem performAll_subperm (calls : List SourceCall) (source : MemorySource α) :
    (performAll calls source).items.Subperm source.items := by
  induction calls generalizing source with
  | nil => exact List.Subperm.refl _
  | cons call calls ih => exact (ih (call.perform source)).trans (perform_subperm call source)

/-- **Without an order nothing is moved.** -/
theorem performAll_sublist (horder : ∀ call ∈ calls, call.isOrderBy = false) :
    (performAll calls source).items.Sublist source.items := by
  induction calls generalizing source with
  | nil => exact List.Sublist.refl _
  | cons call calls ih =>
    rw [List.forall_mem_cons] at horder
    exact (ih horder.2).trans (perform_sublist call source horder.1)

/-- **What is left has passed every filter.**  What is left at the end was left by the first call
too. -/
theorem accepts_of_mem_performAll {entity : α} (h : entity ∈ (performAll calls source).items) :
    ∀ call ∈ calls, call.accepts entity = true := by
  induction calls generalizing source with
  | nil => exact nofun
  | cons call calls ih =>
    have hleft : entity ∈ (call.perform source).items := (performAll_subperm calls _).subset h
    exact List.forall_mem_cons.mpr ⟨accepts_of_mem_perform hleft, ih h⟩

/-- **Without a cut, what passes every filter is left.** -/
theorem mem_performAll_of_accepts {entity : α} (hcut : ∀ call ∈ calls, call.isCut = false)
    (hentity : entity ∈ source.items) (h : ∀ call ∈ calls, call.accepts entity = true) :
    entity ∈ (performAll calls source).items := by
  induction calls generalizing source with
  | nil => exact hentity
  | cons call calls ih =>
    rw [List.forall_mem_cons] at hcut h
    exact ih hcut.2 (mem_perform_of_accepts hcut.1 hentity h.1) h.2

/-- **Paths are recorded in the order of the calls.** -/
theorem included_performAll (calls : List SourceCall) (source : MemorySource α) :
    (performAll calls source).included = source.included ++ calls.filterMap loaded? := by
  induction calls generalizing source with
  | nil => exact (List.append_nil _).symm
  | cons call calls ih =>
    show (performAll calls (call.perform source)).included = _
    rw [ih, included_perform, List.append_assoc]
    cases hloaded : call.loaded? <;> simp [hloaded]

end Run

/-! ## Places -/

section Places

variable {α : Type} [Entity α] (calls : List SourceCall) (items : List α)

/-- The places of the entities that a run leaves, in the order it leaves them. -/
def remaining : List Nat :=
  (performAll calls (ofList (places items))).items.map Placed.index

theorem performAll_places : (performAll calls (ofList (places items))).map Placed.entity =
    performAll calls (ofList items) := by
  have hentities : (ofList (places items)).map Placed.entity = ofList items :=
    congrArg ofList (map_entity_places items)
  rw [← hentities]
  exact (performAll_map (f := Placed.entity) (fun _ _ ↦ rfl) calls (ofList (places items))).symm

theorem nodup_remaining : (remaining calls items).Nodup := by
  obtain ⟨kept, hperm, hsub⟩ := performAll_subperm calls (ofList (places items))
  refine (hperm.map Placed.index).nodup_iff.mp (List.Nodup.sublist (hsub.map Placed.index) ?_)
  rw [show (ofList (places items)).items = places items from rfl, map_index_places]
  exact List.nodup_range

/-- What is left are the entities at these places. -/
theorem map_getElem?_remaining : (remaining calls items).map (items[·]?) =
    (performAll calls (ofList items)).items.map some := by
  rw [← performAll_places, remaining, List.map_map, map, List.map_map]
  refine List.map_congr_left fun placed hplaced ↦ ?_
  exact getElem?_of_mem_places ((performAll_subperm calls _).subset hplaced)

variable {calls items}

theorem pairwise_remaining (h : ∀ call ∈ calls, call.isOrderBy = false) :
    (remaining calls items).Pairwise (· < ·) :=
  List.pairwise_map.mpr ((pairwise_places items).sublist (performAll_sublist h))

/-- A call looks at an entity the same way at every place. -/
theorem accepts_placed (call : SourceCall) (placed : Placed α) :
    call.accepts placed = call.accepts placed.entity := by
  cases call with
  | filter var criteria =>
    have hagree : AgreeOn criteria.fieldsRead placed placed.entity := fun _ _ ↦ rfl
    exact Predicate.eval_congr hagree var
  | orderBy _ | skip _ | take _ | load _ => rfl

theorem mem_remaining_of_accepts (hcut : ∀ call ∈ calls, call.isCut = false) {index : Nat}
    {entity : α} (hentity : items[index]? = some entity)
    (h : ∀ call ∈ calls, call.accepts entity = true) : index ∈ remaining calls items := by
  have hplaced : (⟨index, entity⟩ : Placed α) ∈ (ofList (places items)).items :=
    List.mem_map.mpr ⟨(entity, index), List.mem_zipIdx_iff_getElem?.mpr hentity, rfl⟩
  have haccepts : ∀ call ∈ calls, call.accepts (⟨index, entity⟩ : Placed α) = true :=
    fun call hcall ↦ (accepts_placed call ⟨index, entity⟩).trans (h call hcall)
  have hleft := mem_performAll_of_accepts hcut hplaced haccepts
  exact List.mem_map.mpr ⟨_, hleft, rfl⟩

end Places

/-! ## Short runs -/

section Equations

variable {α : Type} [Entity α] (source : MemorySource α) {a b : UInt64}

theorem toNat_add_of_lt (h : a.toNat + b.toNat < UInt64.size) :
    (a + b).toNat = a.toNat + b.toNat := by
  rw [UInt64.toNat_add, Nat.mod_eq_of_lt h]

theorem skip_skip (h : a.toNat + b.toNat < UInt64.size) :
    QuerySource.skip b (QuerySource.skip a source) = QuerySource.skip (a + b) source := by
  refine congrArg (MemorySource.mk · source.included) ?_
  rw [toNat_add_of_lt h]
  exact List.drop_drop

theorem take_skip (h : a.toNat + b.toNat < UInt64.size) :
    QuerySource.take b (QuerySource.skip a source) =
      QuerySource.skip a (QuerySource.take (a + b) source) := by
  refine congrArg (MemorySource.mk · source.included) ?_
  show (source.items.drop a.toNat).take b.toNat = (source.items.take (a + b).toNat).drop a.toNat
  rw [toNat_add_of_lt h, List.take_drop]

theorem take_take (a b : UInt64) :
    QuerySource.take b (QuerySource.take a source) = QuerySource.take (min a b) source := by
  refine congrArg (MemorySource.mk · source.included) ?_
  show (source.items.take a.toNat).take b.toNat = source.items.take (min a b).toNat
  rw [List.take_take, UInt64.toNat_min, Nat.min_comm]

theorem filter_filter (var : Variable) (p q : Predicate) :
    QuerySource.filter var q (QuerySource.filter var p source) =
      QuerySource.filter var (p.and q) source := by
  refine congrArg (MemorySource.mk · source.included) ?_
  show (source.items.filter (p.eval var)).filter (q.eval var) = _
  rw [List.filter_filter]
  exact List.filter_congr fun entity _ ↦ Bool.and_comm _ _

/-- It does not matter which of two filters comes first. -/
theorem filter_comm (var : Variable) (p q : Predicate) :
    QuerySource.filter var q (QuerySource.filter var p source) =
      QuerySource.filter var p (QuerySource.filter var q source) := by
  refine congrArg (MemorySource.mk · source.included) ?_
  exact List.filter_comm _ _ _

end Equations

/-- **No sequence of calls invents, duplicates or wrongly loses an entity.**  Whatever is asked of a
source in memory, in whatever order, what it holds in the end are the entities at distinct places of
the list it began with.  Without an order the places ascend; every filter accepts what is left, and
without a cut all that the filters accept is left; the paths to load are those of the calls.  And
from any state two skips are one, a skip and a take change places, two takes are the lesser one, and
two filters over a variable are one filter, in either order. -/
theorem performAll_accounts {α : Type} [Entity α] :
    (∀ (items : List α) (calls : List SourceCall),
      (∃ positions : List Nat, positions.Nodup ∧
        positions.map (items[·]?) = (performAll calls (ofList items)).items.map some ∧
        ((∀ call ∈ calls, call.isOrderBy = false) → positions.Pairwise (· < ·)) ∧
        ((∀ call ∈ calls, call.isCut = false) → ∀ index entity, items[index]? = some entity →
          (∀ call ∈ calls, call.accepts entity = true) → index ∈ positions)) ∧
      (∀ entity ∈ (performAll calls (ofList items)).items, ∀ call ∈ calls,
        call.accepts entity = true) ∧
      (performAll calls (ofList items)).included = calls.filterMap loaded?) ∧
    ∀ source : MemorySource α,
      (∀ a b : UInt64, a.toNat + b.toNat < UInt64.size →
        QuerySource.skip b (QuerySource.skip a source) = QuerySource.skip (a + b) source ∧
        QuerySource.take b (QuerySource.skip a source) =
          QuerySource.skip a (QuerySource.take (a + b) source)) ∧
      (∀ a b : UInt64, QuerySource.take b (QuerySource.take a source) =
        QuerySource.take (min a b) source) ∧
      ∀ (var : Variable) (p q : Predicate),
        QuerySource.filter var q (QuerySource.filter var p source) =
          QuerySource.filter var (p.and q) source ∧
        QuerySource.filter var p (QuerySource.filter var q source) =
          QuerySource.filter var (p.and q) source := by
  refine ⟨fun items calls ↦ ⟨⟨remaining calls items, nodup_remaining calls items,
      map_getElem?_remaining calls items, pairwise_remaining, fun hcut index entity hentity ↦
        mem_remaining_of_accepts hcut hentity⟩, fun _ ↦ accepts_of_mem_performAll,
      included_performAll calls (ofList items)⟩,
    fun source ↦ ⟨fun a b h ↦ ⟨skip_skip source h, take_skip source h⟩, take_take source,
      fun var p q ↦ ⟨filter_filter source var p q, ?_⟩⟩⟩
  rw [filter_comm]
  exact filter_filter source var p q

/-- Active records are kept in their order, and as many as there can be are skipped in two steps. -/
theorem performAll_accounts_active :
    let calls : List SourceCall :=
      [.filter ⟨"record"⟩ (.leaf ⟨"record"⟩ ⟨"active", .equal, .bool true⟩),
        .load ⟨"order", ["lines"]⟩]
    let source := performAll calls (ofList namedRecords)
    (∃ positions : List Nat, positions.Pairwise (· < ·) ∧ 2 ∈ positions ∧
      positions.map (namedRecords[·]?) = source.items.map some) ∧
    source.included = [⟨"order", ["lines"]⟩] ∧
    (1 : UInt64).toNat + (18446744073709551614 : UInt64).toNat < UInt64.size ∧
    QuerySource.skip 18446744073709551614 (QuerySource.skip 1 source) =
      QuerySource.skip 18446744073709551615 source := by
  intro calls source
  obtain ⟨hruns, hequations⟩ := performAll_accounts (α := Record)
  obtain ⟨⟨positions, -, hitems, horder, hkept⟩, -, hincluded⟩ := hruns namedRecords calls
  have horderless : ∀ call ∈ calls, call.isOrderBy = false := by decide
  have hcutless : ∀ call ∈ calls, call.isCut = false := by decide
  have hfits : (1 : UInt64).toNat + (18446744073709551614 : UInt64).toNat < UInt64.size := by decide
  refine ⟨⟨positions, horder horderless, ?_, hitems⟩, hincluded, hfits,
    ((hequations source).1 _ _ hfits).1⟩
  exact hkept hcutless 2 _ rfl (by decide)

end MemorySource
end Sift
