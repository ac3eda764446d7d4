import Sift.Specification

/-!
# Query sources

A query source is what a specification is run against.  It offers five operations
(`QuerySource`), and a `SourceCall` is one of them with its arguments, so that what is asked of a
source is data: any source performs it, and a `CallLog` only records it.

`MemorySource` holds entities in a list.
-/

set_option autoImplicit false
namespace Sift

/-- What a source can be asked for. -/
class QuerySource (σ : Type) where
  /-- Keeps what satisfies a predicate over a variable. -/
  filter : Variable → Predicate → σ → σ
  /-- Orders what is there by levels. -/
  orderBy : List SortLevel → σ → σ
  skip : UInt64 → σ → σ
  take : UInt64 → σ → σ
  /-- Loads the relation at a path with each entity. -/
  load : IncludePath → σ → σ

/-- One operation on a source. -/
inductive SourceCall where
  | filter (var : Variable) (criteria : Predicate)
  | orderBy (levels : List SortLevel)
  | skip (count : UInt64)
  | take (count : UInt64)
  | load (path : IncludePath)
deriving DecidableEq

namespace SourceCall

/-- Asks a source for an operation. -/
def perform {σ : Type} [QuerySource σ] : SourceCall → σ → σ
  | .filter var criteria, source => QuerySource.filter var criteria source
  | .orderBy levels, source => QuerySource.orderBy levels source
  | .skip count, source => QuerySource.skip count source
  | .take count, source => QuerySource.take count source
  | .load path, source => QuerySource.load path source

/-- Asks a source for operations one after the other. -/
def performAll {σ : Type} [QuerySource σ] (calls : List SourceCall) (source : σ) : σ :=
  calls.foldl (fun source call ↦ call.perform source) source

/-- The line that records an operation. -/
def text : SourceCall → String
  | .filter var criteria => "filter " ++ var.name ++ ": " ++ criteria.text
  | .orderBy levels => "order_by " ++ ", ".intercalate (levels.map SortLevel.text)
  | .skip count => "skip " ++ decimalText count.toNat
  | .take count => "take " ++ decimalText count.toNat
  | .load path => "include " ++ path.text

end SourceCall

/-! ## A source that records -/

/-- The operations a source was asked for, in order. -/
structure CallLog where
  calls : List SourceCall
deriving DecidableEq

namespace CallLog

/-- A log without calls. -/
def empty : CallLog := ⟨[]⟩

/-- A log with one more call at its end. -/
def record (log : CallLog) (call : SourceCall) : CallLog := ⟨log.calls ++ [call]⟩

/-- Every operation is only written down. -/
instance : QuerySource CallLog where
  filter var criteria log := log.record (.filter var criteria)
  orderBy levels log := log.record (.orderBy levels)
  skip count log := log.record (.skip count)
  take count log := log.record (.take count)
  load path log := log.record (.load path)

theorem perform_eq_record (call : SourceCall) (log : CallLog) :
    call.perform log = log.record call := by
  cases call <;> rfl

theorem performAll_calls (calls : List SourceCall) (log : CallLog) :
    (SourceCall.performAll calls log).calls = log.calls ++ calls := by
  induction calls generalizing log with
  | nil => simp [SourceCall.performAll]
  | cons call calls ih =>
    have h := ih (log.record call)
    simpa [SourceCall.performAll, perform_eq_record, record] using h

end CallLog

/-! ## A source in memory -/

/-- Entities in a list, with the paths that were asked for. -/
structure MemorySource (α : Type) where
  items : List α
  included : List IncludePath

namespace MemorySource

/-- The source of some entities, for which no path was asked yet. -/
def ofList {α : Type} (items : List α) : MemorySource α := ⟨items, []⟩

/-- The number of entities. -/
def size {α : Type} (source : MemorySource α) : Nat := source.items.length

/-- Whether there are no entities. -/
def isEmpty {α : Type} (source : MemorySource α) : Bool := source.items.isEmpty

/-- The first entity, if there is one. -/
def first? {α : Type} (source : MemorySource α) : Option α := source.items.head?

/-- Everything is done on the list, except that there is nothing to load. -/
instance {α : Type} [Entity α] : QuerySource (MemorySource α) where
  filter var criteria source := { source with items := source.items.filter (criteria.eval var) }
  orderBy levels source :=
    if levels.isEmpty then source else { source with items := sortByLevels levels source.items }
  skip count source := { source with items := source.items.drop count.toNat }
  take count source := { source with items := source.items.take count.toNat }
  load path source := { source with included := source.included ++ [path] }

end MemorySource
end Sift
