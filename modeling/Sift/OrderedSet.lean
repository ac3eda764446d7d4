/-!
# Ordered sets

A set is a list in ascending order with each item once.  `insertOrdered` keeps a list of that form
and `orderedSet` makes one, so lists of the same items give the same set.
-/

set_option autoImplicit false
namespace Sift

/-- Puts an item where it belongs in a set, unless it is there. -/
def insertOrdered {α : Type} [Ord α] (item : α) : List α → List α
  | [] => [item]
  | first :: rest =>
    match compare item first with
    | .lt => item :: first :: rest
    | .eq => first :: rest
    | .gt => first :: insertOrdered item rest

/-- The set of the items of a list. -/
def orderedSet {α : Type} [Ord α] (items : List α) : List α :=
  items.foldl (fun set item ↦ insertOrdered item set) []

end Sift
