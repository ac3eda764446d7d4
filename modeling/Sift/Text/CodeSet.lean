import Sift.Text.Hexadecimal

/-!
# Sets of code points

A `CodeSet` is a finite union of inclusive ranges of code points.  Character classes of patterns,
the printable characters and the letters of an identifier are all given this way.

Ranges may be written down in any order; `CodeSet.normal` sorts them and merges the ones that
touch, and complement, intersection and difference are computed from that form.

A `NamedSet` is a set under the names that a text may ask for it by.
-/

set_option autoImplicit false
namespace Sift

/-- A union of inclusive ranges of code points. -/
structure CodeSet where
  ranges : List (Nat × Nat)
deriving DecidableEq, Inhabited

namespace CodeSet

/-- The largest code point. -/
def top : Nat := 0x10FFFF

/-! ## Membership -/

/-- Whether a code point is in one of the ranges. -/
def containsCode (s : CodeSet) (n : Nat) : Bool :=
  s.ranges.any fun r ↦ r.1 ≤ n && n ≤ r.2

/-- Whether a character is in a set. -/
def contains (s : CodeSet) (c : Char) : Bool :=
  s.containsCode c.toNat

theorem containsCode_eq_true_iff {s : CodeSet} {n : Nat} :
    s.containsCode n = true ↔ ∃ r ∈ s.ranges, r.1 ≤ n ∧ n ≤ r.2 := by
  simp [containsCode]

/-! ## Building sets -/

/-- The set without code points. -/
def empty : CodeSet := ⟨[]⟩

/-- The set of all code points. -/
def all : CodeSet := ⟨[(0, top)]⟩

/-- The code points between two, both included. -/
def range (low high : Nat) : CodeSet := ⟨[(low, high)]⟩

/-- The set of one character. -/
def single (c : Char) : CodeSet := range c.toNat c.toNat

/-- The code points that are in either set. -/
def union (s t : CodeSet) : CodeSet := ⟨s.ranges ++ t.ranges⟩

/-- Sets are joined by putting their ranges together. -/
instance : Union CodeSet := ⟨union⟩

/-- The code points that are in some set of a list. -/
def unions (sets : List CodeSet) : CodeSet := ⟨sets.flatMap ranges⟩

theorem containsCode_union (s t : CodeSet) (n : Nat) :
    (s ∪ t).containsCode n = (s.containsCode n || t.containsCode n) := by
  simp [Union.union, union, containsCode]

/-! ## The normal form -/

/-- The ranges of a sorted list after `r`, each joined to the one before it where they touch. -/
def mergeOnto (r : Nat × Nat) : List (Nat × Nat) → List (Nat × Nat)
  | [] => [r]
  | s :: rest =>
    if s.1 ≤ r.2 + 1 then mergeOnto (r.1, max r.2 s.2) rest else r :: mergeOnto s rest

/-- Joins the ranges of a sorted list where they overlap or touch. -/
def mergeSorted : List (Nat × Nat) → List (Nat × Nat)
  | [] => []
  | r :: rest => mergeOnto r rest

/-- The same set with its ranges in increasing order and a gap between any two. -/
def normal (s : CodeSet) : CodeSet :=
  ⟨mergeSorted ((s.ranges.filter fun r ↦ r.1 ≤ r.2).mergeSort fun a b ↦ a.1 ≤ b.1)⟩

/-- The gaps between sorted ranges, from `low` up to the largest code point. -/
def gaps (low : Nat) : List (Nat × Nat) → List (Nat × Nat)
  | [] => if low ≤ top then [(low, top)] else []
  | r :: rest => if low < r.1 then (low, r.1 - 1) :: gaps (r.2 + 1) rest else gaps (r.2 + 1) rest

/-- The code points that are not in a set. -/
def complement (s : CodeSet) : CodeSet :=
  ⟨gaps 0 s.normal.ranges⟩

/-- The code points that are in both sets. -/
def inter (s t : CodeSet) : CodeSet :=
  (s.complement ∪ t.complement).complement

/-- The code points of one set that are not in the other. -/
def diff (s t : CodeSet) : CodeSet :=
  s.inter t.complement

/-- The code points that are in just one of two sets. -/
def symmDiff (s t : CodeSet) : CodeSet :=
  (s.diff t) ∪ (t.diff s)

/-- Whether a set has no code point. -/
def isEmpty (s : CodeSet) : Bool :=
  s.normal.ranges.isEmpty

/-! ## Reading a table

A table is written as hexadecimal ranges with blanks or line ends between them: `41-5A 5F 61-7A`.
Every second code point of a range is written `100-12E/2`. -/

/-- One range of a table: `5F` or `41-5A`. -/
def rangeOfText (text : List Char) : Nat × Nat :=
  let value (digits : List Char) := digits.foldl (fun n c ↦ 16 * n + (Text.hexValue? c).getD 0) 0
  match text.splitOn '-' with
  | [low, high] => (value low, value high)
  | _ => (value text, value text)

/-- The ranges of one word of a table. -/
def rangesOfWord (word : List Char) : List (Nat × Nat) :=
  let (low, high) := rangeOfText (word.takeWhile (· != '/'))
  if word.contains '/' then
    (List.range ((high - low) / 2 + 1)).map fun i ↦ (low + 2 * i, low + 2 * i)
  else [(low, high)]

/-- The set that a table lists. -/
def ofTable (text : String) : CodeSet :=
  ⟨(text.toList.splitOnP fun c ↦ c == ' ' || c == '\n').flatMap fun word ↦
    if word.isEmpty then [] else rangesOfWord word⟩

end CodeSet

/-! ## Sets with names -/

/-- A set of code points with its names. -/
structure NamedSet where
  names : List String
  codes : CodeSet

/-- The codes of the first set of a list with a name. -/
def NamedSet.codesOf? (sets : List NamedSet) (name : String) : Option CodeSet :=
  (sets.find? (·.names.contains name)).map codes

end Sift
