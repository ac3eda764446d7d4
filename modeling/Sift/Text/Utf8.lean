import Sift.Text.CodeSet

/-!
# Ranges of bytes

A character is written as one to four bytes: digits to the base 64 with a mark in front that says
which byte of how many it is.  The characters of a range are not always a range in their first
byte, their second and so on, but every range falls into pieces that are.  `CodeSet.byteRanges`
gives the pieces of a set, each as a list of ranges of bytes.
-/

set_option autoImplicit false
namespace Sift
namespace Text

/-- A range of bytes. -/
abbrev ByteRange := Nat × Nat

/-- The pieces of a range of numbers with so many digits to the base 64 after the first.  The
first digits stand for blocks of numbers: a block at an end of the range that is not used whole is
a piece, or pieces, of its own, and the blocks between are one. -/
def digitRanges : Nat → Nat → Nat → List (List ByteRange)
  | 0, low, high => [[(low, high)]]
  | digits + 1, low, high =>
    let block := Nat.pow 64 (digits + 1)
    let part (first low high : Nat) : List (List ByteRange) :=
      (digitRanges digits low high).map ((first, first) :: ·)
    let whole (low high : Nat) : List (List ByteRange) :=
      if low ≤ high then [(low, high) :: List.replicate (digits + 1) (0, 63)] else []
    let (first, last) := (low / block, high / block)
    let (start, stop) := (low % block, high % block)
    if first = last then
      if start = 0 ∧ stop = block - 1 then whole first last else part first start stop
    else
      (if start = 0 then [] else part first start (block - 1)) ++
        whole (if start = 0 then first else first + 1)
          (if stop = block - 1 then last else last - 1) ++
        if stop = block - 1 then [] else part last 0 stop

/-- The forms that characters have: the first and last code, how many bytes follow the first, and
the mark of the first.  No character has a code between the third row and the fourth. -/
def byteForms : List (Nat × Nat × Nat × Nat) :=
  [(0, 0x7F, 0, 0), (0x80, 0x7FF, 1, 0xC0), (0x800, 0xD7FF, 2, 0xE0), (0xE000, 0xFFFF, 2, 0xE0),
   (0x10000, CodeSet.top, 3, 0xF0)]

/-- Puts the marks on the digits of a piece. -/
def markBytes (mark : Nat) : List ByteRange → List ByteRange
  | [] => []
  | (low, high) :: rest =>
    (mark + low, mark + high) :: rest.map fun (low, high) ↦ (0x80 + low, 0x80 + high)

/-- The pieces of a range of codes. -/
def rangeBytes (low high : Nat) : List (List ByteRange) :=
  byteForms.flatMap fun (first, last, following, mark) ↦
    let (low, high) := (max first low, min last high)
    if low ≤ high then (digitRanges following low high).map (markBytes mark) else []

/-- The bytes of a character. -/
def charBytes (c : Char) : List Nat :=
  (rangeBytes c.toNat c.toNat).flatMap fun piece ↦ piece.map (·.1)

end Text

/-- The pieces of a set, in order. -/
def CodeSet.byteRanges (s : CodeSet) : List (List Text.ByteRange) :=
  s.normal.ranges.flatMap fun r ↦ Text.rangeBytes r.1 r.2

end Sift
