import Sift.Regex
import Sift.Text.Utf8

/-!
# The room a pattern takes

A pattern may be well formed and still ask for too much: `\w{1000}` repeats, in seven signs, a set
that takes tens of kilobytes.  What counts is the size of an automaton that reads a text byte by
byte, once from front to back and once from back to front, and neither may take more than
`Regex.roomLimit`.

Every state takes `Regex.stateRoom`.  A state with several ranges of bytes takes
`Regex.rangeRoom` more for each, and one with several ways on takes `Regex.wayRoom` more for each.
-/

set_option autoImplicit false
namespace Sift
namespace Regex

/-- The order in which a text is read. -/
inductive Direction where
  | forward
  | backward
deriving DecidableEq

/-- The room of a state. -/
def stateRoom : Nat := 32

/-- The room of a range of bytes in a state that has several. -/
def rangeRoom : Nat := 8

/-- The room of a way on from a state that has several. -/
def wayRoom : Nat := 4

/-- A state with so many ways on. -/
def forkRoom (ways : Nat) : Nat := stateRoom + ways * wayRoom

/-- Where a captured part begins and ends is marked only when reading forward. -/
def captureRoom : Direction → Nat
  | .forward => 2 * stateRoom
  | .backward => 0

/-! ## Sets -/

/-- The entries of a list by what they begin with, in the order in which the beginnings come. -/
def groupByHead {α : Type} [DecidableEq α] (texts : List (List α)) : List (α × List (List α)) :=
  (texts.filterMap List.head?).eraseDups.map fun head ↦
    (head, (texts.filter (·.head? = some head)).map (·.drop 1))

/-- What can follow on each way into a tree of pieces, down to so many levels; the tree itself
comes first. -/
def subtrees : Nat → List (List Text.ByteRange) → List (List (List Text.ByteRange))
  | 0, _ => []
  | levels + 1, pieces =>
    if pieces.all (·.isEmpty) then []
    else pieces :: (groupByHead pieces).flatMap fun (_, rest) ↦ subtrees levels rest

/-- Read forward, the pieces of a set are a tree in which equal subtrees are stored once. -/
def forwardSetRoom (pieces : List (List Text.ByteRange)) : Nat :=
  (subtrees 4 pieces).eraseDups.foldl
    (fun room tree ↦ room + stateRoom + rangeRoom * (groupByHead tree).length) stateRoom

/-- Read backward, every piece is a way of its own up to the beginning that it has in common with
another piece. -/
def backwardSetRoom (pieces : List (List Text.ByteRange)) : Nat :=
  let beginnings := pieces.flatMap fun piece ↦
    (List.range piece.length).map fun n ↦ piece.take (n + 1)
  forkRoom pieces.length + stateRoom + stateRoom * beginnings.eraseDups.length

/-- The room of a set.  Among the ASCII characters every range is one range of bytes. -/
def setRoom (direction : Direction) (codes : CodeSet) : Nat :=
  if codes.ranges.all (·.2 < 128) then 2 * stateRoom + rangeRoom * codes.ranges.length
  else match direction with
    | .forward => forwardSetRoom codes.byteRanges
    | .backward => backwardSetRoom codes.byteRanges

/-! ## Texts -/

/-- The parts of a list between the entries that are empty. -/
def splitAtEmpty {α : Type} (texts : List (List α)) : List (List (List α)) :=
  texts.splitOnP List.isEmpty

/-- A choice of texts is a tree of bytes.  Where a text ends, the texts after it make a new set of
branches.  A branch that ends at once is no state. -/
def treeRoom : Nat → List (List Nat) → Nat
  | 0, _ => 0
  | levels + 1, texts =>
    if texts.all (·.isEmpty) then 0
    else
      let sets := ((splitAtEmpty texts).filter (!·.isEmpty)).map groupByHead
      let ends := (texts.filter (·.isEmpty)).length
      let own := sets.foldl (fun room ways ↦
        room + stateRoom + if ways.length = 1 then 0 else rangeRoom * ways.length)
        (forkRoom (sets.length + ends))
      sets.flatten.foldl (fun room way ↦ room + treeRoom levels way.2) own

/-- The bytes of a text in the order in which they are read. -/
def textBytes (direction : Direction) (chars : List Char) : List Nat :=
  let bytes := chars.flatMap Text.charBytes
  match direction with
  | .forward => bytes
  | .backward => bytes.reverse

/-- The room of a choice between texts. -/
def choiceOfTextsRoom (direction : Direction) (texts : List (List Char)) : Nat :=
  let texts := texts.map (textBytes direction)
  stateRoom + treeRoom ((texts.map List.length).foldl max 0 + 1) texts

/-- The texts of branches that are nothing else. -/
def texts? (branches : List Regex) : Option (List (List Char)) :=
  branches.mapM fun
    | .spelled chars => some chars
    | _ => none

/-! ## Expressions -/

/-- The room of a repetition whose operand takes so much. -/
def repetitionRoom (least : Nat) (most : Option Nat) (consumes : Bool) (room : Nat) : Nat :=
  match least, most with
  | 0, none =>
    if consumes then forkRoom 2 + room else 2 * forkRoom 2 + stateRoom + room
  | least, none => least * room + forkRoom 2
  | 0, some 1 => forkRoom 2 + stateRoom + room
  | least, some most =>
    (if least = 0 then stateRoom else least * room) +
      if most ≤ least then 0 else stateRoom + (most - least) * (forkRoom 2 + room)

/-- The room of an expression by itself, or as one branch or more of a choice. -/
def roomOf (direction : Direction) (asBranch : Bool) : Regex → Nat
  | .choice first second =>
    let branches := first.roomOf direction true + second.roomOf direction true
    if asBranch then branches
    else match texts? (first.branches ++ second.branches) with
      | some texts => choiceOfTextsRoom direction texts
      | none => 2 * stateRoom + branches
  | .empty | .condition _ => ownWay + stateRoom
  | .spelled chars => ownWay + stateRoom * (chars.flatMap Text.charBytes).length
  | .set codes => ownWay + setRoom direction codes
  | .capture operand => ownWay + captureRoom direction + operand.roomOf direction false
  | .repetition least most operand =>
    ownWay + repetitionRoom least most operand.consumes (operand.roomOf direction false)
  | .sequence first second =>
    ownWay + first.roomOf direction false + second.roomOf direction false
where
  ownWay : Nat := if asBranch then wayRoom else 0

/-- Whether a match can only begin where reading begins. -/
def isAnchored (direction : Direction) : Regex → Bool
  | .empty | .spelled _ | .set _ => false
  | .condition c =>
    match direction with
    | .forward => c == .startOfText
    | .backward => c == .endOfText
  | .capture operand => operand.isAnchored direction
  | .repetition least _ operand => 0 < least && operand.isAnchored direction
  | .sequence first second =>
    match direction with
    | .forward =>
      first.isAnchored direction || first.isBlank && second.isAnchored direction
    | .backward =>
      second.isAnchored direction || second.isBlank && first.isAnchored direction
  | .choice first second => first.isAnchored direction && second.isAnchored direction

/-- The room of the automaton for an expression.  Unless it is anchored it can begin to match
after any bytes.  The whole match is captured. -/
def room (direction : Direction) (regex : Regex) : Nat :=
  let start :=
    if regex.isAnchored direction then stateRoom else forkRoom 2 + 2 * stateRoom + rangeRoom
  start + captureRoom direction + regex.roomOf direction false + stateRoom

/-- An automaton may not take more room. -/
def roomLimit : Nat := 10 * 1024 * 1024

/-- Whether the automata for an expression fit. -/
def fits (regex : Regex) : Bool :=
  regex.room .forward ≤ roomLimit && regex.room .backward ≤ roomLimit

end Regex
end Sift
