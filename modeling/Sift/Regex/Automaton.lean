import Sift.Regex

/-!
# Matching

Whether an expression matches somewhere in a text is found with an automaton that follows all ways
to match at once, so that the time it takes grows with the size of the automaton times the length
of the text and no more.

`Automaton.ofRegex` lays the states of an expression out from its end to its beginning: each part
is given the state that comes after it.  `Automaton.explore` goes from some states through all
that take no character, marking the states it has seen, and gathers what can take one;
`Automaton.searchFrom` does so at every position of the text, starting afresh at each.
-/

set_option autoImplicit false
namespace Sift
namespace Regex

/-- A state of an automaton. -/
inductive State where
  /-- The text matches. -/
  | accept
  /-- Takes a character of a set. -/
  | take (codes : CodeSet) (next : Nat)
  /-- Goes on if a condition holds. -/
  | check (condition : Condition) (next : Nat)
  /-- Goes on both ways. -/
  | fork (first second : Nat)

/-- Numbered states and the one to begin with. -/
structure Automaton where
  states : Array State
  start : Nat

namespace Automaton

/-! ## Laying out -/

/-- Adds a state in front. -/
def push (a : Automaton) (state : State) : Automaton :=
  let start := a.states.size
  ⟨a.states.push state, start⟩

/-- Puts an expression in front of an automaton. -/
def prepend : Regex → Automaton → Automaton
  | .empty, a => a
  | .spelled chars, a => chars.foldr (fun c a ↦ a.push (.take (.single c) a.start)) a
  | .set codes, a => a.push (.take codes a.start)
  | .condition c, a => a.push (.check c a.start)
  | .capture operand, a => prepend operand a
  | .sequence first second, a => prepend first (prepend second a)
  | .choice first second, a =>
    let after := a.start
    let left := prepend first a
    let right := prepend second { left with start := after }
    right.push (.fork left.start right.start)
  | .repetition least none operand, a =>
    let after := a.start
    let loop := a.push .accept
    let again := prepend operand loop
    let states := again.states.set! loop.start (.fork again.start after)
    Nat.repeat (prepend operand) least ⟨states, loop.start⟩
  | .repetition least (some most) operand, a =>
    let after := a.start
    let optional (a : Automaton) : Automaton :=
      let once := prepend operand a
      once.push (.fork once.start after)
    Nat.repeat (prepend operand) least (Nat.repeat optional (most - least) a)

/-- The automaton of an expression. -/
def ofRegex (regex : Regex) : Automaton :=
  prepend regex ⟨#[.accept], 0⟩

/-! ## Running -/

/-- What is known at a position: for each state the number of the last position at which it was
seen, the states that can take a character, and whether the text matches. -/
structure Frontier where
  marks : Array Nat
  takers : List (CodeSet × Nat)
  accepts : Bool

/-- Goes from the states of a list through all that take no character.  Every state leads to two
others at most and is looked at once, so the steps that are allowed suffice. -/
def explore (a : Automaton) (place : Position) (round : Nat) :
    Nat → List Nat → Frontier → Frontier
  | 0, _, f | _, [], f => f
  | steps + 1, i :: rest, f =>
    if f.marks[i]? = some round then explore a place round steps rest f
    else
      let f := { f with marks := f.marks.set! i round }
      match a.states[i]? with
      | some (.take codes next) =>
        explore a place round steps rest { f with takers := (codes, next) :: f.takers }
      | some (.check c next) =>
        explore a place round steps (if c.holds place then next :: rest else rest) f
      | some (.fork first second) => explore a place round steps (first :: second :: rest) f
      | some .accept => { f with accepts := true }
      | none => explore a place round steps rest f

/-- The frontier at a position that some states are reached at. -/
def frontier (a : Automaton) (place : Position) (round : Nat) (reached : List Nat)
    (marks : Array Nat) : Frontier :=
  let steps := 2 * a.states.size + reached.length + 2
  explore a place round steps (a.start :: reached) ⟨marks, [], false⟩

/-- Goes through a text with the states reached so far, beginning afresh at every position. -/
def searchFrom (a : Automaton) (before : Option Char) (round : Nat) (reached : List Nat)
    (marks : Array Nat) : List Char → Bool
  | [] => (a.frontier ⟨before, none⟩ round reached marks).accepts
  | c :: rest =>
    let f := a.frontier ⟨before, some c⟩ round reached marks
    let next := f.takers.filterMap fun (codes, next) ↦ if codes.contains c then some next else none
    f.accepts || searchFrom a (some c) (round + 1) next f.marks rest

end Automaton

/-- Whether an expression matches somewhere in a text. -/
def search (regex : Regex) (text : String) : Bool :=
  let a := Automaton.ofRegex regex
  a.searchFrom none 1 [] (Array.replicate a.states.size 0) text.toList

end Regex
end Sift
