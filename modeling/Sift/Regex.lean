import Sift.Regex.Condition

/-!
# Regular expressions

`Regex` is what a pattern means once its flags are worked in and its classes are sets.

Expressions are built in a normal form by `Regex.ofSet`, `Regex.ofParts`, `Regex.ofBranches` and
`Regex.repeated`: a sequence is flat and its neighbouring texts are one text, a choice is flat and
becomes one set where that is possible, and nothing is repeated that could only match the empty
text.  The normal form matches what the expression as it was written matches; how much room an
expression takes, which a pattern may not take too much of, is measured on the normal form.
-/

set_option autoImplicit false
namespace Sift

/-- A regular expression over sets of characters and conditions on positions. -/
inductive Regex where
  | empty
  | spelled (chars : List Char)
  | set (codes : CodeSet)
  | condition (condition : Regex.Condition)
  | capture (operand : Regex)
  | repetition (least : Nat) (most : Option Nat) (operand : Regex)
  | sequence (first second : Regex)
  | choice (first second : Regex)
deriving DecidableEq

namespace Regex

/-! ## What an expression can match -/

/-- The length of the shortest text that an expression matches if its conditions hold; `none` if
it can match none. -/
def minimumLength : Regex → Option Nat
  | .empty | .condition _ => some 0
  | .spelled chars => some chars.length
  | .set codes => if codes.isEmpty then none else some 1
  | .capture operand => operand.minimumLength
  | .repetition least _ operand => operand.minimumLength.map (least * ·)
  | .sequence first second => do
    let m ← first.minimumLength
    let n ← second.minimumLength
    some (m + n)
  | .choice first second => do
    let m ← first.minimumLength
    let n ← second.minimumLength
    some (min m n)

/-- Whether every match takes a character. -/
def consumes (regex : Regex) : Bool :=
  regex.minimumLength.any (0 < ·)

/-- Whether an expression matches no text but the empty one. -/
def isBlank : Regex → Bool
  | .empty | .condition _ => true
  | .spelled chars => chars.isEmpty
  | .set _ => false
  | .capture operand => operand.isBlank
  | .repetition _ most operand => most.isSome && operand.isBlank
  | .sequence first second | .choice first second => first.isBlank && second.isBlank

/-- Whether some part of an expression is captured. -/
def hasCapture : Regex → Bool
  | .empty | .spelled _ | .set _ | .condition _ => false
  | .capture _ => true
  | .repetition _ _ operand => operand.hasCapture
  | .sequence first second | .choice first second => first.hasCapture || second.hasCapture

/-! ## Sets and sequences -/

/-- The codes that are not characters. -/
def surrogates : CodeSet := .range 0xD800 0xDFFF

/-- The characters of a set.  A set of one character is a text. -/
def ofSet (codes : CodeSet) : Regex :=
  let codes := codes.diff surrogates
  match codes.ranges with
  | [(low, high)] => if low = high then .spelled [.ofNat low] else .set codes
  | _ => .set codes

/-- The parts of a sequence. -/
def parts : Regex → List Regex
  | .empty => []
  | .sequence first second => first.parts ++ second.parts
  | regex => [regex]

/-- Puts a part in front of others, joining texts. -/
def consPart : Regex → List Regex → List Regex
  | .spelled first, .spelled second :: rest => .spelled (first ++ second) :: rest
  | part, rest => part :: rest

/-- The expression for one part after another; one part stands for itself. -/
def sequenceOf : List Regex → Regex
  | [] => .empty
  | [part] => part
  | part :: rest => .sequence part (sequenceOf rest)

/-- One expression after another. -/
def ofParts (regexes : List Regex) : Regex :=
  sequenceOf ((regexes.flatMap parts).foldr consPart [])

/-! ## Choices -/

/-- The branches of a choice. -/
def branches : Regex → List Regex
  | .choice first second => first.branches ++ second.branches
  | regex => [regex]

/-- The expression for one branch or another; without branches nothing matches. -/
def choiceOf : List Regex → Regex
  | [] => .set .empty
  | [branch] => branch
  | branch :: rest => .choice branch (choiceOf rest)

/-- The set of a branch that is one character. -/
def charSet? : Regex → Option CodeSet
  | .spelled [c] => some (.single c)
  | _ => none

/-- The set of a branch that is one set. -/
def codeSet? : Regex → Option CodeSet
  | .set codes => some codes
  | _ => none

/-- Branches that are all single characters, or all sets, as one set. -/
def mergedSet? (branches : List Regex) : Option CodeSet :=
  (branches.mapM charSet? <|> branches.mapM codeSet?).map .unions

/-- A choice without looking for what its branches have in common. -/
def mergedChoice (regexes : List Regex) : Regex :=
  match regexes.flatMap branches with
  | [branch] => branch
  | flat => ((mergedSet? flat).map ofSet).getD (choiceOf flat)

/-- How many parts two sequences have in common at their beginnings.  A part that is captured is
like no other. -/
def commonParts : List Regex → List Regex → Nat
  | x :: xs, y :: ys => if x = y && !x.hasCapture then commonParts xs ys + 1 else 0
  | _, _ => 0

/-- How many parts all branches have in common, if all of them are sequences. -/
def sharedParts (branches : List Regex) : Nat :=
  match branches.map parts with
  | [] => 0
  | first :: rest =>
    if (first :: rest).all (2 ≤ ·.length) then
      rest.foldl (fun n other ↦ min n (commonParts first other)) first.length
    else 0

/-- One expression or another.  What all branches begin with stands in front of the choice. -/
def ofBranches (regexes : List Regex) : Regex :=
  let flat := regexes.flatMap branches
  match flat with
  | [branch] => branch
  | first :: _ =>
    if (mergedSet? flat).isSome then mergedChoice flat
    else
      match sharedParts flat with
      | 0 => choiceOf flat
      | n =>
        ofParts (first.parts.take n ++
          [mergedChoice (flat.map fun branch ↦ ofParts (branch.parts.drop n))])
  | [] => choiceOf []

/-! ## Repetitions -/

/-- An expression repeated at least so often and at most so often.  Repeating what matches only
the empty text changes nothing after the first time. -/
def repeated (least : Nat) (most : Option Nat) (operand : Regex) : Regex :=
  let (least, most) :=
    if operand.isBlank then (min least 1, some (min (most.getD 1) 1)) else (least, most)
  match least, most with
  | 0, some 0 => .empty
  | 1, some 1 => operand
  | least, most => .repetition least most operand

end Regex
end Sift
