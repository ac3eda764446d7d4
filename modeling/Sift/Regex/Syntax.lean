import Sift.Text.Property

/-!
# Syntax of patterns

The syntax tree of a regular expression as it is written: groups and flag settings are still in
place, and character classes are still expressions.  `Syntax.nesting` is how deep the tree is,
which a pattern may not take past `Syntax.nestingLimit`.
-/

set_option autoImplicit false
namespace Sift
namespace Regex

/-- What a flag letter turns on or off. -/
inductive Flag where
  | caseInsensitive
  | multiLine
  | dotMatchesNewline
  | swapGreed
  | unicode
  | crlf
  | ignoreWhitespace
deriving DecidableEq

/-- The flags that a setting such as `i-s` turns on or off. -/
abbrev FlagChange := List (Flag × Bool)

/-- Conditions on a position that consume nothing. -/
inductive Anchor where
  | startOfLine
  | endOfLine
  | startOfText
  | endOfText
  | wordBoundary
  | notWordBoundary
  | wordStart
  | wordEnd
  | wordStartHalf
  | wordEndHalf
deriving DecidableEq

/-- The classes that one letter after a backslash names. -/
inductive LetterClass where
  | digit
  | space
  | word
deriving DecidableEq

/-- The operators between sets in a bracketed class. -/
inductive ClassOperator where
  | intersection
  | difference
  | symmetricDifference
deriving DecidableEq

/-- An expression inside brackets. -/
inductive ClassSyntax where
  | code (code : Nat)
  | range (low high : Nat)
  | named (negated : Bool) (name : String)
  | letter (negated : Bool) (kind : LetterClass)
  | property (negated : Bool) (name : String)
  | bracketed (negated : Bool) (inner : ClassSyntax)
  | union (items : List ClassSyntax)
  | operation (operator : ClassOperator) (left right : ClassSyntax)

/-- A pattern as it is written. -/
inductive Syntax where
  | empty
  | setFlags (change : FlagChange)
  | literal (code : Nat) (isByte : Bool)
  | dot
  | anchor (anchor : Anchor)
  | letter (negated : Bool) (kind : LetterClass)
  | property (negated : Bool) (name : String)
  | bracketed (negated : Bool) (inner : ClassSyntax)
  | repetition (operand : Syntax) (least : Nat) (most : Option Nat)
  | group (captures : Bool) (change : FlagChange) (inner : Syntax)
  | alternation (branches : List Syntax)
  | concatenation (parts : List Syntax)

/-! ## Nesting -/

mutual

/-- How deep brackets, unions and operators nest in a class.  Where nothing stands, nothing
nests. -/
def ClassSyntax.nesting : ClassSyntax → Nat
  | .union [] => 0
  | .bracketed _ inner => inner.nesting + 1
  | .union items => ClassSyntax.nestingOfItems items + 1
  | .operation _ left right => max left.nesting right.nesting + 1
  | _ => 0

/-- How deep the deepest item nests. -/
def ClassSyntax.nestingOfItems : List ClassSyntax → Nat
  | [] => 0
  | item :: items => max item.nesting (ClassSyntax.nestingOfItems items)

end

mutual

/-- How deep groups, repetitions, sequences and classes nest in a pattern. -/
def Syntax.nesting : Syntax → Nat
  | .bracketed _ inner => inner.nesting + 1
  | .repetition operand _ _ => operand.nesting + 1
  | .group _ _ inner => inner.nesting + 1
  | .alternation branches => Syntax.nestingOfParts branches + 1
  | .concatenation parts => Syntax.nestingOfParts parts + 1
  | _ => 0

/-- How deep the deepest part nests. -/
def Syntax.nestingOfParts : List Syntax → Nat
  | [] => 0
  | part :: parts => max part.nesting (Syntax.nestingOfParts parts)

end

/-- A pattern may not nest deeper. -/
def Syntax.nestingLimit : Nat := 250

/-! ## Joining -/

/-- A sequence of parts; one part stands for itself. -/
def Syntax.ofParts : List Syntax → Syntax
  | [] => .empty
  | [part] => part
  | parts => .concatenation parts

/-- A choice between branches; one branch stands for itself. -/
def Syntax.ofBranches : List Syntax → Syntax
  | [branch] => branch
  | branches => .alternation branches

/-- The class of some items; one item stands for itself. -/
def ClassSyntax.ofItems : List ClassSyntax → ClassSyntax
  | [item] => item
  | items => .union items

end Regex
end Sift
