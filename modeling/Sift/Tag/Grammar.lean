import Sift.Tag.ItemPath

/-!
# The grammar of values

The value of a tag is an expression, and expressions hold types, patterns, blocks and further
tags.  Only what kind of thing was read matters for how reading goes on, so what a `Phrase` is read
as is a `Shape`.

Phrases refer to one another in every direction.  A `Rule` for some phrases is therefore given the
way to read all phrases; `Phrase.read` puts the rules together.
-/

set_option autoImplicit false
namespace Sift
namespace Grammar

/-- How tightly operators bind; later ones bind more. -/
inductive Binding where
  | loosest
  | assignment
  | range
  | or
  | and
  | comparison
  | bitOr
  | bitXor
  | bitAnd
  | shift
  | sum
  | product
  | cast
deriving DecidableEq

/-- The place of a binding in the order of the constructors. -/
def Binding.rank : Binding → Nat
  | .loosest => 0
  | .assignment => 1
  | .range => 2
  | .or => 3
  | .and => 4
  | .comparison => 5
  | .bitOr => 6
  | .bitXor => 7
  | .bitAnd => 8
  | .shift => 9
  | .sum => 10
  | .product => 11
  | .cast => 12

/-- A binding is less than those that bind more tightly. -/
instance : LT Binding := ⟨fun a b ↦ a.rank < b.rank⟩

instance (a b : Binding) : Decidable (a < b) := Nat.decLt a.rank b.rank

/-- What reading goes on by, of what was read. -/
inductive Shape where
  | plain
  /-- An expression that is a range. -/
  | range
  /-- An expression whose outermost operator compares. -/
  | comparison
  /-- An expression that ends a statement by its closing brace. -/
  | block
  /-- Words in braces after a name and an exclamation mark. -/
  | bracedCall
  /-- A type that is a single word, perhaps with arguments in angle brackets. -/
  | name
  /-- Any other type that is a path. -/
  | path
  /-- A bound that is a word after a single quote. -/
  | lifetime
  /-- A pattern for all below or above a bound. -/
  | openRange
deriving DecidableEq

/-- What can be read. -/
inductive Phrase where
  /-- An expression.  Before a block, a name with braces is no record. -/
  | expression (allowsRecord : Bool)
  /-- An expression without operators between operands. -/
  | operand (allowsRecord : Bool)
  /-- Operators and operands after the first operand. -/
  | operators (allowsRecord : Bool) (least : Binding) (left : Shape)
  /-- An expression where a statement can stand. -/
  | statement
  /-- A type; where it stands alone, bounds can be added to it. -/
  | type (allowsBounds : Bool)
  /-- What can be asked of a type. -/
  | bound
  | pattern
  /-- Patterns with bars between them. -/
  | patterns
  /-- Statements in braces. -/
  | block
  /-- A tag in its brackets. -/
  | tag

/-- A way to read phrases. -/
abbrev Rules := Phrase → Reader Shape

namespace Rules

/-- Reads a phrase without regard to its shape. -/
def take (rules : Rules) (phrase : Phrase) : Reader Unit := do
  let _ ← rules phrase

/-- Tags in front of something. -/
def takeTags (rules : Rules) : Reader Unit :=
  Reader.whileSeeing (Token.isMarkAt "#") do
    Reader.takeMark "#"
    rules.take .tag

/-- Tags at the beginning of what they are about. -/
def takeInnerTags (rules : Rules) : Reader Unit :=
  Reader.whileSeeing (fun next ↦ Token.isMarkAt "#" next && Token.isMarkAt "!" (next.drop 1)) do
    Reader.skip 2
    rules.take .tag

end Rules

end Grammar
end Sift
