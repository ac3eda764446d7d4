import Sift.Clause.Json
import Sift.Predicate

/-!
# Predicates as JSON

A predicate is an object that names its kind and, beside it, the parts of that kind.  The kind may
stand anywhere in the object, so a predicate is held: it is read whole before its parts are, and
nothing in it may be unreadable.

Inside another predicate the kind may also be given by its place in the list of kinds.
-/

set_option autoImplicit false
namespace Sift
namespace Predicate

/-! ## Writing -/

/-- A predicate as JSON. -/
def toJson : Predicate → Json
  | .leaf v clause =>
    .object [("kind", .string "leaf"), ("var", .string v.name), ("clause", clause.toJson)]
  | .and left right =>
    .object [("kind", .string "and"), ("left", left.toJson), ("right", right.toJson)]
  | .or left right =>
    .object [("kind", .string "or"), ("left", left.toJson), ("right", right.toJson)]
  | .not operand => .object [("kind", .string "not"), ("node", operand.toJson)]
  | .never => .object [("kind", .string "never")]

/-! ## Reading -/

/-- The kinds of predicate. -/
inductive Kind where
  | leaf
  | and
  | or
  | not
  | never
deriving DecidableEq

namespace Kind

/-- All kinds, in the order that places refer to. -/
def every : List Kind := [.leaf, .and, .or, .not, .never]

/-- The name a kind is stored under. -/
def name : Kind → String
  | .leaf => "leaf"
  | .and => "and"
  | .or => "or"
  | .not => "not"
  | .never => "never"

/-- The kind that is stored under a name. -/
def ofName? (name : String) : Option Kind :=
  every.find? (·.name == name)

/-- A kind by its name, or by its place if that is allowed. -/
def ofJson (allowsPlace : Bool) : Json → Read Kind
  | .string name => Json.required (ofName? name)
  | json => if allowsPlace then json.readPlace every else Json.malformed

/-- The names of the parts of a kind, in order. -/
def parts : Kind → List String
  | .leaf => ["var", "clause"]
  | .and | .or => ["left", "right"]
  | .not => ["node"]
  | .never => []

end Kind

/-- What was read of a predicate's parts so far; the operand of a negation counts as left. -/
structure Draft where
  var : Option Variable
  clause : Option Clause
  left : Option Predicate
  right : Option Predicate

namespace Draft

/-- A draft in which nothing was read. -/
def start : Draft := ⟨none, none, none, none⟩

/-- The predicate of a kind, whose parts must all have been read. -/
def finish (draft : Draft) : Kind → Read Predicate
  | .leaf => do
    let v ← Json.required draft.var
    let clause ← Json.required draft.clause
    return .leaf v clause
  | .and => do
    let left ← Json.required draft.left
    let right ← Json.required draft.right
    return .and left right
  | .or => do
    let left ← Json.required draft.left
    let right ← Json.required draft.right
    return .or left right
  | .not => do
    let operand ← Json.required draft.left
    return .not operand
  | .never => .ok .never

end Draft

/-- The kind that the members of an object name; it must be named once. -/
def kindOfMembers (allowsPlace : Bool) (members : List (String × Json)) : Read Kind :=
  match members.filter (·.1 == "kind") with
  | [(_, json)] => Kind.ofJson allowsPlace json
  | _ => Json.malformed

/-- Which part of a predicate a name stands for. -/
inductive Part where
  | var
  | clause
  | left
  | right
deriving DecidableEq

/-- The part of a kind that has a name, if there is one. -/
def Kind.part? : Kind → String → Option Part
  | .leaf, "var" => some .var
  | .leaf, "clause" => some .clause
  | .and, "left" | .or, "left" | .not, "node" => some .left
  | .and, "right" | .or, "right" => some .right
  | _, _ => none

/-- Adds the part that a name stands for, given the member's value and that value as a predicate.
What the kind has no part for is skipped. -/
def Draft.add (draft : Draft) (kind : Kind) (name : String) (value : Json)
    (operand : Read Predicate) : Read Draft :=
  match kind.part? name with
  | some .var => do
    let v ← Json.setOnce draft.var (value.readString.map Variable.mk)
    return { draft with var := v }
  | some .clause => do
    let clause ← Json.setOnce draft.clause (Clause.ofJson true value)
    return { draft with clause }
  | some .left => do
    let left ← Json.setOnce draft.left operand
    return { draft with left }
  | some .right => do
    let right ← Json.setOnce draft.right operand
    return { draft with right }
  | none => .ok draft

mutual

/-- Reads a predicate whose parts are all readable. -/
def ofReadable (allowsPlace : Bool) : Json → Read Predicate
  | .object members => do
    let kind ← kindOfMembers allowsPlace members
    let draft ← addMembers kind .start members
    draft.finish kind
  | .array (first :: items) => do
    let kind ← Kind.ofJson allowsPlace first
    let draft ← addItems kind kind.parts .start items
    draft.finish kind
  | _ => Json.malformed

/-- Reads the members of an object as parts of a kind. -/
def addMembers (kind : Kind) (draft : Draft) : List (String × Json) → Read Draft
  | [] => .ok draft
  | (name, value) :: members => do
    let next ← draft.add kind name value (ofReadable true value)
    addMembers kind next members

/-- Reads the items of an array as the parts of a kind in order. -/
def addItems (kind : Kind) (names : List String) (draft : Draft) : List Json → Read Draft
  | [] => .ok draft
  | value :: items =>
    match names with
    | [] => Json.malformed
    | name :: names => do
      let next ← draft.add kind name value (ofReadable true value)
      addItems kind names next items

end

/-- Reads a predicate. -/
def ofJson (json : Json) : Read Predicate :=
  if json.isReadable then ofReadable false json else Json.malformed

end Predicate
end Sift
